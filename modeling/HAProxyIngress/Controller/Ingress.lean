import HAProxyIngress.Model.Go

/-! The per-ingress part of a pass: admission, ssl-passthrough, paths and annotation rules. -/

namespace HAProxyIngress.Controller

open HAProxyIngress.Model

variable (env : Env)

def admitByClass (ingressClasses : List (String × IngressClass)) (controllerClass : String)
    (ingress : Ingress) : Option Ingress :=
  match ingressClasses.lookup ingress.ingClass with
  | some igClass =>
    if igClass.status ≠ .DELETED ∧ igClass.controller = controllerClass then
      some (if igClass.status ≠ .EMPTY then { ingress with status := .MODIFIED } else ingress)
    else none
  | none => none

def igClassIsSupported (args : OSArgs) (ingressClasses : List (String × IngressClass))
    (controllerClass : String) (ingress : Ingress) : Bool × Ingress :=
  let igClassAnn := getValue env.defaults "ingress.class" [ingress.annotations]
  if igClassAnn = "" ∧ args.emptyIngressClass then (true, ingress)
  else
    let byClass := if igClassAnn = "" ∨ igClassAnn ≠ args.ingressClass then
        admitByClass ingressClasses controllerClass ingress
      else none
    match byClass with
    | some ingress => (true, ingress)
    | none => (decide (igClassAnn = args.ingressClass), ingress)

def passthroughFlag (annSSLPassthrough : String) : Go Bool :=
  if annSSLPassthrough = "" then pure false
  else
    match getBoolValue annSSLPassthrough with
    | (_, some _) => pure false
    | (enabled, none) =>
      if enabled then do
        modifyCfg fun c => { c with sslPassthrough := true }
        pure true
      else pure false

def sslPassthroughEnabled (ingress : Ingress) (path : Option IngressPath) : Go Bool := do
  let service ← match path with
    | none => pure none
    | some path =>
      match env.store.namespaces.lookup ingress.ns with
      | none => throw .nilDereference
      | some ns => pure (ns.services.lookup path.svcName)
  passthroughFlag <| match service with
    | some service => getValue env.defaults "ssl-passthrough"
        [service.annotations, ingress.annotations, env.store.configMap]
    | none => getValue env.defaults "ssl-passthrough" [ingress.annotations, env.store.configMap]

def deleteCustomRoute (backendName : String) : Go Bool := fun s =>
  if (s.customRoutes.lookup backendName).isSome then
    .ok (true, { s with customRoutes := s.customRoutes.filter (·.1 ≠ backendName),
                        log := s.log ++ [.customRouteDelete] })
  else .ok (false, s)

def addCustomRoute (route : Route) (routeACLAnn : String) : Go (Bool × Option Err) := fun s =>
  let (reload, err) := env.addCustomRoute route routeACLAnn
  let routes := if err.isNone then
    (route.backendName, routeACLAnn) :: s.customRoutes.filter (·.1 ≠ route.backendName)
  else s.customRoutes
  .ok ((reload, err), { s with customRoutes := routes, log := s.log ++ [.customRoute reload] })

def markActive (backendName : String) : Go Unit :=
  modifyCfg fun c => { c with activeBackends := c.activeBackends.insert backendName }

def handleIngressPath (ingress : Ingress) (host : String) (path : IngressPath)
    (ruleIDs : List RuleID) : Go (Bool × Option Err) := do
  let sslPassthrough ← sslPassthroughEnabled env ingress (some path)
  match env.newCtx ingress (some path) sslPassthrough with
  | .error e => return (false, some e)
  | .ok svc =>
    if svc.status = .DELETED then return (false, none)
    let (backendReload, backendName, err) := svc.handleBackend
    record (.backend backendReload)
    if let some e := err then return (false, some e)
    let ingRoute : Route := ⟨host, path, ruleIDs, backendName, sslPassthrough⟩
    let routeACLAnn := getValue env.defaults "route-acl" [svc.service.annotations]
    let (routeReload, err) ← if routeACLAnn = "" then do
        let deleted ← deleteCustomRoute backendName
        pure (deleted, env.addHostPathRoute ingRoute)
      else addCustomRoute env ingRoute routeACLAnn
    if let some e := err then return (false, some e)
    markActive backendName
    record (.endpoints svc.handleEndpoints)
    return (backendReload || svc.handleEndpoints || routeReload, none)

def editDefaultBackends (backendName : String) : List String → Go (Except Err Bool)
  | [] => pure (.ok false)
  | frontendName :: rest => do
    let frontend := match ← Api.frontendGet frontendName with
      | .ok f => f
      | .error _ => default
    match ← Api.frontendEdit { frontend with defaultBackend := backendName } with
    | some e => pure (.error e)
    | none =>
      match ← editDefaultBackends backendName rest with
      | .error e => pure (.error e)
      | .ok _ => pure (.ok true)

def setDefaultService (ingress : Ingress) (frontends : List String) : Go (Bool × Option Err) := do
  let frontendName ← index0 frontends
  match ← Api.frontendGet frontendName with
  | .error e => return (false, some e)
  | .ok frontend =>
    let tcpService := frontend.mode = "tcp"
    match env.newCtx ingress ingress.defaultBackend tcpService with
    | .error e => return (false, some e)
    | .ok svc =>
      if svc.status = .DELETED then return (false, none)
      let (bdReload, backendName, err) := svc.handleBackend
      record (.backend bdReload)
      if let some e := err then return (false, some e)
      let ftReload ← if frontend.defaultBackend ≠ backendName then
          editDefaultBackends backendName frontends
        else pure (.ok false)
      match ftReload with
      | .error e => return (false, some e)
      | .ok ftReload =>
        markActive backendName
        record (.endpoints svc.handleEndpoints)
        return (bdReload || ftReload || svc.handleEndpoints, none)

def ruleFrontends (ingress : Ingress) (frontends : List String) (rule : Rule) :
    Go (List String) := do
  let cfg ← getCfg
  match rule with
  | .requestRedirect sslRedirect _ =>
    pure (if sslRedirect then [cfg.frontHTTP] else [cfg.frontHTTP, cfg.frontHTTPS])
  | .reqDeny _ | .reqCapture _ => do
    if ← sslPassthroughEnabled env ingress none then pure [cfg.frontHTTP, cfg.frontSSL]
    else pure frontends
  | .reqRateLimit tableName _ => do
    modifyCfg fun c => { c with rateLimitTables := c.rateLimitTables ++ [tableName] }
    pure frontends
  | _ => pure frontends

def addRules (ingress : Ingress) (ingressRule : Bool) : List String → List Rule → Go (List RuleID)
  | _, [] => pure []
  | frontends, rule :: rest => do
    let frontends ← ruleFrontends env ingress frontends rule
    modifyCfg fun c =>
      { c with haproxyRules := frontends.foldl (fun reg f => addRule rule ingressRule f reg) c.haproxyRules }
    let ids ← addRules ingress ingressRule frontends rest
    return env.getID rule :: ids

def frontendRules (ingress : Ingress) (annList : Annotations) : List Rule :=
  (env.frontendAnnotations ingress).flatMap fun a => (a.process (getValue env.defaults a.name [annList])).1

def handleIngressAnnotations (ingress : Ingress) : Go (List RuleID) := do
  let (annList, ingressRule) :=
    if ingress = default then (env.store.configMap, false) else (ingress.annotations, true)
  let cfg ← getCfg
  let result := frontendRules env ingress annList
  addRules env ingress ingressRule [cfg.frontHTTP, cfg.frontHTTPS] result

end HAProxyIngress.Controller
