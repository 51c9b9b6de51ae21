import HAProxyIngress.Model.Go

/-! The HTTPS handler of controller/handler/https.go. -/

namespace HAProxyIngress.Handler

open HAProxyIngress.Model

structure HTTPS where
  enabled : Bool
  ipv4 : Bool
  ipv6 : Bool
  port : Int
  addrIPv4 : String
  addrIPv6 : String
  certDir : String
  alpn : String
  deriving DecidableEq, Repr

namespace HTTPS

variable (h : HTTPS) (env : Env)

def bindList (passthrough : Bool) : List Bind :=
  (if h.ipv4 then
    [{ (default : Bind) with
      name := "v4", address := if passthrough then "127.0.0.1" else h.addrIPv4,
      port := some h.port, acceptProxy := passthrough }]
  else []) ++
  (if h.ipv6 then
    [{ (default : Bind) with
      name := "v6", address := if passthrough then "::1" else h.addrIPv6,
      port := some h.port, acceptProxy := passthrough, v4v6 := true }]
  else [])

def eachBind (call : Bind → Go (Option Err)) (err : Option Err) : List Bind →
    Go (Except Err (Option Err))
  | [] => pure (.ok err)
  | b :: bs => do
    match ← call b with
    | some e => pure (.error e)
    | none => eachBind call none bs

def caFileOf (annTLSAuth : String) : String × Option Err :=
  match env.certs.handleTLSSecret ⟨"", annTLSAuth, .CA_CERT⟩ with
  | .ok f => (f, none)
  | .error .notFound => ("", none)
  | .error .other => ("", some .certificate)

def applyClientTLS (ft caFile verify : String) (err : Option Err) (binds : List Bind) :
    Go (Bool × Option Err) := do
  let b0 ← index0 binds
  if b0.sslCafile = caFile ∧ b0.verify = verify then pure (false, err)
  else
    let verify := if caFile = "" then "" else verify
    match ← eachBind (Api.frontendBindEdit ft) err
        (binds.map fun b => { b with sslCafile := caFile, verify := verify }) with
    | .error e => pure (false, some e)
    | .ok err => pure (true, err)

def handleClientTLSAuth : Go (Bool × Option Err) :=
  let annTLSAuth := getValue env.defaults "client-ca" [env.store.configMap]
  let annTLSVerify := getValue env.defaults "client-crt-optional" [env.store.configMap]
  if annTLSAuth = "" then pure (false, none)
  else do
    let cfg ← getCfg
    match ← Api.frontendBindsGet cfg.frontHTTPS with
    | .error e => pure (false, some e)
    | .ok binds =>
      let (caFile, err) := caFileOf env annTLSAuth
      let verify := if (getBoolValue annTLSVerify).1 then "optional" else "required"
      applyClientTLS cfg.frontHTTPS caFile verify err binds

def toggleSSLPassthrough (passthrough : Bool) : Go (Option Err) := do
  let cfg ← getCfg
  match ← eachBind (Api.frontendBindEdit cfg.frontHTTPS) none (h.bindList passthrough) with
  | .error e => return some e
  | .ok _ =>
    if cfg.https then
      loggerPanic (← Api.frontendEnableSSLOffload cfg.frontHTTPS h.certDir h.alpn)
    return none

def enableSSLPassthrough : Go (Option Err) := do
  let cfg ← getCfg
  match ← Api.frontendCreate ⟨cfg.frontSSL, "tcp", cfg.backSSL⟩ with
  | some e => return some e
  | none =>
    match ← eachBind (Api.frontendBindCreate cfg.frontSSL) none (h.bindList false) with
    | .error e => return some (.bindCreate e)
    | .ok _ =>
      let e1 ← Api.backendCreate ⟨cfg.backSSL, "tcp"⟩
      let e2 ← Api.backendServerCreate cfg.backSSL ⟨cfg.frontHTTPS, "127.0.0.1", some h.port, "enabled"⟩
      let e3 ← Api.backendSwitchingRuleCreate cfg.frontSSL ⟨some 0, "%[var(txn.sni_match),field(1,.)]"⟩
      let e4 ← h.toggleSSLPassthrough true
      return errorsResult [e1, e2, e3, e4]

def disableSSLPassthrough : Go (Option Err) := do
  let cfg ← getCfg
  match ← Api.frontendDelete cfg.frontSSL with
  | some e => return some e
  | none =>
    modifyCfg fun c => { c with haproxyRules := deleteFrontend c.frontSSL c.haproxyRules }
    match ← Api.backendDelete cfg.backSSL with
    | some e => return some e
    | none => h.toggleSSLPassthrough false

def inspectTimeout : Option Int :=
  let annTimeout := getValue env.defaults "timeout-client" [env.store.configMap]
  if annTimeout = "" then some 5000 else (env.parseTime annTimeout).elim (some 5000) some

def sniRules : List Rule :=
  [.reqAcceptContent,
   .reqInspectDelay (inspectTimeout env),
   .reqSetVar "sni" "sess" "req_ssl_sni" "",
   .reqSetVar "sni_match" "txn" ("req_ssl_sni,map(" ++ env.sniMapPath ++ ")") "",
   .reqSetVar "sni_match" "txn" ("req_ssl_sni,regsub(^[^.]*,,),map(" ++ env.sniMapPath ++ ")")
     "!\x7b var(txn.sni_match) -m found \x7d"]

def sslPassthroughRules : Go Unit :=
  modifyCfg fun c =>
    { c with haproxyRules := (sniRules env).foldl (fun reg r => addRule r false c.frontSSL reg) c.haproxyRules }

def updateSSLOffload : Go (Except (Bool × Err) Bool) := do
  let cfg ← getCfg
  if env.certs.frontendCertsEnabled then
    let reload ← if !cfg.https then do
        loggerPanic (← Api.frontendEnableSSLOffload cfg.frontHTTPS h.certDir h.alpn)
        modifyCfg fun c => { c with https := true }
        pure true
      else pure false
    let (r, err) ← handleClientTLSAuth env
    match err with
    | some e => return .error (r, e)
    | none => return .ok (reload || r)
  else if cfg.https then
    loggerPanic (← Api.frontendDisableSSLOffload cfg.frontHTTPS)
    modifyCfg fun c => { c with https := false }
    return .ok true
  else return .ok false

def updateSSLPassthrough : Go Bool := do
  let cfg ← getCfg
  let ftSSL ← Api.frontendGet cfg.frontSSL
  if cfg.sslPassthrough then
    let reload ← match ftSSL with
      | .error _ => do
        let _ ← h.enableSSLPassthrough
        modifyCfg fun c => { c with sslPassthrough := true }
        pure true
      | .ok _ => pure false
    sslPassthroughRules env
    return reload
  else
    match ftSSL with
    | .ok _ =>
      let _ ← h.disableSSLPassthrough
      modifyCfg fun c => { c with sslPassthrough := false }
      return true
    | .error _ => return false

def update : Go (Bool × Option Err) := do
  if !h.enabled then return (false, none)
  let h := { h with alpn := getValue env.defaults "tls-alpn" [env.store.configMap] }
  match ← h.updateSSLOffload env with
  | .error (r, e) => return (r, some e)
  | .ok reload =>
    let reload := (← h.updateSSLPassthrough env) || reload
    return (reload || env.certs.updated, none)

end HTTPS

end HAProxyIngress.Handler
