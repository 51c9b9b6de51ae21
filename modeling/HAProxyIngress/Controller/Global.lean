import HAProxyIngress.Controller.Ingress
import HAProxyIngress.Model.Sections

/-! The global part of a pass: the sections, the default service and the config-map rules. -/

namespace HAProxyIngress.Controller

open HAProxyIngress.Model

variable (env : Env)

def handleDefaultService : Go Bool := do
  let dsvcData := getValue env.defaults "default-backend-service" []
  if dsvcData = "" then return false
  match split dsvcData '/' with
  | [nsName, svcName] =>
    if nsName = "" ∨ svcName = "" then return false
    match env.store.namespaces.lookup nsName with
    | none => return false
    | some nspace =>
      match nspace.services.lookup svcName with
      | none => return false
      | some service =>
        let port ← index0 service.ports
        let ingress : Ingress :=
          { ns := nspace.name, name := "DefaultService", annotations := [],
            defaultBackend := some ⟨service.name, port.port, true⟩, status := .EMPTY,
            ingClass := "" }
        let cfg ← getCfg
        -- an error of setDefaultService is only logged
        let (reload, _) ← setDefaultService env ingress [cfg.frontHTTP, cfg.frontHTTPS]
        return reload
  | _ => return false

section Sections

variable {G T D : Type} [Inhabited G] [Inhabited D] [DecidableEq G] [DecidableEq T]
  [DecidableEq D] (senv : SyncEnv G T D)

def desiredSection {α : Type} (cr : Option α) (handlers : List (SectionHandler α)) (zero : α) : α :=
  match cr with
  | some a => a
  | none => handlers.foldl
      (fun acc a => (a.process (getValue env.defaults a.name [env.store.configMap]) acc).1) zero

def desiredGlobal : G × Option (List T) :=
  desiredSection env (senv.crGlobal.map (·, none)) senv.globalAnnotations (default, none)

def globalCfg : Sync G T D (Bool × Bool) := do
  let .ok global ← SectionApi.globalGetConfiguration | return (false, false)
  let .ok lg ← SectionApi.globalGetLogTargets | return (false, false)
  let (newGlobal, newLg) := desiredGlobal env senv
  let newGlobal := senv.setGlobal newGlobal
  let restartGlobal ← if newGlobal ≠ global then do
      let _ ← SectionApi.globalPushConfiguration newGlobal
      pure true
    else pure false
  let restartLog ← if newLg ≠ lg then do
      let _ ← SectionApi.globalDeleteLogTargets
      let _ ← SectionApi.globalCreateLogTargets newLg
      pure true
    else pure false
  return (senv.frontendSnippet.1, restartGlobal || restartLog || senv.globalSnippet.1)

def desiredDefaults : D := desiredSection env senv.crDefaults senv.defaultsAnnotations default

def defaultsCfg : Sync G T D Bool := do
  let .ok defaults ← SectionApi.defaultsGetConfiguration | return false
  let newDefaults := senv.setDefaults (desiredDefaults env senv)
  if newDefaults ≠ defaults then
    match ← SectionApi.defaultsPushConfiguration newDefaults with
    | some _ => return false
    | none => return true
  else return false

def handleGlobalConfig (sections : Sections G T D) : Go ((Bool × Bool) × Sections G T D) := do
  let ((reload, restart), sections) := globalCfg env senv sections
  let (defaultsReload, sections) := defaultsCfg env senv sections
  let reload := defaultsReload || reload
  let reload := (← handleDefaultService env) || reload
  let _ ← handleIngressAnnotations env default
  return ((reload, restart), sections)

end Sections

end HAProxyIngress.Controller
