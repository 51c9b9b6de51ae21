import HAProxyIngress.Proofs.Passthrough
import HAProxyIngress.Proofs.Ingress

/-! The passthrough wiring over any run of the controller's entry points. -/

namespace HAProxyIngress.Proofs.Sync

open HAProxyIngress.Model HAProxyIngress.Handler HAProxyIngress.Controller
  HAProxyIngress.Proofs.Ingress HAProxyIngress.Proofs.Passthrough

structure Wiring (s s' : St) : Prop where
  frontHTTPS : s'.cfg.frontHTTPS = s.cfg.frontHTTPS
  frontSSL : s'.cfg.frontSSL = s.cfg.frontSSL
  backSSL : s'.cfg.backSSL = s.cfg.backSSL
  binds : ∀ n, Proxy.frontendBindsGet n s'.proxy = Proxy.frontendBindsGet n s.proxy
  sslFrontend : Proxy.frontendGet s.cfg.frontSSL s'.proxy = Proxy.frontendGet s.cfg.frontSSL s.proxy
  backends : ∀ n, s'.proxy.backend? n = s.proxy.backend? n

namespace Wiring

variable {s s' s'' : St}

lemma of_proxy (hp : s'.proxy = s.proxy) (h₁ : s'.cfg.frontHTTPS = s.cfg.frontHTTPS)
    (h₂ : s'.cfg.frontSSL = s.cfg.frontSSL) (h₃ : s'.cfg.backSSL = s.cfg.backSSL) : Wiring s s' :=
  ⟨h₁, h₂, h₃, fun _ => by rw [hp], by rw [hp], fun _ => by rw [hp]⟩

lemma refl (s : St) : Wiring s s := of_proxy rfl rfl rfl rfl

lemma trans (h : Wiring s s') (h' : Wiring s' s'') : Wiring s s'' where
  frontHTTPS := h'.frontHTTPS.trans h.frontHTTPS
  frontSSL := h'.frontSSL.trans h.frontSSL
  backSSL := h'.backSSL.trans h.backSSL
  binds n := (h'.binds n).trans (h.binds n)
  sslFrontend := by rw [← h.frontSSL, h'.sslFrontend, h.frontSSL, h.sslFrontend]
  backends n := (h'.backends n).trans (h.backends n)

lemma chained {h : HTTPS} {pt : Bool} (hw : Wiring s s') (hc : Chained h s pt) : Chained h s' pt where
  https_binds := by
    obtain ⟨l, hl, hlis, hcl⟩ := hc.https_binds
    exact ⟨l, by rw [hw.frontHTTPS, hw.binds, hl], hlis, hcl⟩
  ssl_frontend := by rw [hw.frontSSL, hw.backSSL, hw.sslFrontend]; exact hc.ssl_frontend
  ssl_backend := by
    rw [hw.backSSL, hw.backends, chainServer, hw.frontHTTPS]
    exact hc.ssl_backend

end Wiring

section Keeps

variable {α : Type}

lemma keeps_pure (a : α) : Go.Keeps Wiring (pure a : Go α) := Go.keeps_pure Wiring.refl a

lemma keeps_bind {β : Type} {x : Go α} {f : α → Go β} (hx : Go.Keeps Wiring x)
    (hf : ∀ a, Go.Keeps Wiring (f a)) : Go.Keeps Wiring (x >>= f) :=
  Go.keeps_bind Wiring.trans hx hf

end Keeps

section WiringFor

variable {names : List String} {α : Type}

end WiringFor

/-- Modelled from the spec: the sync loop is not in the repository's files. It calls the
controller's entry points in the order the Kubernetes events decide, each with the store and
collaborators of its moment. handleGlobalConfig changes the controller state as the default
service followed by the config-map rules do. -/
inductive Step
  | update (env : Env)
  | defaultService (env : Env)
  | ingressAnnotations (env : Env) (ingress : Ingress)
  | ingressPath (env : Env) (ingress : Ingress) (host : String) (path : IngressPath) (ruleIDs : List RuleID)

def Step.run (h : HTTPS) : Step → Go Unit
  | .update env => h.update env >>= fun _ => pure ()
  | .defaultService env => handleDefaultService env >>= fun _ => pure ()
  | .ingressAnnotations env ingress => handleIngressAnnotations env ingress >>= fun _ => pure ()
  | .ingressPath env ingress host path ruleIDs =>
    handleIngressPath env ingress host path ruleIDs >>= fun _ => pure ()

variable (h) in
def runSteps (h : HTTPS) : List (Step × List Bool) → St → Except Panic St
  | [], s => .ok s
  | (step, faults) :: rest, s =>
    match step.run h { s with faults := faults } with
    | .ok (_, s') => runSteps h rest s'
    | .error e => .error e

def edgeService : Service := ⟨"web", [], [⟨443⟩]⟩

def edgeEnv : Env where
  store := ⟨[("default", ⟨"default", [("web", edgeService)]⟩)], []⟩
  defaults := [("default-backend-service", "default/web")]
  certs := ⟨false, false, fun _ => .error .notFound⟩
  newCtx _ _ _ := .ok ⟨.EMPTY, edgeService, (true, "default-web-443", none), false⟩
  addHostPathRoute _ := none
  addCustomRoute _ _ := (false, none)
  frontendAnnotations _ := []
  getID _ := ""
  parseTime _ := none
  sniMapPath := ""

def edgeSteps : List (Step × List Bool) :=
  [(.update edgeEnv, []), (.defaultService edgeEnv, [false, true]), (.update edgeEnv, [])]

end HAProxyIngress.Proofs.Sync
