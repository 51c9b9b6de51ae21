import HAProxyIngress.Proofs.ClientTLS
import HAProxyIngress.Proofs.DefaultService
import HAProxyIngress.Proofs.Ingress

/-! Reload signalling: a nil error asks for a reload whenever a logged change needs one. -/

namespace HAProxyIngress.Proofs.Reload

open HAProxyIngress.Model HAProxyIngress.Handler HAProxyIngress.Controller
  HAProxyIngress.Proofs.ClientTLS HAProxyIngress.Proofs.DefaultService HAProxyIngress.Proofs.Ingress

def Signals (s : St) (r : Bool × Option Err) (s' : St) : Prop :=
  r.2 = none → ∃ new, s'.log = s.log ++ new ∧ (new.any Effect.reloads → r.1 = true)

lemma signals_of_log {s s' : St} (b : Bool) (e : Option Err) (h : s'.log = s.log) :
    Signals s (b, e) s' :=
  fun _ => ⟨[], by simp [h], by simp⟩

lemma signals_true {s s' : St} (e : Option Err) (new : List Effect) (h : s'.log = s.log ++ new) :
    Signals s (true, e) s' :=
  fun _ => ⟨new, h, fun _ => rfl⟩

lemma mutate_log (c : Call) (f : Proxy → Option Proxy) (s : St) :
    Go.Post (Api.mutate c f) s fun _ s' => ∃ ok, s'.log = s.log ++ [.api c ok] := by
  rw [Api.post_mutate]
  split <;> exact ⟨_, rfl⟩

lemma read_log {α : Type} (f : Proxy → Option α) (s : St) :
    Go.Post (Api.read f) s fun _ s' => s'.log = s.log := by
  rw [Api.post_read]
  split <;> rfl

def Appends {α : Type} (x : Go α) : Prop := ∀ s, Go.Post x s fun _ s' => ∃ new, s'.log = s.log ++ new

section Appends

variable {α β : Type}

lemma appends_of_log {x : Go α} (h : ∀ s, Go.Post x s fun _ s' => s'.log = s.log) : Appends x :=
  fun s => (h s).mono fun _ _ h' => ⟨[], by simp [h']⟩

lemma appends_bind {x : Go α} {f : α → Go β} (hx : Appends x) (hf : ∀ a, Appends (f a)) :
    Appends (x >>= f) := fun s =>
  Go.post_bind.2 <| (hx s).mono fun a _ ⟨n₁, h₁⟩ =>
    (hf a _).mono fun _ _ ⟨n₂, h₂⟩ => ⟨n₁ ++ n₂, by simp [h₁, h₂]⟩

lemma appends_pure (a : α) : Appends (pure a : Go α) := appends_of_log fun _ => Go.post_pure.2 rfl

lemma appends_getCfg : Appends getCfg := appends_of_log fun _ => Go.post_getCfg.2 rfl

lemma appends_modifyCfg (g : ControllerCfg → ControllerCfg) : Appends (modifyCfg g) :=
  appends_of_log fun _ => Go.post_modifyCfg.2 rfl

lemma appends_loggerPanic (e : Option Err) : Appends (loggerPanic e) :=
  appends_of_log fun _ => Go.post_loggerPanic.2 fun _ => rfl

lemma appends_mutate (c : Call) (f : Proxy → Option Proxy) : Appends (Api.mutate c f) :=
  fun s => (mutate_log c f s).mono fun _ _ ⟨_, h⟩ => ⟨_, h⟩

end Appends

lemma appends_eachBind (call : Bind → Go (Option Err)) (hc : ∀ b, Appends (call b))
    (err : Option Err) (bs : List Bind) : Appends (HTTPS.eachBind call err bs) := by
  induction bs generalizing err with
  | nil => exact appends_pure _
  | cons b bs ih =>
    refine appends_bind (hc b) fun o => ?_
    cases o
    · exact ih none
    · exact appends_pure _

lemma appends_toggleSSLPassthrough (h : HTTPS) (pt : Bool) : Appends (h.toggleSSLPassthrough pt) := by
  unfold HTTPS.toggleSSLPassthrough
  refine appends_bind appends_getCfg fun cfg =>
    appends_bind (appends_eachBind _ (fun _ => appends_mutate _ _) _ _) fun r => ?_
  rcases r with e | _
  · exact appends_pure _
  · dsimp only
    split
    · exact appends_bind (appends_mutate _ _) fun _ => appends_bind (appends_loggerPanic _) fun _ =>
        appends_pure _
    · exact appends_bind (appends_pure _) fun _ => appends_pure _

lemma appends_enableSSLPassthrough (h : HTTPS) : Appends h.enableSSLPassthrough := by
  unfold HTTPS.enableSSLPassthrough
  refine appends_bind appends_getCfg fun cfg => appends_bind (appends_mutate _ _) fun e => ?_
  rcases e with _ | e
  · refine appends_bind (appends_eachBind _ (fun _ => appends_mutate _ _) _ _) fun r => ?_
    rcases r with e | _
    · exact appends_pure _
    · exact appends_bind (appends_mutate _ _) fun _ => appends_bind (appends_mutate _ _) fun _ =>
        appends_bind (appends_mutate _ _) fun _ =>
          appends_bind (appends_toggleSSLPassthrough h true) fun _ => appends_pure _
  · exact appends_pure _

lemma appends_disableSSLPassthrough (h : HTTPS) : Appends h.disableSSLPassthrough := by
  unfold HTTPS.disableSSLPassthrough
  refine appends_bind appends_getCfg fun cfg => appends_bind (appends_mutate _ _) fun e => ?_
  rcases e with _ | e
  · refine appends_bind (appends_modifyCfg _) fun _ => appends_bind (appends_mutate _ _) fun e => ?_
    rcases e with _ | e
    · exact appends_toggleSSLPassthrough h false
    · exact appends_pure _
  · exact appends_pure _

lemma handleClientTLSAuth_signals (env : Env) (s : St) :
    Go.Post (HTTPS.handleClientTLSAuth env) s (Signals s) := by
  simp only [HTTPS.handleClientTLSAuth]
  by_cases hann : getValue env.defaults "client-ca" [env.store.configMap] = ""
  · simpa [hann] using signals_of_log false none rfl
  simp only [hann, if_false, Go.post_bind, Go.post_getCfg, Api.frontendBindsGet, Api.post_read]
  split
  · refine (applyClientTLS_post _ _ _ _ _ _).mono ?_
    rintro r s' (⟨b0, -, -, rfl, rfl⟩ | ⟨-, herr⟩ | ⟨rfl, rfl⟩)
    · exact signals_of_log _ _ rfl
    · intro hr
      simp [hr] at herr
    · exact signals_true _ _ rfl
  · exact Go.post_pure.2 (signals_of_log _ _ rfl)

lemma updateSSLOffload_signals (h : HTTPS) (env : Env) (s : St) :
    Go.Post (h.updateSSLOffload env) s fun r s' =>
      ∀ b, r = .ok b → ∃ new, s'.log = s.log ++ new ∧ (new.any Effect.reloads → b = true) := by
  simp only [HTTPS.updateSSLOffload, Go.post_bind, Go.post_getCfg]
  split
  · simp only [Go.post_ite, Go.post_bind, Go.post_pure, Go.post_modifyCfg, Go.post_loggerPanic]
    refine ⟨fun _ => (mutate_log _ _ _).mono fun _ s₁ ⟨ok, hl₁⟩ _ => ?_, fun _ => ?_⟩
    · refine (handleClientTLSAuth_signals env _).mono ?_
      rintro ⟨r, _ | e⟩ s' hr
      · obtain ⟨new, hnew, -⟩ := hr rfl
        exact Go.post_pure.2 fun b hb => by cases hb; exact ⟨.api .frontendEnableSSLOffload ok :: new, by simp [hnew, hl₁], fun _ => rfl⟩
      · exact Go.post_pure.2 nofun
    · refine (handleClientTLSAuth_signals env _).mono ?_
      rintro ⟨r, _ | e⟩ s' hr
      · obtain ⟨new, hnew, himp⟩ := hr rfl
        exact Go.post_pure.2 fun b hb => by cases hb; exact ⟨new, hnew, himp⟩
      · exact Go.post_pure.2 nofun
  · simp only [Go.post_ite, Go.post_bind, Go.post_pure, Go.post_modifyCfg, Go.post_loggerPanic]
    refine ⟨fun _ => (mutate_log _ _ _).mono fun _ s₁ ⟨ok, hl₁⟩ _ b hb => ?_, fun _ b hb => ?_⟩
    · cases hb
      exact ⟨_, hl₁, fun _ => rfl⟩
    · exact ⟨[], by simp, by simp⟩

lemma updateSSLPassthrough_log (h : HTTPS) (env : Env) (s : St) :
    Go.Post (h.updateSSLPassthrough env) s fun b s' =>
      ∃ new, s'.log = s.log ++ new ∧ (b = false → new = []) := by
  simp only [HTTPS.updateSSLPassthrough, Go.post_bind, Go.post_getCfg]
  refine (read_log _ _).mono fun ft s₁ hl₁ => ?_
  simp only [Go.post_ite, Go.post_bind, Go.post_pure, HTTPS.sslPassthroughRules, Go.post_modifyCfg]
  refine ⟨fun _ => ?_, fun _ => ?_⟩ <;> split <;> simp only [Go.post_bind, Go.post_modifyCfg, Go.post_pure]
  · exact (appends_enableSSLPassthrough h s₁).mono fun _ _ ⟨new, hl⟩ => ⟨new, by simp [hl, hl₁], by simp⟩
  · exact ⟨[], by simp [hl₁], fun _ => rfl⟩
  · exact (appends_disableSSLPassthrough h s₁).mono fun _ _ ⟨new, hl⟩ => ⟨new, by simp [hl, hl₁], by simp⟩
  · exact ⟨[], by simp [hl₁], fun _ => rfl⟩

lemma update_signals (h : HTTPS) (env : Env) (s : St) : Go.Post (h.update env) s (Signals s) := by
  simp only [HTTPS.update, Go.post_ite, Go.post_bind, Go.post_pure]
  refine ⟨fun _ => signals_of_log _ _ rfl, fun _ => (updateSSLOffload_signals _ env s).mono ?_⟩
  rintro (⟨r, e⟩ | b) s₁ h₁
  · exact Go.post_pure.2 fun h => nomatch h
  · obtain ⟨new₁, hl₁, himp₁⟩ := h₁ b rfl
    refine Go.post_bind.2 <| (updateSSLPassthrough_log _ env s₁).mono fun b₂ s₂ ⟨new₂, hl₂, h₀⟩ => ?_
    refine Go.post_pure.2 fun _ => ⟨new₁ ++ new₂, by simp [hl₂, hl₁], fun hr => ?_⟩
    cases b₂
    · simp only [h₀ rfl, List.append_nil] at hr
      simp [himp₁ hr]
    · rfl
lemma setDefaultService_signals (env : Env) (ingress : Ingress) (frontends : List String) (s : St) :
    Go.Post (setDefaultService env ingress frontends) s (Signals s) := by
  simp only [setDefaultService, Go.post_bind, Go.post_index0, Api.frontendGet, Api.post_read]
  intro n hn
  split
  · rename_i f hf
    split
    · exact Go.post_pure.2 (signals_of_log _ _ rfl)
    · rename_i svc hsvc
      simp only [Go.post_ite, Go.post_bind, Go.post_pure, Go.post_record]
      refine ⟨fun _ => signals_of_log _ _ rfl, fun _ => ?_⟩
      split
      · exact Go.post_pure.2 nofun
      · simp only [Go.post_pure, Go.post_bind, Go.post_ite, markActive, Go.post_modifyCfg,
          Go.post_record]
        refine ⟨fun _ => (editDefaultBackends_post _ _ _).mono ?_, fun _ => ?_⟩
        · rintro (e | x) s' h
          · exact Go.post_pure.2 nofun
          · obtain ⟨-, -, -, ⟨new, hnew⟩, hx⟩ := h x rfl
            simp only [Go.post_bind, Go.post_modifyCfg, Go.post_record, Go.post_pure]
            refine fun _ => ⟨[.backend svc.3.1] ++ new ++ [.endpoints svc.handleEndpoints],
              by simp [hnew], fun hr => ?_⟩
            cases x
            · obtain ⟨-, rfl⟩ := hx rfl
              obtain rfl : new = [] := by simpa using hnew
              simpa [Effect.reloads] using hr
            · simp
        · refine fun _ => ⟨[.backend svc.3.1, .endpoints svc.handleEndpoints], by simp,
            fun hr => by simpa [Effect.reloads] using hr⟩
  · exact Go.post_pure.2 (signals_of_log _ _ rfl)

lemma deleteCustomRoute_log (backendName : String) (s : St) :
    Go.Post (deleteCustomRoute backendName) s fun b s' =>
      s'.log = s.log ++ if b then [.customRouteDelete] else [] := by
  intro b s' h
  unfold deleteCustomRoute at h
  split_ifs at h <;> cases h <;> simp

lemma addCustomRoute_log (env : Env) (route : Route) (ann : String) (s : St) :
    Go.Post (addCustomRoute env route ann) s fun r s' => s'.log = s.log ++ [.customRoute r.1] := by
  intro r s' h
  cases h
  rfl

lemma handleIngressPath_signals (env : Env) (ingress : Ingress) (host : String) (path : IngressPath)
    (ruleIDs : List RuleID) (s : St) :
    Go.Post (handleIngressPath env ingress host path ruleIDs) s (Signals s) := by
  simp only [handleIngressPath, Go.post_bind]
  refine (sslPassthroughEnabled_post env ingress (some path) s).mono fun pt s₁ hs₁ => ?_
  have hl₁ : s₁.log = s.log := by rw [hs₁]; split <;> rfl
  split
  · exact Go.post_pure.2 (signals_of_log _ _ hl₁)
  · rename_i svc hsvc
    simp only [Go.post_ite, Go.post_bind, Go.post_pure, Go.post_record]
    refine ⟨fun _ => signals_of_log _ _ hl₁, fun _ => ?_⟩
    split
    · exact Go.post_pure.2 nofun
    · simp only [Go.post_bind, Go.post_pure, Go.post_ite]
      constructor
      · intro _
        refine (deleteCustomRoute_log _ _).mono fun deleted s₃ hl₃ => ?_
        split
        · exact Go.post_pure.2 nofun
        · simp only [Go.post_bind, Go.post_pure, markActive, Go.post_modifyCfg, Go.post_record]
          refine fun _ => ⟨[.backend svc.3.1] ++ (if deleted then [.customRouteDelete] else []) ++
            [.endpoints svc.handleEndpoints], by simp [hl₃, hl₁], fun hr => ?_⟩
          cases deleted
          · simp [Effect.reloads] at hr ⊢
            tauto
          · simp
      · intro _
        refine (addCustomRoute_log _ _ _ _).mono fun r s₃ hl₃ => ?_
        split
        · exact Go.post_pure.2 nofun
        · simp only [Go.post_bind, Go.post_pure, markActive, Go.post_modifyCfg, Go.post_record]
          refine fun _ => ⟨[.backend svc.3.1, .customRoute r.1, .endpoints svc.handleEndpoints],
            by simp [hl₃, hl₁], fun hr => ?_⟩
          simp [Effect.reloads] at hr ⊢
          tauto

theorem reload_covers_logged_changes (h : HTTPS) (env : Env) (ingress : Ingress)
    (frontends : List String) (host : String) (path : IngressPath) (ruleIDs : List RuleID) (s : St) :
    Go.Post (h.update env) s (Signals s) ∧
      Go.Post (HTTPS.handleClientTLSAuth env) s (Signals s) ∧
      Go.Post (setDefaultService env ingress frontends) s (Signals s) ∧
      Go.Post (handleIngressPath env ingress host path ruleIDs) s (Signals s) :=
  ⟨update_signals h env s, handleClientTLSAuth_signals env s, setDefaultService_signals env ingress frontends s,
    handleIngressPath_signals env ingress host path ruleIDs s⟩

def routeFailEnv : Env where
  store := ⟨[("default", ⟨"default", [("web", ⟨"web", [], [⟨80⟩]⟩)]⟩)], []⟩
  defaults := []
  certs := ⟨false, false, fun _ => .error .notFound⟩
  newCtx _ _ _ := .ok ⟨.EMPTY, ⟨"web", [], [⟨80⟩]⟩, (true, "default-web-80", none), false⟩
  addHostPathRoute _ := some .route
  addCustomRoute _ _ := (false, none)
  frontendAnnotations _ := []
  getID _ := ""
  parseTime _ := none
  sniMapPath := ""

theorem handleIngressPath_drops_backend_reload :
    (handleIngressPath routeFailEnv ⟨"default", "web", [], none, .EMPTY, ""⟩ "example.com"
        ⟨"web", 80, false⟩ [] ⟨.init, ⟨[], []⟩, [], [], []⟩).map (fun r => (r.1, r.2.log)) =
      .ok ((false, some .route), [.backend true]) := by
  decide

end HAProxyIngress.Proofs.Reload
