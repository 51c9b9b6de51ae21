import HAProxyIngress.Handler.Https
import HAProxyIngress.Proofs.Rules

/-! What HTTPS.Update never touches, under every pattern of API failures. -/

namespace HAProxyIngress.Proofs.Frame

open HAProxyIngress.Model HAProxyIngress.Handler

variable (https ssl bssl : String)

def httpsShape (sec : FrontendSection) : Frontend × List BackendSwitchingRule × List String :=
  (sec.frontend, sec.switchingRules, sec.binds.map Bind.name)

structure ProxyFrame (p p' : Proxy) : Prop where
  frontends : ∀ n, n ≠ https → n ≠ ssl → p'.frontend? n = p.frontend? n
  https_shape : (p'.frontend? https).map httpsShape = (p.frontend? https).map httpsShape
  backends : ∀ n, n ≠ bssl → p'.backend? n = p.backend? n

structure UpdateFrame (s s' : St) : Prop where
  cfg : ∃ o pt rs, s'.cfg = { s.cfg with https := o, sslPassthrough := pt, haproxyRules := rs }
  proxy : ProxyFrame https ssl bssl s.proxy s'.proxy
  rules : ∀ e : RuleEntry, e.frontend ≠ ssl → (e ∈ s'.cfg.haproxyRules ↔ e ∈ s.cfg.haproxyRules)
  customRoutes : s'.customRoutes = s.customRoutes

def Names (c : ControllerCfg) : Prop := c.frontHTTPS = https ∧ c.frontSSL = ssl ∧ c.backSSL = bssl

variable {https ssl bssl} {p p' p'' : Proxy} {s s' s'' : St}

namespace ProxyFrame

lemma refl (p : Proxy) : ProxyFrame https ssl bssl p p := ⟨fun _ _ _ => rfl, rfl, fun _ _ => rfl⟩

lemma trans (h : ProxyFrame https ssl bssl p p') (h' : ProxyFrame https ssl bssl p' p'') :
    ProxyFrame https ssl bssl p p'' :=
  ⟨fun n h₁ h₂ => (h'.frontends n h₁ h₂).trans (h.frontends n h₁ h₂), h'.https_shape.trans h.https_shape,
    fun n hn => (h'.backends n hn).trans (h.backends n hn)⟩

end ProxyFrame

namespace UpdateFrame

lemma of_eq (hc : s'.cfg = s.cfg) (hp : s'.proxy = s.proxy) (hr : s'.customRoutes = s.customRoutes) :
    UpdateFrame https ssl bssl s s' :=
  ⟨⟨_, _, _, hc⟩, hp ▸ .refl _, fun _ _ => by rw [hc], hr⟩

lemma trans (h : UpdateFrame https ssl bssl s s') (h' : UpdateFrame https ssl bssl s' s'') :
    UpdateFrame https ssl bssl s s'' := by
  obtain ⟨⟨o, pt, rs, hc⟩, hp, hr, hcr⟩ := h
  obtain ⟨⟨o', pt', rs', hc'⟩, hp', hr', hcr'⟩ := h'
  exact ⟨⟨o', pt', rs', by rw [hc', hc]⟩, hp.trans hp', fun e he => (hr' e he).trans (hr e he),
    hcr'.trans hcr⟩

lemma names (h : UpdateFrame https ssl bssl s s') (hn : Names https ssl bssl s.cfg) :
    Names https ssl bssl s'.cfg := by
  obtain ⟨o, pt, rs, hc⟩ := h.cfg
  rw [hc]
  exact hn

end UpdateFrame

lemma proxyFrame_modifyBinds_https {g : List Bind → List Bind}
    (hg : ∀ l, (g l).map Bind.name = l.map Bind.name) (p : Proxy) :
    ProxyFrame https ssl bssl p (p.modifyBinds https g) where
  frontends n hn _ := Proxy.frontend?_modifyBinds_ne g hn
  https_shape := by
    rw [Proxy.frontend?_modifyBinds_self, Option.map_map]
    exact congrArg (Option.map · _) (funext fun sec => by simp [httpsShape, hg])
  backends _ _ := rfl

section Ssl

variable (hne : https ≠ ssl)
include hne

lemma proxyFrame_modifyFrontend_ssl {g : FrontendSection → FrontendSection}
    (hg : ∀ sec, (g sec).frontend.name = sec.frontend.name) (p : Proxy) :
    ProxyFrame https ssl bssl p (p.modifyFrontend ssl g) where
  frontends n hn hn' := Proxy.frontend?_modifyFrontend_ne (fun sec h => (hg sec).trans h) hn'
  https_shape := by rw [Proxy.frontend?_modifyFrontend_ne (fun sec h => (hg sec).trans h) hne]
  backends _ _ := rfl

lemma proxyFrame_frontendCreate_ssl (f : FrontendSection) (hf : f.frontend.name = ssl)
    (hfresh : p.frontend? f.frontend.name = none) :
    ProxyFrame https ssl bssl p { p with frontends := p.frontends ++ [f] } where
  frontends n _ hn := by rw [Proxy.frontend?_append_fresh f hfresh, if_neg (hf ▸ hn)]
  https_shape := by rw [Proxy.frontend?_append_fresh f hfresh, if_neg (hf ▸ hne)]
  backends _ _ := rfl

lemma proxyFrame_frontendRemove_ssl (p : Proxy) :
    ProxyFrame https ssl bssl p ⟨remove (·.frontend.name) p.frontends ssl, p.backends⟩ where
  frontends n _ hn := by rw [Proxy.frontend?_remove, if_neg hn]
  https_shape := by rw [Proxy.frontend?_remove, if_neg hne]
  backends _ _ := rfl

end Ssl

lemma proxyFrame_backendCreate_bssl (b : BackendSection) (hb : b.backend.name = bssl)
    (hfresh : p.backend? b.backend.name = none) :
    ProxyFrame https ssl bssl p { p with backends := p.backends ++ [b] } where
  frontends _ _ _ := rfl
  https_shape := rfl
  backends n hn := by rw [Proxy.backend?_append_fresh b hfresh, if_neg (hb ▸ hn)]

lemma proxyFrame_backendRemove_bssl (p : Proxy) :
    ProxyFrame https ssl bssl p ⟨p.frontends, remove (·.backend.name) p.backends bssl⟩ where
  frontends _ _ _ := rfl
  https_shape := rfl
  backends n hn := by rw [Proxy.backend?_remove, if_neg hn]

lemma proxyFrame_modifyBackend_bssl {g : BackendSection → BackendSection}
    (hg : ∀ b, (g b).backend = b.backend) (p : Proxy) :
    ProxyFrame https ssl bssl p (p.modifyBackend bssl g) where
  frontends _ _ _ := rfl
  https_shape := rfl
  backends _ hn := Proxy.backend?_modifyBackend_ne hg hn

variable (https ssl bssl) in
def FrameFrom (s s' : St) : Prop := Names https ssl bssl s.cfg → UpdateFrame https ssl bssl s s'

variable (https ssl bssl) in
def Confined {α : Type} (x : Go α) : Prop := Go.Keeps (FrameFrom https ssl bssl) x

lemma frameFrom_refl (s : St) : FrameFrom https ssl bssl s s := fun _ => .of_eq rfl rfl rfl

lemma frameFrom_trans (h : FrameFrom https ssl bssl s s') (h' : FrameFrom https ssl bssl s' s'') :
    FrameFrom https ssl bssl s s'' := fun hn => (h hn).trans (h' ((h hn).names hn))

section Confined

variable {α β : Type}

lemma confined_pure (a : α) : Confined https ssl bssl (pure a : Go α) := Go.keeps_pure frameFrom_refl a

lemma confined_bind {x : Go α} {f : α → Go β} (hx : Confined https ssl bssl x)
    (hf : ∀ a, Confined https ssl bssl (f a)) : Confined https ssl bssl (x >>= f) :=
  Go.keeps_bind frameFrom_trans hx hf

lemma confined_getCfg {f : ControllerCfg → Go α}
    (hf : ∀ c, Names https ssl bssl c → Confined https ssl bssl (f c)) :
    Confined https ssl bssl (getCfg >>= f) := fun s =>
  Go.post_bind.2 <| Go.post_getCfg.2 fun a s' hx hs => hf s.cfg hs s a s' hx hs

lemma confined_loggerPanic (e : Option Err) : Confined https ssl bssl (loggerPanic e) :=
  Go.keeps_loggerPanic frameFrom_refl e

lemma confined_index0 (l : List α) : Confined https ssl bssl (index0 l) :=
  Go.keeps_index0 frameFrom_refl l

lemma confined_read (f : Proxy → Option α) : Confined https ssl bssl (Api.read f) := by
  intro s
  rw [Api.post_read]
  split <;> exact fun _ => .of_eq rfl rfl rfl

lemma confined_mutate {c : Call} {f : Proxy → Option Proxy}
    (hf : https ≠ ssl → ∀ p p', f p = some p' → ProxyFrame https ssl bssl p p') :
    Confined https ssl bssl (Api.mutate c f) := by
  intro s
  rw [Api.post_mutate]
  split
  · rename_i p hp
    exact fun hs => ⟨⟨_, _, _, rfl⟩, hf (hs.1 ▸ hs.2.1 ▸ s.cfg.https_ne_ssl) _ _ (Api.outcome_some hp),
      fun _ _ => Iff.rfl, rfl⟩
  · exact fun _ => .of_eq rfl rfl rfl

lemma confined_modifyCfg {g : ControllerCfg → ControllerCfg}
    (hg : ∀ c, ∃ o pt rs, g c = { c with https := o, sslPassthrough := pt, haproxyRules := rs })
    (hr : ∀ c, c.frontSSL = ssl → ∀ e : RuleEntry, e.frontend ≠ ssl →
      (e ∈ (g c).haproxyRules ↔ e ∈ c.haproxyRules)) :
    Confined https ssl bssl (modifyCfg g) := fun s =>
  Go.post_modifyCfg.2 fun hs => ⟨hg s.cfg, .refl _, hr s.cfg hs.2.1, rfl⟩

lemma confined_modifyFlags {g : ControllerCfg → ControllerCfg}
    (hg : ∀ c, ∃ o pt, g c = { c with https := o, sslPassthrough := pt }) :
    Confined https ssl bssl (modifyCfg g) :=
  confined_modifyCfg (fun c => (hg c).elim fun o ⟨pt, h⟩ => ⟨o, pt, c.haproxyRules, h⟩)
    fun c _ _ _ => by obtain ⟨o, pt, h⟩ := hg c; rw [h]

lemma confined_eachBind {call : Bind → Go (Option Err)} (hc : ∀ b, Confined https ssl bssl (call b))
    (err : Option Err) (bs : List Bind) : Confined https ssl bssl (HTTPS.eachBind call err bs) := by
  induction bs generalizing err with
  | nil => exact confined_pure _
  | cons b bs ih =>
    refine confined_bind (hc b) fun r => ?_
    cases r
    · exact ih none
    · exact confined_pure _

lemma confined_frontendBindEdit (b : Bind) : Confined https ssl bssl (Api.frontendBindEdit https b) :=
  confined_mutate fun _ p _ h => by
    rw [Proxy.frontendBindEdit_eq_some h]
    exact proxyFrame_modifyBinds_https (fun l => map_replace Bind.name (fun _ h => h.symm) l) p

lemma confined_frontendEnableSSLOffload (certDir alpn : String) :
    Confined https ssl bssl (Api.frontendEnableSSLOffload https certDir alpn) :=
  confined_mutate fun _ p _ h => by
    unfold Proxy.frontendEnableSSLOffload at h
    split_ifs at h
    cases h
    exact proxyFrame_modifyBinds_https (fun l => by simp [Function.comp_def, Bind.enableSSL]) p

lemma confined_frontendDisableSSLOffload :
    Confined https ssl bssl (Api.frontendDisableSSLOffload https) :=
  confined_mutate fun _ p _ h => by
    unfold Proxy.frontendDisableSSLOffload at h
    split_ifs at h
    cases h
    exact proxyFrame_modifyBinds_https (fun l => by simp [Function.comp_def, Bind.disableSSL]) p

lemma confined_frontendCreate {f : Frontend} (hf : f.name = ssl) :
    Confined https ssl bssl (Api.frontendCreate f) :=
  confined_mutate fun hne p _ h => by
    unfold Proxy.frontendCreate at h
    split_ifs at h with hc
    cases h
    exact proxyFrame_frontendCreate_ssl hne ⟨f, [], []⟩ hf hc.2

lemma confined_frontendBindCreate (b : Bind) : Confined https ssl bssl (Api.frontendBindCreate ssl b) :=
  confined_mutate fun hne p _ h => by
    unfold Proxy.frontendBindCreate at h
    split at h
    · split_ifs at h
      cases h
      exact proxyFrame_modifyFrontend_ssl hne (fun _ => by rfl) p
    · cases h

lemma confined_backendSwitchingRuleCreate (r : BackendSwitchingRule) :
    Confined https ssl bssl (Api.backendSwitchingRuleCreate ssl r) :=
  confined_mutate fun hne p _ h => by
    unfold Proxy.backendSwitchingRuleCreate at h
    split_ifs at h
    cases h
    exact proxyFrame_modifyFrontend_ssl hne (fun _ => by rfl) p

lemma confined_frontendDelete : Confined https ssl bssl (Api.frontendDelete ssl) :=
  confined_mutate fun hne p _ h => by
    unfold Proxy.frontendDelete at h
    split_ifs at h
    cases h
    exact proxyFrame_frontendRemove_ssl hne p

lemma confined_backendCreate {b : Backend} (hb : b.name = bssl) :
    Confined https ssl bssl (Api.backendCreate b) :=
  confined_mutate fun _ p _ h => by
    unfold Proxy.backendCreate at h
    split_ifs at h with hc
    cases h
    exact proxyFrame_backendCreate_bssl ⟨b, []⟩ hb hc.2

lemma confined_backendDelete : Confined https ssl bssl (Api.backendDelete bssl) :=
  confined_mutate fun _ p _ h => by
    unfold Proxy.backendDelete at h
    split_ifs at h
    cases h
    exact proxyFrame_backendRemove_bssl p

lemma confined_backendServerCreate (srv : Server) :
    Confined https ssl bssl (Api.backendServerCreate bssl srv) :=
  confined_mutate fun _ p _ h => by
    unfold Proxy.backendServerCreate at h
    split at h
    · split_ifs at h
      cases h
      exact proxyFrame_modifyBackend_bssl (fun _ => by rfl) p
    · cases h

lemma confined_toggleSSLPassthrough (h : HTTPS) (pt : Bool) :
    Confined https ssl bssl (h.toggleSSLPassthrough pt) := by
  simp only [HTTPS.toggleSSLPassthrough]
  refine confined_getCfg fun c hc => ?_
  rw [hc.1]
  refine confined_bind (confined_eachBind confined_frontendBindEdit _ _) fun r => ?_
  split
  · exact confined_pure _
  · split
    · exact confined_bind (confined_frontendEnableSSLOffload _ _) fun e =>
        confined_bind (confined_loggerPanic e) fun _ => confined_pure _
    · exact confined_bind (confined_pure _) fun _ => confined_pure _

lemma confined_enableSSLPassthrough (h : HTTPS) : Confined https ssl bssl h.enableSSLPassthrough := by
  simp only [HTTPS.enableSSLPassthrough]
  refine confined_getCfg fun c hc => ?_
  rw [hc.1, hc.2.1, hc.2.2]
  refine confined_bind (confined_frontendCreate rfl) fun e => ?_
  split
  · exact confined_pure _
  · refine confined_bind (confined_eachBind confined_frontendBindCreate _ _) fun r => ?_
    split
    · exact confined_pure _
    · exact confined_bind (confined_backendCreate rfl) fun _ =>
        confined_bind (confined_backendServerCreate _) fun _ =>
        confined_bind (confined_backendSwitchingRuleCreate _) fun _ =>
        confined_bind (confined_toggleSSLPassthrough h true) fun _ => confined_pure _

lemma mem_foldl_addRule_ne {e : RuleEntry} {frontend : String} (he : e.frontend ≠ frontend)
    (ingressRule : Bool) (rules : List Rule) (reg : List RuleEntry) :
    e ∈ rules.foldl (fun reg r => addRule r ingressRule frontend reg) reg ↔ e ∈ reg := by
  induction rules generalizing reg with
  | nil => rfl
  | cons r rules ih =>
    rw [List.foldl_cons, ih]
    refine ⟨fun h => (Rules.mem_addRule h).resolve_right fun h' => he (h' ▸ rfl), fun h => mem_addRule_of_mem h _ _ _⟩

lemma confined_disableSSLPassthrough (h : HTTPS) : Confined https ssl bssl h.disableSSLPassthrough := by
  simp only [HTTPS.disableSSLPassthrough]
  refine confined_getCfg fun c hc => ?_
  rw [hc.2.1, hc.2.2]
  refine confined_bind confined_frontendDelete fun e => ?_
  split
  · exact confined_pure _
  · refine confined_bind (confined_modifyCfg (fun _ => ⟨_, _, _, rfl⟩) fun c hc e he => ?_) fun _ => ?_
    · simp [deleteFrontend, hc, he]
    · refine confined_bind confined_backendDelete fun e => ?_
      split
      · exact confined_pure _
      · exact confined_toggleSSLPassthrough h false

lemma confined_sslPassthroughRules (env : Env) : Confined https ssl bssl (HTTPS.sslPassthroughRules env) :=
  confined_modifyCfg (fun _ => ⟨_, _, _, rfl⟩) fun _ hc _ he => mem_foldl_addRule_ne (hc ▸ he) _ _ _

lemma confined_applyClientTLS (caFile verify : String) (err : Option Err) (binds : List Bind) :
    Confined https ssl bssl (HTTPS.applyClientTLS https caFile verify err binds) := by
  simp only [HTTPS.applyClientTLS]
  refine confined_bind (confined_index0 _) fun b0 => ?_
  split
  · exact confined_pure _
  · refine confined_bind (confined_eachBind confined_frontendBindEdit _ _) fun r => ?_
    split <;> exact confined_pure _

lemma confined_handleClientTLSAuth (env : Env) : Confined https ssl bssl (HTTPS.handleClientTLSAuth env) := by
  simp only [HTTPS.handleClientTLSAuth]
  split
  · exact confined_pure _
  · refine confined_getCfg fun c hc => ?_
    rw [hc.1]
    refine confined_bind (confined_read _) fun r => ?_
    split
    · exact confined_pure _
    · exact confined_applyClientTLS _ _ _ _

lemma confined_updateSSLOffload (h : HTTPS) (env : Env) : Confined https ssl bssl (h.updateSSLOffload env) := by
  simp only [HTTPS.updateSSLOffload]
  refine confined_getCfg fun c hc => ?_
  rw [hc.1]
  split
  · split
    · refine confined_bind (confined_frontendEnableSSLOffload _ _) fun e =>
        confined_bind (confined_loggerPanic e) fun _ =>
        confined_bind (confined_modifyFlags fun _ => ⟨_, _, rfl⟩) fun _ =>
        confined_bind (confined_pure _) fun _ => confined_bind (confined_handleClientTLSAuth env) fun _ => ?_
      split <;> exact confined_pure _
    · refine confined_bind (confined_pure _) fun _ =>
        confined_bind (confined_handleClientTLSAuth env) fun _ => ?_
      split <;> exact confined_pure _
  · split
    · exact confined_bind confined_frontendDisableSSLOffload fun e =>
        confined_bind (confined_loggerPanic e) fun _ =>
        confined_bind (confined_modifyFlags fun _ => ⟨_, _, rfl⟩) fun _ =>
        confined_pure _
    · exact confined_pure _

lemma confined_updateSSLPassthrough (h : HTTPS) (env : Env) :
    Confined https ssl bssl (h.updateSSLPassthrough env) := by
  simp only [HTTPS.updateSSLPassthrough]
  refine confined_getCfg fun c hc => ?_
  refine confined_bind (confined_read _) fun ft => ?_
  split <;> split
  · exact confined_bind (confined_enableSSLPassthrough h) fun _ =>
      confined_bind (confined_modifyFlags fun _ => ⟨_, _, rfl⟩) fun _ =>
      confined_bind (confined_pure _) fun _ =>
      confined_bind (confined_sslPassthroughRules env) fun _ => confined_pure _
  · exact confined_bind (confined_pure _) fun _ =>
      confined_bind (confined_sslPassthroughRules env) fun _ => confined_pure _
  · exact confined_bind (confined_disableSSLPassthrough h) fun _ =>
      confined_bind (confined_modifyFlags fun _ => ⟨_, _, rfl⟩) fun _ =>
      confined_pure _
  · exact confined_pure _

lemma confined_update (h : HTTPS) (env : Env) : Confined https ssl bssl (h.update env) := by
  simp only [HTTPS.update]
  split
  · exact confined_pure _
  · refine confined_bind (confined_pure _) fun _ =>
      confined_bind (confined_updateSSLOffload _ env) fun r => ?_
    split
    · exact confined_pure _
    · exact confined_bind (confined_updateSSLPassthrough _ env) fun _ => confined_pure _

theorem update_frame (h : HTTPS) (env : Env) (s : St) :
    Go.Post (h.update env) s fun _ s' => UpdateFrame s.cfg.frontHTTPS s.cfg.frontSSL s.cfg.backSSL s s' :=
  (confined_update h env s).mono fun _ _ hf => hf ⟨rfl, rfl, rfl⟩

end Confined

end HAProxyIngress.Proofs.Frame
