import HAProxyIngress.Proofs.Sync
import HAProxyIngress.Proofs.Rules

/-! The rule registry over any run of the controller's entry points. -/

namespace HAProxyIngress.Proofs.Registry

open HAProxyIngress.Model HAProxyIngress.Handler HAProxyIngress.Controller
  HAProxyIngress.Proofs.Ingress HAProxyIngress.Proofs.Rules HAProxyIngress.Proofs.Passthrough
  HAProxyIngress.Proofs.Sync

def RoutesUnique (routes : List (String × String)) : Prop := (routes.map Prod.fst).Nodup

structure Registries (s : St) : Prop where
  rules : RulesUnique s.cfg.haproxyRules
  routes : RoutesUnique s.customRoutes

lemma Registries.of_eq {s s' : St} (h : Registries s) (hr : s'.cfg.haproxyRules = s.cfg.haproxyRules)
    (hc : s'.customRoutes = s.customRoutes) : Registries s' :=
  ⟨hr ▸ h.rules, hc ▸ h.routes⟩

structure Kept (s s' : St) : Prop where
  frontSSL : s'.cfg.frontSSL = s.cfg.frontSSL
  rules : ∀ e ∈ s.cfg.haproxyRules, e.frontend ≠ s.cfg.frontSSL → e ∈ s'.cfg.haproxyRules
  registries : Registries s → Registries s'

lemma Kept.refl (s : St) : Kept s s := ⟨rfl, fun _ he _ => he, id⟩

lemma Kept.trans {s s' s'' : St} (h : Kept s s') (h' : Kept s' s'') : Kept s s'' :=
  ⟨h'.frontSSL.trans h.frontSSL, fun e he hf => h'.rules e (h.rules e he hf) (h.frontSSL ▸ hf),
    fun r => h'.registries (h.registries r)⟩

def Tidy {α : Type} (x : Go α) : Prop := Go.Keeps Kept x

section Tidy

variable {α β : Type}

lemma tidy_pure (a : α) : Tidy (pure a : Go α) := Go.keeps_pure Kept.refl a

lemma tidy_bind {x : Go α} {f : α → Go β} (hx : Tidy x) (hf : ∀ a, Tidy (f a)) : Tidy (x >>= f) :=
  Go.keeps_bind Kept.trans hx hf

lemma tidy_of_post {x : Go α} (h : ∀ s, Go.Post x s fun _ s' =>
    s'.cfg = s.cfg ∧ s'.customRoutes = s.customRoutes) : Tidy x :=
  fun s => (h s).mono fun _ _ ⟨hc, hr⟩ => ⟨by rw [hc], fun _ he _ => hc ▸ he,
    fun hreg => hreg.of_eq (by rw [hc]) hr⟩

lemma tidy_getCfg : Tidy getCfg := tidy_of_post fun _ => Go.post_getCfg.2 ⟨rfl, rfl⟩

lemma tidy_record (e : Effect) : Tidy (record e) := tidy_of_post fun _ => Go.post_record.2 ⟨rfl, rfl⟩

lemma tidy_loggerPanic (e : Option Err) : Tidy (loggerPanic e) := Go.keeps_loggerPanic Kept.refl e

lemma tidy_index0 (l : List α) : Tidy (index0 l) := Go.keeps_index0 Kept.refl l

lemma tidy_throw (e : Panic) : Tidy (throw e : Go α) := fun _ => Go.post_throw e

lemma tidy_read (f : Proxy → Option α) : Tidy (Api.read f) :=
  tidy_of_post fun s => by rw [Api.post_read]; split <;> exact ⟨rfl, rfl⟩

lemma tidy_mutate (c : Call) (f : Proxy → Option Proxy) : Tidy (Api.mutate c f) :=
  tidy_of_post fun s => by rw [Api.post_mutate]; split <;> exact ⟨rfl, rfl⟩

lemma tidy_modifyCfg {g : ControllerCfg → ControllerCfg} (hssl : ∀ c, (g c).frontSSL = c.frontSSL)
    (hkeep : ∀ c, ∀ e ∈ c.haproxyRules, e.frontend ≠ c.frontSSL → e ∈ (g c).haproxyRules)
    (huniq : ∀ c, RulesUnique c.haproxyRules → RulesUnique (g c).haproxyRules) :
    Tidy (modifyCfg g) :=
  fun s => Go.post_modifyCfg.2 ⟨hssl s.cfg, hkeep s.cfg, fun h => ⟨huniq _ h.rules, h.routes⟩⟩

lemma tidy_modifyFlags {g : ControllerCfg → ControllerCfg}
    (hg : ∀ c, (g c).haproxyRules = c.haproxyRules ∧ (g c).frontSSL = c.frontSSL) :
    Tidy (modifyCfg g) :=
  tidy_modifyCfg (fun c => (hg c).2) (fun c _ he _ => (hg c).1 ▸ he) fun c h => (hg c).1 ▸ h

lemma tidy_eachBind {call : Bind → Go (Option Err)} (hc : ∀ b, Tidy (call b)) (err : Option Err)
    (bs : List Bind) : Tidy (HTTPS.eachBind call err bs) := by
  induction bs generalizing err with
  | nil => exact tidy_pure _
  | cons b bs ih =>
    refine tidy_bind (hc b) fun r => ?_
    cases r
    · exact ih none
    · exact tidy_pure _

end Tidy

lemma rulesUnique_deleteFrontend {reg : List RuleEntry} (ft : String) (h : RulesUnique reg) :
    RulesUnique (deleteFrontend ft reg) :=
  h.sublist ((List.filter_sublist reg).map _)

lemma mem_registerOn_of_mem {e : RuleEntry} {reg : List RuleEntry} (he : e ∈ reg) (rule : Rule)
    (ingressRule : Bool) (frontends : List String) : e ∈ registerOn rule ingressRule frontends reg := by
  induction frontends generalizing reg with
  | nil => exact he
  | cons f fs ih => exact ih (mem_addRule_of_mem he _ _ _)

lemma mem_register_of_mem {e : RuleEntry} {reg : List RuleEntry} (he : e ∈ reg) (ingressRule : Bool)
    (ts : List (Rule × List String)) : e ∈ register ingressRule ts reg := by
  induction ts generalizing reg with
  | nil => exact he
  | cons t ts ih => exact ih (mem_registerOn_of_mem he _ _ _)

lemma rulesUnique_foldl_addRule {reg : List RuleEntry} (rules : List Rule) (ingressRule : Bool)
    (ft : String) (h : RulesUnique reg) :
    RulesUnique (rules.foldl (fun reg r => addRule r ingressRule ft reg) reg) := by
  induction rules generalizing reg with
  | nil => exact h
  | cons r rs ih => exact ih (rulesUnique_addRule h)

lemma tidy_deleteSSLRules :
    Tidy (modifyCfg fun c => { c with haproxyRules := deleteFrontend c.frontSSL c.haproxyRules }) :=
  tidy_modifyCfg (fun _ => rfl) (fun _ _ he hf => List.mem_filter.2 ⟨he, decide_eq_true hf⟩)
    fun _ => rulesUnique_deleteFrontend _

section Update

variable (h : HTTPS) (env : Env)

lemma tidy_toggleSSLPassthrough (pt : Bool) : Tidy (h.toggleSSLPassthrough pt) := by
  simp only [HTTPS.toggleSSLPassthrough]
  repeat' first
    | with_reducible exact tidy_pure _
    | with_reducible exact tidy_getCfg
    | with_reducible exact tidy_loggerPanic _
    | with_reducible refine tidy_bind ?_ fun _ => ?_
    | with_reducible refine tidy_eachBind (fun _ => ?_) _ _
    | split
    | exact tidy_mutate _ _

lemma tidy_enableSSLPassthrough : Tidy h.enableSSLPassthrough := by
  simp only [HTTPS.enableSSLPassthrough]
  repeat' first
    | with_reducible exact tidy_pure _
    | with_reducible exact tidy_getCfg
    | with_reducible exact tidy_toggleSSLPassthrough h _
    | with_reducible refine tidy_bind ?_ fun _ => ?_
    | with_reducible refine tidy_eachBind (fun _ => ?_) _ _
    | split
    | exact tidy_mutate _ _

lemma tidy_disableSSLPassthrough : Tidy h.disableSSLPassthrough := by
  simp only [HTTPS.disableSSLPassthrough]
  repeat' first
    | with_reducible exact tidy_pure _
    | with_reducible exact tidy_getCfg
    | with_reducible exact tidy_toggleSSLPassthrough h _
    | with_reducible exact tidy_deleteSSLRules
    | with_reducible refine tidy_bind ?_ fun _ => ?_
    | split
    | exact tidy_mutate _ _

lemma tidy_sslPassthroughRules : Tidy (HTTPS.sslPassthroughRules env) := by
  refine tidy_modifyCfg (fun _ => rfl) (fun c e he _ => ?_) fun c h => ?_ <;> dsimp only
  · exact mem_foldl_addRule_of_mem he _ _ _
  · exact rulesUnique_foldl_addRule _ _ _ h

lemma tidy_handleClientTLSAuth : Tidy (HTTPS.handleClientTLSAuth env) := by
  simp only [HTTPS.handleClientTLSAuth, HTTPS.applyClientTLS]
  repeat' first
    | with_reducible exact tidy_pure _
    | with_reducible exact tidy_getCfg
    | with_reducible exact tidy_index0 _
    | with_reducible refine tidy_bind ?_ fun _ => ?_
    | with_reducible refine tidy_eachBind (fun _ => ?_) _ _
    | split
    | exact tidy_read _
    | exact tidy_mutate _ _

lemma tidy_update : Tidy (h.update env) := by
  simp only [HTTPS.update, HTTPS.updateSSLOffload, HTTPS.updateSSLPassthrough]
  repeat' first
    | with_reducible exact tidy_pure _
    | with_reducible exact tidy_getCfg
    | with_reducible exact tidy_loggerPanic _
    | with_reducible exact tidy_handleClientTLSAuth _
    | with_reducible exact tidy_enableSSLPassthrough _
    | with_reducible exact tidy_disableSSLPassthrough _
    | with_reducible exact tidy_sslPassthroughRules _
    | with_reducible exact tidy_modifyFlags fun _ => ⟨rfl, rfl⟩
    | with_reducible refine tidy_bind ?_ fun _ => ?_
    | split
    | exact tidy_read _
    | exact tidy_mutate _ _

end Update

section Routes

variable {routes : List (String × String)}

lemma routesUnique_filter (B : String) (h : RoutesUnique routes) :
    RoutesUnique (routes.filter (·.1 ≠ B)) :=
  h.sublist ((List.filter_sublist routes).map _)

lemma routesUnique_cons_filter (B acl : String) (h : RoutesUnique routes) :
    RoutesUnique ((B, acl) :: routes.filter (·.1 ≠ B)) := by
  refine List.nodup_cons.2 ⟨?_, routesUnique_filter B h⟩
  simp

end Routes

section Controller

variable (env : Env)

lemma tidy_sslPassthroughEnabled (ingress : Ingress) (path : Option IngressPath) :
    Tidy (sslPassthroughEnabled env ingress path) := by
  simp only [sslPassthroughEnabled, passthroughFlag]
  repeat' first
    | with_reducible exact tidy_pure _
    | with_reducible exact tidy_modifyFlags fun _ => ⟨rfl, rfl⟩
    | with_reducible refine tidy_bind ?_ fun _ => ?_
    | with_reducible exact tidy_throw _
    | split

lemma tidy_deleteCustomRoute (B : String) : Tidy (deleteCustomRoute B) := fun s _ _ hx => by
  simp only [deleteCustomRoute] at hx
  split at hx <;> cases hx
  · exact ⟨rfl, fun _ he _ => he, fun hreg => ⟨hreg.rules, routesUnique_filter B hreg.routes⟩⟩
  · exact .refl s

lemma tidy_addCustomRoute (route : Route) (acl : String) : Tidy (addCustomRoute env route acl) :=
  fun s _ _ hx => by
    simp only [addCustomRoute] at hx
    cases hx
    refine ⟨rfl, fun _ he _ => he, fun hreg => ⟨hreg.rules, ?_⟩⟩
    split
    · exact routesUnique_cons_filter _ _ hreg.routes
    · exact hreg.routes

lemma tidy_markActive (B : String) : Tidy (markActive B) := tidy_modifyFlags fun _ => ⟨rfl, rfl⟩

lemma tidy_handleIngressPath (ingress : Ingress) (host : String) (path : IngressPath)
    (ruleIDs : List RuleID) : Tidy (handleIngressPath env ingress host path ruleIDs) := by
  simp only [handleIngressPath]
  repeat' first
    | with_reducible exact tidy_pure _
    | with_reducible exact tidy_record _
    | with_reducible exact tidy_markActive _
    | with_reducible exact tidy_sslPassthroughEnabled env _ _
    | with_reducible exact tidy_deleteCustomRoute _
    | with_reducible exact tidy_addCustomRoute env _ _
    | with_reducible refine tidy_bind ?_ fun _ => ?_
    | split

lemma tidy_editDefaultBackends (B : String) (names : List String) :
    Tidy (editDefaultBackends B names) := by
  induction names with
  | nil => exact tidy_pure _
  | cons n rest ih =>
    simp only [editDefaultBackends]
    repeat' first
      | with_reducible exact tidy_pure _
      | with_reducible exact ih
      | with_reducible refine tidy_bind ?_ fun _ => ?_
      | split
      | exact tidy_read _
      | exact tidy_mutate _ _

lemma tidy_setDefaultService (ingress : Ingress) (frontends : List String) :
    Tidy (setDefaultService env ingress frontends) := by
  simp only [setDefaultService]
  repeat' first
    | with_reducible exact tidy_pure _
    | with_reducible exact tidy_index0 _
    | with_reducible exact tidy_record _
    | with_reducible exact tidy_markActive _
    | with_reducible exact tidy_editDefaultBackends _ _
    | with_reducible refine tidy_bind ?_ fun _ => ?_
    | split
    | exact tidy_read _

lemma tidy_handleDefaultService : Tidy (handleDefaultService env) := by
  simp only [handleDefaultService]
  repeat' first
    | with_reducible exact tidy_pure _
    | with_reducible exact tidy_index0 _
    | with_reducible exact tidy_getCfg
    | with_reducible exact tidy_setDefaultService env _ _
    | with_reducible refine tidy_bind ?_ fun _ => ?_
    | split

lemma tidy_handleIngressAnnotations (ingress : Ingress) :
    Tidy (handleIngressAnnotations env ingress) := fun s => by
  obtain ⟨pt, hpt⟩ := sslPassthroughEnabled_none env ingress
  exact Go.post_of_eq (handleIngressAnnotations_eq hpt s) ⟨rfl, fun _ he _ => mem_register_of_mem he _ _,
    fun hreg => ⟨rulesUnique_register _ hreg.rules, hreg.routes⟩⟩

end Controller

lemma tidy_step (h : HTTPS) (step : Step) : Tidy (step.run h) := by
  cases step with
  | update env => exact tidy_bind (tidy_update h env) fun _ => tidy_pure _
  | defaultService env => exact tidy_bind (tidy_handleDefaultService env) fun _ => tidy_pure _
  | ingressAnnotations env ingress =>
    exact tidy_bind (tidy_handleIngressAnnotations env ingress) fun _ => tidy_pure _
  | ingressPath env ingress host path ruleIDs =>
    exact tidy_bind (tidy_handleIngressPath env ingress host path ruleIDs) fun _ => tidy_pure _

lemma runSteps_kept (h : HTTPS) {steps : List (Step × List Bool)} {s₀ s : St}
    (hrun : runSteps h steps s₀ = .ok s) : Kept s₀ s := by
  induction steps generalizing s₀ with
  | nil => cases hrun; exact .refl _
  | cons st rest ih =>
    obtain ⟨step, faults⟩ := st
    simp only [runSteps] at hrun
    split at hrun
    · rename_i r s' hr
      have hfaults : Kept s₀ { s₀ with faults := faults } :=
        ⟨rfl, fun _ he _ => he, fun hreg => hreg.of_eq rfl rfl⟩
      exact (hfaults.trans (tidy_step h step _ r s' hr)).trans (ih hrun)
    · cases hrun

theorem runSteps_keeps_rules (h : HTTPS) {steps : List (Step × List Bool)} {s₀ s : St}
    (hrun : runSteps h steps s₀ = .ok s) :
    s.cfg.frontSSL = s₀.cfg.frontSSL ∧
      ∀ e ∈ s₀.cfg.haproxyRules, e.frontend ≠ s₀.cfg.frontSSL → e ∈ s.cfg.haproxyRules :=
  let k := runSteps_kept h hrun
  ⟨k.frontSSL, k.rules⟩

def ruledSt : St :=
  { setPassthrough startSt with
    cfg := { (setPassthrough startSt).cfg with
      haproxyRules := [⟨"http", .reqDeny "10.0.0.0/8", true⟩, ⟨"ssl", .reqDeny "10.0.0.0/8", true⟩] } }

def ruledRun : St := ((runSteps ClientTLS.httpsV4 edgeSteps ruledSt).toOption).getD ruledSt

theorem runSteps_keeps_rules_edge :
    ruledRun.cfg.frontSSL = ruledSt.cfg.frontSSL ∧
      ∀ e ∈ ruledSt.cfg.haproxyRules, e.frontend ≠ ruledSt.cfg.frontSSL → e ∈ ruledRun.cfg.haproxyRules :=
  @runSteps_keeps_rules ClientTLS.httpsV4 edgeSteps ruledSt ruledRun (by decide)

end HAProxyIngress.Proofs.Registry
