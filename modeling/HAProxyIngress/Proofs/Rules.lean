import HAProxyIngress.Proofs.Ingress

/-! The rule registry and the frontends handleIngressAnnotations registers rules on. -/

namespace HAProxyIngress.Proofs.Rules

open HAProxyIngress.Model HAProxyIngress.Controller HAProxyIngress.Proofs.Ingress

def RulesUnique (reg : List RuleEntry) : Prop := (reg.map fun e => (e.frontend, e.rule)).Nodup

instance : DecidablePred RulesUnique := fun _ => inferInstanceAs (Decidable (List.Nodup _))

variable {rule : Rule} {ingressRule : Bool} {frontend : String} {frontends : List String}
  {reg : List RuleEntry}

lemma rulesUnique_addRule (h : RulesUnique reg) :
    RulesUnique (addRule rule ingressRule frontend reg) := by
  unfold addRule
  split_ifs with hany
  · exact h
  · simp only [List.any_eq_true, decide_eq_true_eq, not_exists, not_and] at hany
    unfold RulesUnique
    simp only [List.map_append, List.map_singleton]
    refine List.pairwise_append.2 ⟨h, List.pairwise_singleton _ _, ?_⟩
    simp only [List.mem_map, List.mem_singleton]
    rintro _ ⟨e, he, rfl⟩ _ rfl hfr
    exact hany e he (congrArg Prod.fst hfr) (congrArg Prod.snd hfr)

lemma mem_addRule {e : RuleEntry} (he : e ∈ addRule rule ingressRule frontend reg) :
    e ∈ reg ∨ e = ⟨frontend, rule, ingressRule⟩ := by
  unfold addRule at he
  split_ifs at he
  · exact .inl he
  · simpa using he

def registerOn (rule : Rule) (ingressRule : Bool) (frontends : List String) (reg : List RuleEntry) :
    List RuleEntry :=
  frontends.foldl (fun reg f => addRule rule ingressRule f reg) reg

def register (ingressRule : Bool) (ts : List (Rule × List String)) (reg : List RuleEntry) :
    List RuleEntry :=
  ts.foldl (fun reg t => registerOn t.1 ingressRule t.2 reg) reg

@[simp] lemma register_nil (reg : List RuleEntry) : register ingressRule [] reg = reg := rfl

@[simp] lemma register_cons (t : Rule × List String) (ts : List (Rule × List String))
    (reg : List RuleEntry) :
    register ingressRule (t :: ts) reg = register ingressRule ts (registerOn t.1 ingressRule t.2 reg) :=
  rfl

lemma rulesUnique_registerOn (frontends : List String) (h : RulesUnique reg) :
    RulesUnique (registerOn rule ingressRule frontends reg) := by
  induction frontends generalizing reg with
  | nil => exact h
  | cons f fs ih => exact ih (rulesUnique_addRule h)

lemma rulesUnique_register (ts : List (Rule × List String)) (h : RulesUnique reg) :
    RulesUnique (register ingressRule ts reg) := by
  induction ts generalizing reg with
  | nil => exact h
  | cons t ts ih => exact ih (rulesUnique_registerOn _ h)

lemma registered_registerOn_of {r : Rule} {f : String} (h : Registered r f reg)
    (frontends : List String) : Registered r f (registerOn rule ingressRule frontends reg) := by
  induction frontends generalizing reg with
  | nil => exact h
  | cons f' fs ih => exact ih (registered_addRule h _ _ _)

lemma registered_registerOn (hf : frontend ∈ frontends) :
    Registered rule frontend (registerOn rule ingressRule frontends reg) := by
  induction frontends generalizing reg with
  | nil => cases hf
  | cons f fs ih =>
    rcases List.mem_cons.1 hf with rfl | hf
    · exact registered_registerOn_of (registered_addRule_self _ _ _ _) _
    · exact ih hf

lemma registered_register_of {r : Rule} {f : String} (h : Registered r f reg)
    (ts : List (Rule × List String)) : Registered r f (register ingressRule ts reg) := by
  induction ts generalizing reg with
  | nil => exact h
  | cons t ts ih => exact ih (registered_registerOn_of h _)

lemma registered_register {ts : List (Rule × List String)} {fs : List String}
    (ht : (rule, fs) ∈ ts) (hf : frontend ∈ fs) :
    Registered rule frontend (register ingressRule ts reg) := by
  induction ts generalizing reg with
  | nil => cases ht
  | cons t ts ih =>
    rcases List.mem_cons.1 ht with rfl | ht
    · exact registered_register_of (registered_registerOn hf) _
    · exact ih ht

variable (c : ControllerCfg) (pt : Bool)

def target (frontends : List String) : Rule → List String
  | .requestRedirect sslRedirect _ =>
    if sslRedirect then [c.frontHTTP] else [c.frontHTTP, c.frontHTTPS]
  | .reqDeny _ | .reqCapture _ => if pt then [c.frontHTTP, c.frontSSL] else frontends
  | _ => frontends

def targets : List String → List Rule → List (Rule × List String)
  | _, [] => []
  | frontends, r :: rs => (r, target c pt frontends r) :: targets (target c pt frontends r) rs

def rateLimitTable : Rule → Option String
  | .reqRateLimit tableName _ => some tableName
  | _ => none

def denyOrCapture : Rule → Bool
  | .reqDeny _ | .reqCapture _ => true
  | _ => false

def noteRule (r : Rule) (c : ControllerCfg) : ControllerCfg :=
  { c with rateLimitTables := c.rateLimitTables ++ (rateLimitTable r).toList,
           sslPassthrough := c.sslPassthrough || (pt && denyOrCapture r) }

lemma target_congr {c' : ControllerCfg} (h₁ : c'.frontHTTP = c.frontHTTP)
    (h₂ : c'.frontHTTPS = c.frontHTTPS) (h₃ : c'.frontSSL = c.frontSSL) :
    target c' pt = target c pt := by
  funext fr r
  cases r <;> simp only [target, h₁, h₂, h₃]

lemma targets_congr {c' : ControllerCfg} (h₁ : c'.frontHTTP = c.frontHTTP)
    (h₂ : c'.frontHTTPS = c.frontHTTPS) (h₃ : c'.frontSSL = c.frontSSL) :
    targets c' pt = targets c pt := by
  funext fr rules
  induction rules generalizing fr with
  | nil => rfl
  | cons r rs ih => simp only [targets, target_congr c pt h₁ h₂ h₃, ih]

variable {c pt}

lemma http_mem_target {fr : List String} (h : c.frontHTTP ∈ fr) (r : Rule) :
    c.frontHTTP ∈ target c pt fr r := by
  cases r with
  | requestRedirect b _ => cases b <;> simp [target]
  | reqDeny _ | reqCapture _ => cases pt <;> simp [target, h]
  | _ => exact h

lemma http_mem_targets {r : Rule} {fs frontends : List String} {rules : List Rule}
    (hf : c.frontHTTP ∈ frontends) (h : (r, fs) ∈ targets c pt frontends rules) :
    c.frontHTTP ∈ fs := by
  induction rules generalizing frontends with
  | nil => cases h
  | cons r' rs ih =>
    rcases List.mem_cons.1 h with h | h
    · obtain ⟨rfl, rfl⟩ := Prod.mk.inj h
      exact http_mem_target hf _
    · exact ih (http_mem_target hf _) h

lemma exists_mem_targets {r : Rule} {frontends : List String} {rules : List Rule}
    (h : r ∈ rules) : ∃ fs, (r, fs) ∈ targets c pt frontends rules := by
  induction rules generalizing frontends with
  | nil => cases h
  | cons r' rs ih =>
    rcases List.mem_cons.1 h with rfl | h
    · exact ⟨_, List.mem_cons_self _ _⟩
    · obtain ⟨fs, hfs⟩ := @ih (target c pt frontends r') h
      exact ⟨fs, List.mem_cons_of_mem _ hfs⟩

lemma registerOn_of_registered {frontends : List String}
    (h : ∀ f ∈ frontends, Registered rule f reg) : registerOn rule ingressRule frontends reg = reg := by
  induction frontends with
  | nil => rfl
  | cons f fs ih =>
    simp only [registerOn, List.foldl_cons, addRule_of_registered (h f (List.mem_cons_self _ _))]
    exact ih fun f' hf' => h f' (List.mem_cons_of_mem _ hf')

lemma register_of_registered {ts : List (Rule × List String)}
    (h : ∀ t ∈ ts, ∀ f ∈ t.2, Registered t.1 f reg) : register ingressRule ts reg = reg := by
  induction ts with
  | nil => rfl
  | cons t ts ih =>
    rw [register_cons, registerOn_of_registered (h t (List.mem_cons_self _ _)),
      ih fun t' ht' => h t' (List.mem_cons_of_mem _ ht')]

lemma register_register (ts : List (Rule × List String)) (reg : List RuleEntry) :
    register ingressRule ts (register ingressRule ts reg) = register ingressRule ts reg :=
  register_of_registered fun _ ht _ hf => registered_register ht hf

variable {env : Env} {ingress : Ingress}

lemma ruleFrontends_eq
    (hpt : ∀ s, sslPassthroughEnabled env ingress none s = .ok (pt, if pt then setPassthrough s else s))
    (frontends : List String) (r : Rule) (s : St) :
    ruleFrontends env ingress frontends r s =
      .ok (target s.cfg pt frontends r, { s with cfg := noteRule pt r s.cfg }) := by
  cases r <;> simp only [ruleFrontends, Go.bind_apply, Go.getCfg_apply, Go.pure_apply,
    Go.modifyCfg_apply, hpt, target, noteRule, rateLimitTable, denyOrCapture, Option.toList,
    List.append_nil, Bool.and_false, Bool.and_true, Bool.or_false]
  all_goals cases pt
  all_goals simp only [Bool.or_false, Bool.or_true, if_true, Bool.false_eq_true, if_false,
    Go.pure_apply, setPassthrough]

lemma addRules_eq_of_names
    (hpt : ∀ s, sslPassthroughEnabled env ingress none s = .ok (pt, if pt then setPassthrough s else s))
    (ingressRule : Bool) (frontends : List String) (rules : List Rule) (s : St)
    (h₁ : s.cfg.frontHTTP = c.frontHTTP) (h₂ : s.cfg.frontHTTPS = c.frontHTTPS)
    (h₃ : s.cfg.frontSSL = c.frontSSL) :
    addRules env ingress ingressRule frontends rules s =
      .ok (rules.map env.getID, { s with cfg := { s.cfg with
        haproxyRules := register ingressRule (targets c pt frontends rules) s.cfg.haproxyRules,
        rateLimitTables := s.cfg.rateLimitTables ++ rules.filterMap rateLimitTable,
        sslPassthrough := s.cfg.sslPassthrough || (pt && rules.any denyOrCapture) } }) := by
  induction rules generalizing frontends s with
  | nil =>
    simp only [addRules, targets, register_nil, List.filterMap_nil, List.append_nil, List.any_nil,
      Bool.and_false, Bool.or_false, Go.pure_apply, List.map_nil]
  | cons r rs ih =>
    simp only [addRules, Go.bind_apply, ruleFrontends_eq hpt, target_congr c pt h₁ h₂ h₃,
      Go.modifyCfg_apply, Go.pure_apply]
    rw [ih]
    · simp only [noteRule, targets, register_cons, registerOn, List.map_cons, List.filterMap_cons,
        List.any_cons, List.append_assoc, Bool.and_or_distrib_left, Bool.or_assoc]
      cases rateLimitTable r <;> rfl
    all_goals assumption

theorem handleIngressAnnotations_eq
    (hpt : ∀ s, sslPassthroughEnabled env ingress none s = .ok (pt, if pt then setPassthrough s else s))
    (s : St) :
    let rules := frontendRules env ingress
      (if ingress = default then env.store.configMap else ingress.annotations)
    handleIngressAnnotations env ingress s =
      .ok (rules.map env.getID, { s with cfg := { s.cfg with
        haproxyRules := register (ingress != default)
          (targets s.cfg pt [s.cfg.frontHTTP, s.cfg.frontHTTPS] rules) s.cfg.haproxyRules,
        rateLimitTables := s.cfg.rateLimitTables ++ rules.filterMap rateLimitTable,
        sslPassthrough := s.cfg.sslPassthrough || (pt && rules.any denyOrCapture) } }) := by
  by_cases hd : ingress = default
  · have hb : (ingress != default) = false := by simp [hd]
    simp only [handleIngressAnnotations, if_pos hd, Go.bind_apply, Go.getCfg_apply, hb]
    exact addRules_eq_of_names hpt _ _ _ s rfl rfl rfl
  · have hb : (ingress != default) = true := by simpa using hd
    simp only [handleIngressAnnotations, if_neg hd, Go.bind_apply, Go.getCfg_apply, hb]
    exact addRules_eq_of_names hpt _ _ _ s rfl rfl rfl

def redirectDenyEnv : Env where
  store := ⟨[], []⟩
  defaults := []
  certs := ⟨false, false, fun _ => .error .notFound⟩
  newCtx _ _ _ := .error .service
  addHostPathRoute _ := none
  addCustomRoute _ _ := (false, none)
  frontendAnnotations _ :=
    [⟨"ssl-redirect", fun _ => ([.requestRedirect true "https"], none)⟩,
     ⟨"blacklist", fun _ => ([.reqDeny "10.0.0.0/8"], none)⟩]
  getID _ := ""
  parseTime _ := none
  sniMapPath := ""

def webIngress : Ingress := ⟨"default", "web", [], none, .EMPTY, ""⟩

theorem handleIngressAnnotations_deny_after_redirect :
    (handleIngressAnnotations redirectDenyEnv webIngress
        ⟨.init, ⟨[], []⟩, [], [], []⟩).map (·.2.cfg.haproxyRules) =
      .ok [⟨"http", .requestRedirect true "https", true⟩, ⟨"http", .reqDeny "10.0.0.0/8", true⟩] ∧
    (sslPassthroughEnabled redirectDenyEnv webIngress none
        ⟨.init, ⟨[], []⟩, [], [], []⟩).map Prod.fst = .ok false := by
  decide

def bareSt : St := ⟨.init, ⟨[], []⟩, [], [], []⟩

lemma sslPassthroughEnabled_redirectDeny (s : St) :
    sslPassthroughEnabled redirectDenyEnv webIngress none s =
      .ok (false, if false then setPassthrough s else s) := rfl

theorem handleIngressAnnotations_registers
    (hpt : ∀ s, sslPassthroughEnabled env ingress none s = .ok (pt, if pt then setPassthrough s else s))
    (s : St) :
    let rules := frontendRules env ingress
      (if ingress = default then env.store.configMap else ingress.annotations)
    Go.Post (handleIngressAnnotations env ingress) s fun _ s' =>
      (∀ r ∈ rules, Registered r s.cfg.frontHTTP s'.cfg.haproxyRules) ∧
      (∀ r fs, (r, fs) ∈ targets s.cfg pt [s.cfg.frontHTTP, s.cfg.frontHTTPS] rules →
        ∀ f ∈ fs, Registered r f s'.cfg.haproxyRules) := by
  refine Go.post_of_eq (handleIngressAnnotations_eq hpt s)
    ⟨fun r hr => ?_, fun r fs ht f hf => registered_register ht hf⟩
  obtain ⟨fs, ht⟩ := exists_mem_targets hr
  exact registered_register ht (http_mem_targets (List.mem_cons_self _ _) ht)

theorem handleIngressAnnotations_registers_redirectDeny :
    let rules := frontendRules redirectDenyEnv webIngress
      (if webIngress = default then redirectDenyEnv.store.configMap else webIngress.annotations)
    Go.Post (handleIngressAnnotations redirectDenyEnv webIngress) bareSt fun _ s' =>
      (∀ r ∈ rules, Registered r bareSt.cfg.frontHTTP s'.cfg.haproxyRules) ∧
      (∀ r fs, (r, fs) ∈ targets bareSt.cfg false [bareSt.cfg.frontHTTP, bareSt.cfg.frontHTTPS] rules →
        ∀ f ∈ fs, Registered r f s'.cfg.haproxyRules) :=
  handleIngressAnnotations_registers sslPassthroughEnabled_redirectDeny bareSt

theorem handleIngressAnnotations_rerun
    (hpt : ∀ s, sslPassthroughEnabled env ingress none s = .ok (pt, if pt then setPassthrough s else s))
    (s : St) :
    let rules := frontendRules env ingress
      (if ingress = default then env.store.configMap else ingress.annotations)
    ∃ ids s₁ s₂, handleIngressAnnotations env ingress s = .ok (ids, s₁) ∧
      handleIngressAnnotations env ingress s₁ = .ok (ids, s₂) ∧
      s₂.cfg.haproxyRules = s₁.cfg.haproxyRules ∧
      s₂.cfg.rateLimitTables = s₁.cfg.rateLimitTables ++ rules.filterMap rateLimitTable :=
  ⟨_, _, _, handleIngressAnnotations_eq hpt s, handleIngressAnnotations_eq hpt _,
    by dsimp only; rw [targets_congr _ _ ?_ ?_ ?_, register_register] <;> rfl, rfl⟩

theorem handleIngressAnnotations_rerun_redirectDeny :
    let rules := frontendRules redirectDenyEnv webIngress
      (if webIngress = default then redirectDenyEnv.store.configMap else webIngress.annotations)
    ∃ ids s₁ s₂, handleIngressAnnotations redirectDenyEnv webIngress bareSt = .ok (ids, s₁) ∧
      handleIngressAnnotations redirectDenyEnv webIngress s₁ = .ok (ids, s₂) ∧
      s₂.cfg.haproxyRules = s₁.cfg.haproxyRules ∧
      s₂.cfg.rateLimitTables = s₁.cfg.rateLimitTables ++ rules.filterMap rateLimitTable :=
  handleIngressAnnotations_rerun sslPassthroughEnabled_redirectDeny bareSt
end HAProxyIngress.Proofs.Rules
