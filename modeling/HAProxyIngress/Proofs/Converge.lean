import HAProxyIngress.Proofs.DefaultService
import HAProxyIngress.Proofs.Rules

/-! Convergence of the global part of a pass. -/

namespace HAProxyIngress.Proofs.Converge

open HAProxyIngress.Model HAProxyIngress.Controller HAProxyIngress.Proofs.Ingress
  HAProxyIngress.Proofs.Rules HAProxyIngress.Proofs.DefaultService

structure Quiet (s s' : St) : Prop where
  proxy : s'.proxy = s.proxy
  faults : s'.faults = s.faults
  cfg : s'.cfg = { s.cfg with activeBackends := s'.cfg.activeBackends }
  log : ∃ new, s'.log = s.log ++ new ∧ ∀ c ok, Effect.api c ok ∉ new

lemma Quiet.refl (s : St) : Quiet s s := ⟨rfl, rfl, rfl, [], by simp, by simp⟩

variable {env : Env} {ingress : Ingress} {n : String} {rest : List String} {s : St}

def Settled (env : Env) (ingress : Ingress) (n : String) (s : St) : Prop :=
  ∀ f, Proxy.frontendGet n s.proxy = some f → ∀ svc,
    env.newCtx ingress ingress.defaultBackend (decide (f.mode = "tcp")) = .ok svc →
    svc.status ≠ .DELETED → svc.handleBackend.2.2 = none → f.defaultBackend = svc.handleBackend.2.1

lemma setDefaultService_quiet (hs : s.faults = []) (hset : Settled env ingress n s) :
    Go.Returns (setDefaultService env ingress (n :: rest)) s fun _ s' => Quiet s s' := by
  simp only [setDefaultService, Go.returns_bind, Go.returns_index0_cons, Api.frontendGet,
    Api.returns_read_nil hs]
  cases hf : Proxy.frontendGet n s.proxy with
  | none => exact Go.returns_pure.2 (.refl s)
  | some f =>
    simp only
    cases hctx : env.newCtx ingress ingress.defaultBackend (decide (f.mode = "tcp")) with
    | error e => exact Go.returns_pure.2 (.refl s)
    | ok svc =>
      simp only
      by_cases hdel : svc.status = .DELETED
      · simp only [hdel, if_true, Go.returns_pure]
        exact .refl s
      · simp only [hdel, if_false, Go.returns_bind, Go.returns_pure, Go.returns_record]
        cases herr : svc.handleBackend.2.2 with
        | some e =>
          simp only [Go.returns_pure]
          exact ⟨rfl, rfl, rfl, [.backend svc.handleBackend.1], rfl, by simp⟩
        | none =>
          simp only [hset f hf svc hctx hdel herr, ne_eq, not_true_eq_false, if_false,
            Go.returns_pure, markActive, Go.returns_bind, Go.returns_modifyCfg, Go.returns_record]
          exact ⟨rfl, rfl, rfl, [.backend svc.handleBackend.1, .endpoints svc.handleEndpoints], by simp,
            by simp⟩

lemma settled_of {f : Frontend} (hf : Proxy.frontendGet n s.proxy = some f)
    (hB : ∀ svc, env.newCtx ingress ingress.defaultBackend (decide (f.mode = "tcp")) = .ok svc →
      svc.status ≠ .DELETED → svc.handleBackend.2.2 = none → f.defaultBackend = svc.handleBackend.2.1) :
    Settled env ingress n s := by
  intro f' hf'
  rw [hf] at hf'
  cases hf'
  exact hB

lemma editDefaultBackends_frame (B : String) (names : List String) (s : St) :
    Go.Post (editDefaultBackends B names) s fun _ s' =>
      (s.faults = [] → s'.faults = []) ∧ s'.cfg = s.cfg ∧
      ∀ m g, Proxy.frontendGet m s.proxy = some g → g.defaultBackend = B →
        Proxy.frontendGet m s'.proxy = some g := by
  induction names generalizing s with
  | nil => exact Go.post_pure.2 ⟨id, rfl, fun _ _ h _ => h⟩
  | cons n rest ih =>
    simp only [editDefaultBackends, Go.post_bind, Api.frontendGet, Api.post_read, Api.frontendEdit,
      Api.post_mutate]
    split
    · rename_i f hf
      have hf := Api.outcome_some hf
      obtain rfl := Proxy.frontendGet_name hf
      split
      · rename_i p hp
        obtain rfl := Proxy.frontendEdit_eq_some (Api.outcome_some hp)
        have hkeep : ∀ m g, Proxy.frontendGet m s.proxy = some g → g.defaultBackend = B →
            Proxy.frontendGet m (s.proxy.modifyFrontend f.name fun sec =>
              { sec with frontend := { f with defaultBackend := B } }) = some g := by
          intro m g hg hB
          by_cases hm : m = f.name
          · subst hm
            obtain rfl : f = g := Option.some.inj (hf.symm.trans hg)
            subst hB
            exact (Proxy.frontendGet_edit_self _).trans (congrArg (Option.map _) hf)
          · exact (Proxy.frontendGet_edit_ne { f with defaultBackend := B } hm).trans hg
        refine (ih _).mono fun r s' ⟨hf', hc', hm'⟩ => ?_
        split <;> exact Go.post_pure.2
          ⟨fun h => hf' (by simp [h]), hc', fun m g hg hB => hm' m g (hkeep m g hg hB) hB⟩
      · exact Go.post_pure.2 ⟨fun h => by simp [h], rfl, fun _ _ h _ => h⟩
    · have : Proxy.frontendEdit { (default : Frontend) with defaultBackend := B } =
          fun _ => none := funext fun _ => Proxy.frontendEdit_empty rfl
      simp only [this, ite_self]
      exact Go.post_pure.2 ⟨fun h => by simp [h], rfl, fun _ _ h _ => h⟩

lemma editDefaultBackends_head {B n : String} {rest : List String} {s : St} {f : Frontend}
    (hs : s.faults = []) (hf : Proxy.frontendGet n s.proxy = some f) (hn : n ≠ "") :
    Go.Post (editDefaultBackends B (n :: rest)) s fun _ s' =>
      s'.faults = [] ∧ s'.cfg = s.cfg ∧ Proxy.frontendGet n s'.proxy = some { f with defaultBackend := B } := by
  obtain rfl : f.name = n := Proxy.frontendGet_name hf
  have hedit : Proxy.frontendEdit { f with defaultBackend := B } s.proxy =
      some (s.proxy.modifyFrontend f.name fun sec => { sec with frontend := { f with defaultBackend := B } }) := by
    obtain ⟨sec, hsec, -⟩ := Option.map_eq_some'.1 hf
    simp [Proxy.frontendEdit, hn, hsec]
  simp only [editDefaultBackends, Go.post_bind, Api.frontendGet, Api.post_read_nil hs, hf,
    Api.frontendEdit, Api.post_mutate_nil hs, hedit]
  refine (editDefaultBackends_frame B rest _).mono fun r s' ⟨hf', hc', hm'⟩ => ?_
  have hget := hm' _ _ ((Proxy.frontendGet_edit_self { f with defaultBackend := B }).trans
    (congrArg (Option.map _) hf)) rfl
  split <;> exact Go.post_pure.2 ⟨hf' hs, hc', hget⟩

structure Settles (env : Env) (ingress : Ingress) (n : String) (s s' : St) : Prop where
  faults : s'.faults = []
  cfg : s'.cfg = { s.cfg with activeBackends := s'.cfg.activeBackends }
  settled : Settled env ingress n s'

lemma setDefaultService_settles (hs : s.faults = []) (hn : n ≠ "") :
    Go.Post (setDefaultService env ingress (n :: rest)) s fun _ s' => Settles env ingress n s s' := by
  simp only [setDefaultService, Go.post_bind, Go.post_index0, List.head?_cons, Option.some.injEq,
    forall_eq', Api.frontendGet, Api.post_read_nil hs]
  cases hf : Proxy.frontendGet n s.proxy with
  | none => exact Go.post_pure.2 ⟨hs, rfl, fun f h => absurd (hf.symm.trans h) (by simp)⟩
  | some f =>
    simp only
    cases hctx : env.newCtx ingress ingress.defaultBackend (decide (f.mode = "tcp")) with
    | error e =>
      exact Go.post_pure.2 ⟨hs, rfl, settled_of hf fun _ h => absurd (hctx.symm.trans h) (by simp)⟩
    | ok svc =>
      have hsvc : ∀ {svc'}, env.newCtx ingress ingress.defaultBackend (decide (f.mode = "tcp")) =
          .ok svc' → svc' = svc := fun h => (Except.ok.inj (h.symm.trans hctx))
      simp only
      by_cases hdel : svc.status = .DELETED
      · simp only [hdel, if_true, Go.post_pure]
        exact ⟨hs, rfl, settled_of hf fun _ h hd => absurd (hsvc h ▸ hdel) hd⟩
      · simp only [hdel, if_false, Go.post_bind, Go.post_record]
        cases herr : svc.handleBackend.2.2 with
        | some e =>
          simp only [Go.post_pure]
          exact ⟨hs, rfl, settled_of hf fun _ h _ he => absurd (hsvc h ▸ herr) (by simp [he])⟩
        | none =>
          simp only [markActive, Go.post_bind, Go.post_ite, Go.post_pure, Go.post_modifyCfg,
            Go.post_record]
          refine ⟨fun _ => ?_, fun hB => ⟨hs, rfl, settled_of hf fun _ h _ _ => hsvc h ▸ not_not.1 hB⟩⟩
          · refine (@editDefaultBackends_head _ n rest { s with log := s.log ++ [.backend svc.handleBackend.1] }
              f hs hf hn).mono fun r s' ⟨hf', hc', hget⟩ => ?_
            have hset : Settled env ingress n s' := settled_of hget fun _ h _ _ => hsvc h ▸ rfl
            split <;> simp only [Go.post_pure, Go.post_bind, Go.post_modifyCfg, Go.post_record] <;>
              exact ⟨hf', by rw [hc'], hset⟩

lemma Settled.of_proxy {t : St} (h : Settled env ingress n s) (hp : t.proxy = s.proxy) :
    Settled env ingress n t :=
  fun f hf => h f (hp ▸ hf)

structure Rerun (x : Go Bool) (s s₁ : St) : Prop where
  faults : s₁.faults = []
  cfg : s₁.cfg = { s.cfg with activeBackends := s₁.cfg.activeBackends }
  quiet : ∀ t : St, t.proxy = s₁.proxy → t.faults = [] → t.cfg.frontHTTP = s.cfg.frontHTTP →
    t.cfg.frontHTTPS = s.cfg.frontHTTPS → Go.Returns x t fun _ t' => Quiet t t'

lemma Rerun.pure (hs : s.faults = []) : Rerun (pure false) s s :=
  ⟨hs, rfl, fun t _ _ _ _ => Go.returns_pure.2 (.refl t)⟩

lemma call_rerun (hs : s.faults = []) (ports : List ServicePort) (mk : ServicePort → Ingress) :
    let x : Go Bool := do
      let port ← index0 ports
      let cfg ← getCfg
      let r ← setDefaultService env (mk port) [cfg.frontHTTP, cfg.frontHTTPS]
      pure r.1
    Go.Post x s fun _ s₁ => Rerun x s s₁ := by
  cases ports with
  | nil => simp
  | cons port _ =>
    simp only [Go.post_bind, Go.post_index0, List.head?_cons, Option.some.injEq, forall_eq',
      Go.post_getCfg]
    refine (setDefaultService_settles hs s.cfg.http_ne_empty).mono fun _ s₁ hset =>
      Go.post_pure.2 ⟨hset.faults, hset.cfg, fun t hp ht h₁ h₂ => ?_⟩
    simp only [Go.returns_bind, Go.returns_index0_cons, Go.returns_getCfg, h₁, h₂]
    exact (setDefaultService_quiet ht (hset.settled.of_proxy hp)).mono
      fun _ _ hq => Go.returns_pure.2 hq

lemma handleDefaultService_settles (env : Env) (s : St) (hs : s.faults = []) :
    Go.Post (handleDefaultService env) s fun _ s₁ => Rerun (handleDefaultService env) s s₁ := by
  simp only [handleDefaultService, pure_bind]
  repeat' split
  all_goals first
    | exact Go.post_pure.2 (.pure hs)
    | exact call_rerun hs _ _

lemma handleIngressAnnotations_configMap {pt : Bool}
    (hpt : ∀ s, sslPassthroughEnabled env default none s = .ok (pt, if pt then setPassthrough s else s))
    (s : St) :
    handleIngressAnnotations env default s =
      .ok ((frontendRules env default env.store.configMap).map env.getID, { s with cfg := { s.cfg with
        haproxyRules := register false (targets s.cfg pt [s.cfg.frontHTTP, s.cfg.frontHTTPS]
          (frontendRules env default env.store.configMap)) s.cfg.haproxyRules,
        rateLimitTables := s.cfg.rateLimitTables ++
          (frontendRules env default env.store.configMap).filterMap rateLimitTable,
        sslPassthrough := s.cfg.sslPassthrough ||
          (pt && (frontendRules env default env.store.configMap).any denyOrCapture) } }) := by
  simpa using handleIngressAnnotations_eq hpt s

section Global

variable {G T D : Type} (env : Env) (senv : SyncEnv G T D)

def pushedGlobal [Inhabited G] : G := senv.setGlobal (desiredGlobal env senv).1

def globalWrites [Inhabited G] [DecidableEq G] [DecidableEq T] (s : Sections G T D) :
    List (SectionCall × Bool) :=
  (if pushedGlobal env senv ≠ s.global then [(.globalPush, true)] else []) ++
    (if (desiredGlobal env senv).2 ≠ some s.logTargets then
      [(.logTargetsDelete, true), (.logTargetsCreate, true)] else [])

lemma globalCfg_nil [Inhabited G] [DecidableEq G] [DecidableEq T] {s : Sections G T D}
    (hs : s.faults = []) :
    globalCfg env senv s =
      ((senv.frontendSnippet.1, decide (pushedGlobal env senv ≠ s.global) ||
          decide ((desiredGlobal env senv).2 ≠ some s.logTargets) || senv.globalSnippet.1),
        { s with global := pushedGlobal env senv, logTargets := (desiredGlobal env senv).2.getD [],
                 log := s.log ++ globalWrites env senv s }) := by
  rcases s with ⟨g, l, d, _, log⟩
  subst hs
  simp [globalCfg, globalWrites, pushedGlobal, SectionApi.globalGetConfiguration,
    SectionApi.globalGetLogTargets, SectionApi.read, SectionApi.globalPushConfiguration,
    SectionApi.globalDeleteLogTargets, SectionApi.globalCreateLogTargets, SectionApi.write]
  split_ifs <;> simp_all [SectionApi.write]

def pushedDefaults [Inhabited D] : D := senv.setDefaults (desiredDefaults env senv)

lemma defaultsCfg_nil [Inhabited D] [DecidableEq D] {s : Sections G T D} (hs : s.faults = []) :
    defaultsCfg env senv s =
      (decide (pushedDefaults env senv ≠ s.defaults),
        { s with defaults := pushedDefaults env senv,
                 log := s.log ++ if pushedDefaults env senv ≠ s.defaults then [(.defaultsPush, true)]
                   else [] }) := by
  rcases s with ⟨g, l, d, _, log⟩
  subst hs
  simp [defaultsCfg, pushedDefaults, SectionApi.defaultsGetConfiguration, SectionApi.read,
    SectionApi.defaultsPushConfiguration, SectionApi.write]
  split_ifs <;> simp_all [SectionApi.write]

lemma globalCfg_fixed [Inhabited G] [DecidableEq G] [DecidableEq T] {sec : Sections G T D}
    (hs : sec.faults = []) (hg : sec.global = pushedGlobal env senv)
    (hl : some sec.logTargets = (desiredGlobal env senv).2) :
    globalCfg env senv sec = ((senv.frontendSnippet.1, senv.globalSnippet.1), sec) := by
  rw [globalCfg_nil env senv hs]
  rcases sec with ⟨g, l, d, f, log⟩
  dsimp only at hg hl
  subst hg
  simp [globalWrites, ← hl]

lemma defaultsCfg_fixed [Inhabited D] [DecidableEq D] {sec : Sections G T D} (hs : sec.faults = [])
    (hd : sec.defaults = pushedDefaults env senv) : defaultsCfg env senv sec = (false, sec) := by
  rw [defaultsCfg_nil env senv hs]
  rcases sec with ⟨g, l, d, f, log⟩
  dsimp only at hd
  subst hd
  simp

lemma sections_run [Inhabited G] [Inhabited D] [DecidableEq G] [DecidableEq T] [DecidableEq D]
    {sec : Sections G T D} (hsec : sec.faults = []) (hlg : (desiredGlobal env senv).2.isSome) :
    let sec₁ := (defaultsCfg env senv (globalCfg env senv sec).2).2
    sec₁.faults = [] ∧ sec₁.global = pushedGlobal env senv ∧
      some sec₁.logTargets = (desiredGlobal env senv).2 ∧ sec₁.defaults = pushedDefaults env senv := by
  obtain ⟨l, hl⟩ := Option.isSome_iff_exists.1 hlg
  simp [globalCfg_nil env senv hsec, defaultsCfg_nil env senv, hsec, hl]

structure QuietRerun [Inhabited G] [Inhabited D] [DecidableEq G] [DecidableEq T] [DecidableEq D]
    (r₁ : (Bool × Bool) × Sections G T D) (s₁ : St)
    (r₂ : (Bool × Bool) × Sections G T D) (s₂ : St) : Prop where
  sections : r₂.2 = r₁.2
  restart : r₂.1.2 = senv.globalSnippet.1
  state : ∃ t, Quiet s₁ t ∧ s₂ = { t with cfg := { t.cfg with rateLimitTables :=
    t.cfg.rateLimitTables ++ (frontendRules env default env.store.configMap).filterMap rateLimitTable } }

theorem handleGlobalConfig_settles [Inhabited G] [Inhabited D] [DecidableEq G] [DecidableEq T]
    [DecidableEq D] (sec : Sections G T D) (s : St) (hsec : sec.faults = [])
    (hlg : (desiredGlobal env senv).2.isSome) (hs : s.faults = []) :
    Go.Post (handleGlobalConfig env senv sec) s fun r₁ s₁ =>
      Go.Returns (handleGlobalConfig env senv r₁.2) s₁ (QuietRerun env senv r₁ s₁) := by
  obtain ⟨pt, hpt⟩ := sslPassthroughEnabled_none env default
  obtain ⟨hf, hg, hl, hd⟩ := sections_run env senv hsec hlg
  rcases hgc : globalCfg env senv sec with ⟨⟨reload, restart⟩, sec'⟩
  rcases hdc : defaultsCfg env senv sec' with ⟨dr, sec₁⟩
  simp only [hgc, hdc] at hf hg hl hd
  simp only [handleGlobalConfig, hgc, hdc, Go.post_bind, Go.returns_bind,
    globalCfg_fixed env senv hf hg hl, defaultsCfg_fixed env senv hf hd]
  refine (handleDefaultService_settles env s hs).mono fun _ sa ⟨hfa, hca, hquiet⟩ =>
    Go.post_of_eq (handleIngressAnnotations_configMap hpt sa) ?_
  have hn : sa.cfg.frontHTTP = s.cfg.frontHTTP ∧ sa.cfg.frontHTTPS = s.cfg.frontHTTPS := by
    rw [hca]; exact ⟨rfl, rfl⟩
  simp only [Go.post_pure, globalCfg_fixed env senv hf hg hl, defaultsCfg_fixed env senv hf hd,
    Go.returns_bind]
  refine Go.Returns.mono (hquiet _ rfl hfa hn.1 hn.2) fun _ t hq =>
    (Go.returns_iff_of_eq (handleIngressAnnotations_configMap hpt t)).2 ?_
  refine Go.returns_pure.2 ⟨rfl, by simp, t, hq, ?_⟩
  have hc := hq.cfg
  have hreg : register false (targets t.cfg pt [t.cfg.frontHTTP, t.cfg.frontHTTPS]
      (frontendRules env default env.store.configMap)) t.cfg.haproxyRules = t.cfg.haproxyRules := by
    rw [hc]; dsimp only; rw [targets_congr _ _ ?_ ?_ ?_, register_register] <;> rfl
  have hpass : (t.cfg.sslPassthrough ||
      (pt && (frontendRules env default env.store.configMap).any denyOrCapture)) = t.cfg.sslPassthrough := by
    rw [hc]; dsimp only; rw [Bool.or_assoc, Bool.or_self]
  rw [hreg, hpass]

def syslogSync : SyncEnv Nat Nat Nat :=
  ⟨none, none, [⟨"syslog-server", fun _ a => ((a.1, some [1]), none)⟩], [], id, id, (false, none),
    (false, none)⟩

theorem handleGlobalConfig_settles_web :
    Go.Post (handleGlobalConfig (webEnv [("web", webService [⟨80⟩])]) syslogSync ⟨5, [], 7, [], []⟩)
      ⟨.init, frontsProxy "old" "old", [], [], []⟩ fun r₁ s₁ =>
        Go.Returns (handleGlobalConfig (webEnv [("web", webService [⟨80⟩])]) syslogSync r₁.2) s₁
          (QuietRerun (webEnv [("web", webService [⟨80⟩])]) syslogSync r₁ s₁) :=
  handleGlobalConfig_settles _ _ _ _ rfl rfl rfl

end Global

end HAProxyIngress.Proofs.Converge
