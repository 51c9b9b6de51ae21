import HAProxyIngress.Controller.Global

/-! The backend the frontends name after setDefaultService, and whether it is active. -/

namespace HAProxyIngress.Proofs.DefaultService

open HAProxyIngress.Model HAProxyIngress.Controller

def NamesBackend (p : Proxy) (n B : String) : Prop :=
  ∃ f, Proxy.frontendGet n p = some f ∧ f.defaultBackend = B

lemma editDefaultBackends_post (B : String) (names : List String) (s : St) :
    Go.Post (editDefaultBackends B names) s fun r s' => ∀ x, r = .ok x →
      (∀ n ∈ names, NamesBackend s'.proxy n B) ∧
      (∀ n ∉ names, Proxy.frontendGet n s'.proxy = Proxy.frontendGet n s.proxy) ∧
      s'.cfg = s.cfg ∧ (∃ new, s'.log = s.log ++ new) ∧ (x = false → names = [] ∧ s' = s) := by
  induction names generalizing s with
  | nil => simp [editDefaultBackends]
  | cons n rest ih =>
    simp only [editDefaultBackends, Go.post_bind, Api.frontendGet, Api.post_read, Api.frontendEdit,
      Api.post_mutate]
    split
    · rename_i f hf
      obtain rfl := Proxy.frontendGet_name (Api.outcome_some hf)
      split
      · rename_i p hp
        obtain rfl := Proxy.frontendEdit_eq_some (Api.outcome_some hp)
        refine (ih _).mono ?_
        rintro (e | y) s' h
        · exact Go.post_pure.2 nofun
        · obtain ⟨h1, h2, h3, ⟨new, hnew⟩, -⟩ := h y rfl
          simp only [Go.post_pure, Except.ok.injEq, forall_eq', Bool.true_eq_false, false_implies,
            and_true, List.mem_cons, forall_eq_or_imp, not_or]
          refine ⟨⟨?_, h1⟩, fun m hm => ?_, h3, ⟨_, hnew.trans (List.append_assoc _ _ _)⟩⟩
          · by_cases hr : f.name ∈ rest
            · exact h1 _ hr
            · refine ⟨{ f with defaultBackend := B }, ?_, rfl⟩
              rw [h2 _ hr]
              exact (Proxy.frontendGet_edit_self { f with defaultBackend := B }).trans
                (by rw [Api.outcome_some hf]; rfl)
          · rw [h2 m hm.2]
            exact Proxy.frontendGet_edit_ne { f with defaultBackend := B } hm.1
      · exact Go.post_pure.2 nofun
    · have : Proxy.frontendEdit { (default : Frontend) with defaultBackend := B } =
          fun _ => none := funext fun _ => Proxy.frontendEdit_empty rfl
      simp [this]

def DefaultCtx (env : Env) (ingress : Ingress) (frontends : List String) (p : Proxy) (n : String)
    (svc : SvcCtx) : Prop :=
  frontends.head? = some n ∧ ∃ f, Proxy.frontendGet n p = some f ∧
    env.newCtx ingress ingress.defaultBackend (decide (f.mode = "tcp")) = .ok svc

lemma setDefaultService_post (env : Env) (ingress : Ingress) (frontends : List String) (s : St) :
    Go.Post (setDefaultService env ingress frontends) s fun r s' => r.2 = none →
      ∃ n svc, DefaultCtx env ingress frontends s.proxy n svc ∧
        (svc.status = .DELETED ∨
          svc.handleBackend.2.1 ∈ s'.cfg.activeBackends ∧
          (NamesBackend s.proxy n svc.handleBackend.2.1 ∧ s'.proxy = s.proxy ∨
            ∀ m ∈ frontends, NamesBackend s'.proxy m svc.handleBackend.2.1)) := by
  simp only [setDefaultService, Go.post_bind, Go.post_index0, Api.frontendGet, Api.post_read]
  intro n hn
  split
  · rename_i f hf
    split
    · exact Go.post_pure.2 nofun
    · rename_i svc hsvc
      have hctx : DefaultCtx env ingress frontends s.proxy n svc :=
        ⟨hn, f, Api.outcome_some hf, hsvc⟩
      simp only [Go.post_ite, Go.post_bind, Go.post_pure, Go.post_record]
      refine ⟨fun hd _ => ⟨n, svc, hctx, .inl hd⟩, fun _ => ?_⟩
      split
      · exact Go.post_pure.2 nofun
      · simp only [Go.post_pure, Go.post_bind, Go.post_ite, markActive, Go.post_modifyCfg,
          Go.post_record]
        refine ⟨fun _ => (editDefaultBackends_post _ _ _).mono ?_, fun hne _ => ?_⟩
        · rintro (e | x) s' h
          · simp
          · simp only [Go.post_bind, Go.post_modifyCfg, Go.post_record, Go.post_pure]
            exact fun _ => ⟨n, svc, hctx, .inr ⟨List.mem_insert_self _ _, .inr (h x rfl).1⟩⟩
        · exact ⟨n, svc, hctx, .inr ⟨List.mem_insert_self _ _,
            .inl ⟨⟨f, Api.outcome_some hf, not_not.1 hne⟩, trivial⟩⟩⟩
  · exact Go.post_pure.2 nofun

theorem setDefaultService_marks_backend_active (env : Env) (ingress : Ingress)
    (frontends : List String) (s : St) :
    Go.Post (setDefaultService env ingress frontends) s fun r s' => r.2 = none →
      ∃ n svc, DefaultCtx env ingress frontends s.proxy n svc ∧
        (svc.status = .DELETED ∨ svc.handleBackend.2.1 ∈ s'.cfg.activeBackends ∧
          NamesBackend s'.proxy n svc.handleBackend.2.1) := by
  refine (setDefaultService_post env ingress frontends s).mono fun _ s' h hr => ?_
  obtain ⟨n, svc, hctx, hB⟩ := h hr
  refine ⟨n, svc, hctx, hB.imp_right fun ⟨hact, hnames⟩ => ⟨hact, ?_⟩⟩
  rcases hnames with ⟨hn, hp⟩ | hall
  · rwa [hp]
  · exact hall n (List.mem_of_mem_head? hctx.1)

theorem setDefaultService_agreeing_frontends {env : Env} {ingress : Ingress}
    {frontends : List String} {s : St} {d : String}
    (hagree : ∀ n ∈ frontends, NamesBackend s.proxy n d) :
    Go.Post (setDefaultService env ingress frontends) s fun r s' => r.2 = none →
      ∃ n svc, DefaultCtx env ingress frontends s.proxy n svc ∧
        (svc.status = .DELETED ∨ ∀ m ∈ frontends, NamesBackend s'.proxy m svc.handleBackend.2.1) := by
  refine (setDefaultService_post env ingress frontends s).mono fun _ s' h hr => ?_
  obtain ⟨n, svc, hctx, hB⟩ := h hr
  refine ⟨n, svc, hctx, hB.imp_right fun hB => ?_⟩
  rcases hB.2 with ⟨⟨f, hf, hfB⟩, hp⟩ | hall
  · obtain ⟨f', hf', rfl⟩ := hagree n (List.mem_of_mem_head? hctx.1)
    obtain rfl : f = f' := Option.some.inj (hf.symm.trans hf')
    intro m hm
    obtain ⟨g, hg, hgd⟩ := hagree m hm
    exact ⟨g, hp ▸ hg, hgd.trans hfB⟩
  · exact hall

def webService (ports : List ServicePort) : Service := ⟨"web", [], ports⟩

def webEnv (services : List (String × Service)) : Env where
  store := ⟨[("default", ⟨"default", services⟩)], []⟩
  defaults := [("default-backend-service", "default/web")]
  certs := ⟨false, false, fun _ => .error .notFound⟩
  newCtx _ _ _ := .ok ⟨.EMPTY, webService [⟨80⟩], (false, "default-web-80", none), false⟩
  addHostPathRoute _ := none
  addCustomRoute _ _ := (false, none)
  frontendAnnotations _ := []
  getID _ := ""
  parseTime _ := none
  sniMapPath := ""

def webIngress : Ingress := ⟨"default", "DefaultService", [], some ⟨"web", 80, true⟩, .EMPTY, ""⟩

def frontsProxy (http https : String) : Proxy :=
  ⟨[⟨⟨"http", "http", http⟩, [], []⟩, ⟨⟨"https", "http", https⟩, [], []⟩], []⟩

theorem setDefaultService_keeps_mixed_frontends :
    setDefaultService (webEnv [("web", webService [⟨80⟩])]) webIngress ["http", "https"]
        ⟨.init, frontsProxy "old" "old", [], [false, false, false, false, true], []⟩ =
      .ok ((false, some .api), ⟨.init, frontsProxy "default-web-80" "old", [], [],
        [.backend false, .api .frontendEdit true, .api .frontendEdit false]⟩) ∧
    setDefaultService (webEnv [("web", webService [⟨80⟩])]) webIngress ["http", "https"]
        ⟨.init, frontsProxy "default-web-80" "old", [], [], []⟩ =
      .ok ((false, none), ⟨{ ControllerCfg.init with activeBackends := ["default-web-80"] },
        frontsProxy "default-web-80" "old", [], [], [.backend false, .endpoints false]⟩) := by
  decide

theorem setDefaultService_agreeing_frontends_web :
    Go.Post (setDefaultService (webEnv [("web", webService [⟨80⟩])]) webIngress ["http", "https"])
      ⟨.init, frontsProxy "old" "old", [], [], []⟩ fun r s' => r.2 = none →
        ∃ n svc, DefaultCtx (webEnv [("web", webService [⟨80⟩])]) webIngress ["http", "https"]
            (frontsProxy "old" "old") n svc ∧
          (svc.status = .DELETED ∨
            ∀ m ∈ ["http", "https"], NamesBackend s'.proxy m svc.handleBackend.2.1) :=
  @setDefaultService_agreeing_frontends _ _ _ _ "old" <| by
    simp only [List.mem_cons, List.mem_singleton, forall_eq_or_imp, forall_eq, List.not_mem_nil,
      false_implies, implies_true, and_true]
    exact ⟨⟨_, rfl, rfl⟩, ⟨_, rfl, rfl⟩⟩

/-- Modelled from the spec: the pass driver is not in the repository's files. ActiveBackends is
reset at the start of every pass and rebuilt by it; the default service is handled with the
global configuration. -/
def defaultServicePass (env : Env) : Go Bool := do
  modifyCfg fun c => { c with activeBackends := [] }
  handleDefaultService env

theorem defaultService_vanished_backend_inactive :
    (defaultServicePass (webEnv [("web", webService [⟨80⟩])])
        ⟨.init, frontsProxy "old" "old", [], [], []⟩).map Prod.snd =
      .ok ⟨{ ControllerCfg.init with activeBackends := ["default-web-80"] },
        frontsProxy "default-web-80" "default-web-80", [], [],
        [.backend false, .api .frontendEdit true, .api .frontendEdit true, .endpoints false]⟩ ∧
    defaultServicePass (webEnv [])
        ⟨{ ControllerCfg.init with activeBackends := ["default-web-80"] },
          frontsProxy "default-web-80" "default-web-80", [], [], []⟩ =
      .ok (false, ⟨.init, frontsProxy "default-web-80" "default-web-80", [], [], []⟩) := by
  decide

theorem handleDefaultService_portless_panics :
    handleDefaultService (webEnv [("web", webService [])])
        ⟨.init, frontsProxy "old" "old", [], [], []⟩ = .error .indexOutOfRange := by
  decide

end HAProxyIngress.Proofs.DefaultService
