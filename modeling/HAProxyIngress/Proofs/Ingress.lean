import HAProxyIngress.Controller.Global

/-! Resolving ssl-passthrough, and handleIngressPath on a deleted path. -/

namespace HAProxyIngress.Proofs.Ingress

open HAProxyIngress.Model HAProxyIngress.Controller

variable (env : Env)

def setPassthrough (s : St) : St := { s with cfg := { s.cfg with sslPassthrough := true } }

lemma passthroughFlag_eq (ann : String) :
    ∃ b, ∀ s, passthroughFlag ann s = .ok (b, if b then setPassthrough s else s) := by
  unfold passthroughFlag
  split_ifs
  · exact ⟨false, fun _ => rfl⟩
  · rcases getBoolValue ann with ⟨_ | _, _ | _⟩ <;> exact ⟨_, fun _ => rfl⟩

lemma sslPassthroughEnabled_post (ingress : Ingress) (path : Option IngressPath) (s : St) :
    Go.Post (sslPassthroughEnabled env ingress path) s fun b s' =>
      s' = if b then setPassthrough s else s := by
  simp only [sslPassthroughEnabled]
  split
  · obtain ⟨b, hb⟩ := passthroughFlag_eq _
    exact Go.post_of_eq (hb s) rfl
  · split
    · simp
    · obtain ⟨b, hb⟩ := passthroughFlag_eq _
      exact Go.post_of_eq (hb s) rfl

lemma sslPassthroughEnabled_none (ingress : Ingress) : ∃ pt, ∀ s,
    sslPassthroughEnabled env ingress none s = .ok (pt, if pt then setPassthrough s else s) :=
  passthroughFlag_eq _

theorem handleIngressPath_deleted {ingress : Ingress} {path : IngressPath} {s s₁ : St} {pt : Bool}
    {svc : SvcCtx} (hpt : sslPassthroughEnabled env ingress (some path) s = .ok (pt, s₁))
    (hctx : env.newCtx ingress (some path) pt = .ok svc) (hdel : svc.status = .DELETED)
    (host : String) (ruleIDs : List RuleID) :
    handleIngressPath env ingress host path ruleIDs s =
      .ok ((false, none), if pt then setPassthrough s else s) := by
  rw [← sslPassthroughEnabled_post env ingress (some path) s pt s₁ hpt]
  simp only [handleIngressPath, Go.bind_apply, hpt, hctx, hdel, if_true, Go.pure_apply]

def deletedEnv : Env where
  store := ⟨[("default", ⟨"default", [("web", ⟨"web", [("ssl-passthrough", "true")], [⟨80⟩]⟩)]⟩)], []⟩
  defaults := []
  certs := ⟨false, false, fun _ => .error .notFound⟩
  newCtx _ _ _ := .ok ⟨.DELETED, ⟨"web", [("ssl-passthrough", "true")], [⟨80⟩]⟩, (true, "default-web-80", none), true⟩
  addHostPathRoute _ := none
  addCustomRoute _ _ := (false, none)
  frontendAnnotations _ := []
  getID _ := ""
  parseTime _ := none
  sniMapPath := ""

def webPath : IngressPath := ⟨"web", 80, false⟩

theorem handleIngressPath_deleted_web :
    handleIngressPath deletedEnv ⟨"default", "web", [], none, .EMPTY, ""⟩ "example.com" webPath []
        ⟨.init, ⟨[], []⟩, [], [], []⟩ =
      .ok ((false, none), if true then setPassthrough ⟨.init, ⟨[], []⟩, [], [], []⟩
        else ⟨.init, ⟨[], []⟩, [], [], []⟩) :=
  @handleIngressPath_deleted deletedEnv _ webPath _ (setPassthrough ⟨.init, ⟨[], []⟩, [], [], []⟩) true _
    (by decide) rfl rfl "example.com" []

theorem handleIngressPath_deleted_sets_passthrough :
    handleIngressPath deletedEnv ⟨"default", "web", [], none, .EMPTY, ""⟩ "example.com" webPath []
        ⟨.init, ⟨[], []⟩, [], [], []⟩ =
      .ok ((false, none), ⟨{ ControllerCfg.init with sslPassthrough := true }, ⟨[], []⟩, [], [], []⟩) := by
  decide

end HAProxyIngress.Proofs.Ingress
