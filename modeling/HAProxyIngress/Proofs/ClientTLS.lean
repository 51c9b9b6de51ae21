import HAProxyIngress.Proofs.BindEdits

/-! Client TLS authentication on the binds of the HTTPS frontend. -/

namespace HAProxyIngress.Proofs.ClientTLS

open HAProxyIngress.Model HAProxyIngress.Handler HAProxyIngress.Proofs.BindEdits

def clientTLS (b : Bind) : String × String := (b.sslCafile, b.verify)

def clientCA (env : Env) : String := getValue env.defaults "client-ca" [env.store.configMap]

def verifyMode (env : Env) : String :=
  if (getBoolValue (getValue env.defaults "client-crt-optional" [env.store.configMap])).1 then
    "optional"
  else "required"

def desiredClientTLS (env : Env) : String × String :=
  if clientCA env = "" then ("", "")
  else
    match env.certs.handleTLSSecret ⟨"", clientCA env, .CA_CERT⟩ with
    | .ok f => (f, verifyMode env)
    | .error _ => ("", "")

def VerifyCleared (binds : List Bind) : Prop := ∀ b ∈ binds, b.sslCafile = "" → b.verify = ""

def setClientTLS (caFile verify : String) (b : Bind) : Bind :=
  { b with sslCafile := caFile, verify := if caFile = "" then "" else verify }

lemma verifyCleared_setClientTLS (caFile verify : String) (l : List Bind) :
    VerifyCleared (l.map (setClientTLS caFile verify)) := by
  simp only [VerifyCleared, List.mem_map]
  rintro _ ⟨b, -, rfl⟩ (hb : caFile = "")
  simp [setClientTLS, hb]

lemma applyClientTLS_post (ft caFile verify : String) (err : Option Err) (binds : List Bind)
    (s : St) :
    Go.Post (HTTPS.applyClientTLS ft caFile verify err binds) s fun r s' =>
      (∃ b0 ∈ binds.head?, clientTLS b0 = (caFile, verify) ∧ r = (false, err) ∧ s' = s) ∨
      (r.1 = false ∧ r.2.isSome) ∨
      (r = (true, none) ∧
        s' = { s with proxy := s.proxy.modifyBinds ft (editBinds (binds.map (setClientTLS caFile verify))),
                      faults := s.faults.drop binds.length,
                      log := s.log ++ binds.map fun _ => .api .frontendBindEdit true }) := by
  simp only [HTTPS.applyClientTLS, Go.post_bind, Go.post_index0, Go.post_ite]
  rintro b0 hb0
  refine ⟨fun hc => Go.post_pure.2 (.inl ⟨b0, hb0, by simp [clientTLS, hc]⟩), fun _ => ?_⟩
  refine (eachBind_edit_post _ _ _ s).mono ?_
  rintro (e | e) s' h
  · simp
  · obtain ⟨rfl, rfl⟩ := h e rfl
    cases binds with
    | nil => cases hb0
    | cons b bs =>
      refine Go.post_pure.2 (.inr (.inr ⟨by simp, ?_⟩))
      simp only [List.length_map, List.map_map]
      rfl

lemma applyClientTLS_nil {ft caFile verify : String} {err : Option Err} {binds : List Bind}
    {s : St} (hs : s.faults = []) (hb : Proxy.frontendBindsGet ft s.proxy = some binds) :
    Go.Post (HTTPS.applyClientTLS ft caFile verify err binds) s fun r s' =>
      (∃ b0 ∈ binds.head?, clientTLS b0 = (caFile, verify) ∧ r = (false, err) ∧ s' = s) ∨
      (r = (true, none) ∧
        s' = { s with proxy := s.proxy.modifyBinds ft (editBinds (binds.map (setClientTLS caFile verify))),
                      log := s.log ++ binds.map fun _ => .api .frontendBindEdit true }) := by
  simp only [HTTPS.applyClientTLS, Go.post_bind, Go.post_index0, Go.post_ite]
  rintro b0 hb0
  refine ⟨fun hc => Go.post_pure.2 (.inl ⟨b0, hb0, by simp [clientTLS, hc]⟩), fun _ => ?_⟩
  refine (eachBind_edit_nil hs hb fun b hb' => ?_).mono ?_
  · obtain ⟨x, hx, rfl⟩ := List.mem_map.1 hb'
    exact List.mem_map.2 ⟨x, hx, rfl⟩
  · rintro r s' ⟨rfl, rfl⟩
    cases binds with
    | nil => cases hb0
    | cons b bs =>
      refine Go.post_pure.2 (.inr ⟨by simp, ?_⟩)
      simp only [List.map_map]
      rfl

lemma setClientTLS_mem {caFile verify : String} {binds : List Bind} {b : Bind}
    (hb : b ∈ editBinds (binds.map (setClientTLS caFile verify)) binds) :
    clientTLS b = (caFile, if caFile = "" then "" else verify) := by
  have := editBinds_mem (fun x hx => ⟨setClientTLS caFile verify x, List.mem_map_of_mem _ hx, rfl⟩) b hb
  obtain ⟨x, -, rfl⟩ := List.mem_map.1 this
  rfl

lemma verifyMode_ne_empty (env : Env) : verifyMode env ≠ "" := by
  unfold verifyMode
  split <;> decide

lemma caFileOf_desired {env : Env} (hann : clientCA env ≠ "")
    (hcert : env.certs.handleTLSSecret ⟨"", clientCA env, .CA_CERT⟩ ≠ .error .other)
    (hfile : ∀ F, env.certs.handleTLSSecret ⟨"", clientCA env, .CA_CERT⟩ = .ok F → F ≠ "") :
    HTTPS.caFileOf env (clientCA env) = ((desiredClientTLS env).1, none) ∧
      (desiredClientTLS env).2 = if (desiredClientTLS env).1 = "" then "" else verifyMode env := by
  unfold desiredClientTLS HTTPS.caFileOf
  cases h : env.certs.handleTLSSecret ⟨"", clientCA env, .CA_CERT⟩ with
  | ok F => simp [hann, hfile F h]
  | error e => cases e <;> simp_all

theorem handleClientTLSAuth_uniform_binds {env : Env} {s : St} {binds : List Bind}
    (hann : clientCA env ≠ "")
    (hcert : env.certs.handleTLSSecret ⟨"", clientCA env, .CA_CERT⟩ ≠ .error .other)
    (hfile : ∀ F, env.certs.handleTLSSecret ⟨"", clientCA env, .CA_CERT⟩ = .ok F → F ≠ "")
    (hb : Proxy.frontendBindsGet s.cfg.frontHTTPS s.proxy = some binds)
    (hcl : VerifyCleared binds) (huni : ∀ b ∈ binds, ∀ b' ∈ binds, clientTLS b = clientTLS b') :
    Go.Post (HTTPS.handleClientTLSAuth env) s fun r s' => r.2 = none →
      ∀ binds', Proxy.frontendBindsGet s'.cfg.frontHTTPS s'.proxy = some binds' →
        ∀ b ∈ binds', clientTLS b = desiredClientTLS env := by
  obtain ⟨hca, hd⟩ := caFileOf_desired hann hcert hfile
  simp only [clientCA] at hann hca
  simp only [HTTPS.handleClientTLSAuth, hann, if_false, Go.post_ite, Go.post_bind, Go.post_getCfg,
    Api.frontendBindsGet, Api.post_read, not_false_eq_true, true_implies, false_implies, true_and, hca]
  split
  · rename_i a ha
    obtain rfl : a = binds := Option.some.inj ((Api.outcome_some ha).symm.trans hb)
    refine (applyClientTLS_post _ _ _ _ _ _).mono ?_
    rintro r s' (⟨b0, hb0, hc, rfl, rfl⟩ | ⟨-, h⟩ | ⟨rfl, rfl⟩) hr
    · have h0 := List.mem_of_mem_head? hb0
      have hF : (desiredClientTLS env).1 ≠ "" := by
        intro hF
        simp only [clientTLS, Prod.mk.injEq, hF] at hc
        exact verifyMode_ne_empty env (hc.2.symm.trans (hcl b0 h0 hc.1))
      simp only [hb, Option.some.injEq]
      rintro _ rfl b hb'
      rw [huni b hb' b0 h0, hc]
      exact Prod.ext rfl (by rw [hd, if_neg hF]; rfl)
    · simp_all
    · simp only [hb, Proxy.frontendBindsGet_modifyBinds_self, Option.map_some', Option.some.injEq]
      rintro _ rfl b hb'
      rw [setClientTLS_mem hb']
      exact Prod.ext rfl (by rw [hd]; rfl)
  · exact Go.post_pure.2 nofun

def tlsBind (name caFile verify : String) : Bind :=
  { (default : Bind) with name := name, sslCafile := caFile, verify := verify }

def httpsProxy (binds : List Bind) : Proxy := ⟨[⟨⟨"https", "http", ""⟩, binds, []⟩], []⟩

def caEnv (secret : Except CertError String) : Env where
  store := ⟨[], [("client-ca", "default/ca")]⟩
  defaults := []
  certs := ⟨true, false, fun _ => secret⟩
  newCtx _ _ _ := .error .service
  addHostPathRoute _ := none
  addCustomRoute _ _ := (false, none)
  frontendAnnotations _ := []
  getID _ := ""
  parseTime _ := none
  sniMapPath := ""

theorem handleClientTLSAuth_keeps_mixed_binds :
    HTTPS.handleClientTLSAuth (caEnv (.ok "/ca.pem"))
        ⟨.init, httpsProxy [tlsBind "v4" "" "", tlsBind "v6" "" ""], [], [false, false, true], []⟩ =
      .ok ((false, some .api),
        ⟨.init, httpsProxy [tlsBind "v4" "/ca.pem" "required", tlsBind "v6" "" ""], [], [],
          [.api .frontendBindEdit true, .api .frontendBindEdit false]⟩) ∧
    HTTPS.handleClientTLSAuth (caEnv (.ok "/ca.pem"))
        ⟨.init, httpsProxy [tlsBind "v4" "/ca.pem" "required", tlsBind "v6" "" ""], [], [], []⟩ =
      .ok ((false, none),
        ⟨.init, httpsProxy [tlsBind "v4" "/ca.pem" "required", tlsBind "v6" "" ""], [], [], []⟩) ∧
    clientTLS (tlsBind "v6" "" "") ≠ desiredClientTLS (caEnv (.ok "/ca.pem")) := by
  decide

theorem handleClientTLSAuth_uniform_binds_fresh :
    Go.Post (HTTPS.handleClientTLSAuth (caEnv (.ok "/ca.pem")))
      ⟨.init, httpsProxy [tlsBind "v4" "" "", tlsBind "v6" "" ""], [], [], []⟩ fun r s' =>
        r.2 = none → ∀ binds', Proxy.frontendBindsGet s'.cfg.frontHTTPS s'.proxy = some binds' →
          ∀ b ∈ binds', clientTLS b = desiredClientTLS (caEnv (.ok "/ca.pem")) :=
  handleClientTLSAuth_uniform_binds (by decide) (by decide) (fun F h => by cases h; decide) rfl
    (by unfold VerifyCleared; decide) (by decide)

def httpsV4 : HTTPS := ⟨true, true, false, 443, "0.0.0.0", "::", "/etc/haproxy/certs", ""⟩

theorem handleClientTLSAuth_drops_ca_on_cert_error :
    HTTPS.handleClientTLSAuth (caEnv (.error .other))
        ⟨.init, httpsProxy [tlsBind "v4" "/ca.pem" "required"], [], [], []⟩ =
      .ok ((true, none), ⟨.init, httpsProxy [tlsBind "v4" "" ""], [], [], [.api .frontendBindEdit true]⟩) ∧
    (httpsV4.update (caEnv (.error .other))
        ⟨.init, httpsProxy [tlsBind "v4" "/ca.pem" "required"], [], [], []⟩).map Prod.fst =
      .ok (true, none) := by
  decide

theorem update_repeats_ca_removal :
    httpsV4.update (caEnv (.error .notFound))
        ⟨{ ControllerCfg.init with https := true }, httpsProxy [tlsBind "v4" "" ""], [], [], []⟩ =
      .ok ((true, none), ⟨{ ControllerCfg.init with https := true }, httpsProxy [tlsBind "v4" "" ""],
        [], [], [.api .frontendBindEdit true]⟩) ∧
    httpsV4.update (caEnv (.error .notFound))
        ⟨{ ControllerCfg.init with https := true }, httpsProxy [tlsBind "v4" "" ""], [], [],
          [.api .frontendBindEdit true]⟩ =
      .ok ((true, none), ⟨{ ControllerCfg.init with https := true }, httpsProxy [tlsBind "v4" "" ""],
        [], [], [.api .frontendBindEdit true, .api .frontendBindEdit true]⟩) := by
  decide

end HAProxyIngress.Proofs.ClientTLS
