import HAProxyIngress.Proofs.Passthrough

/-! Idempotence of HTTPS.Update, and the SNI rules a pass leaves. -/

namespace HAProxyIngress.Proofs.Idempotence

open HAProxyIngress.Model HAProxyIngress.Handler HAProxyIngress.Proofs.BindEdits
  HAProxyIngress.Proofs.ClientTLS HAProxyIngress.Proofs.Passthrough

def TLSSettled (env : Env) (s : St) : Prop :=
  env.certs.frontendCertsEnabled = true → clientCA env ≠ "" →
    ∃ F b0, HTTPS.caFileOf env (clientCA env) = (F, none) ∧
      (Proxy.frontendBindsGet s.cfg.frontHTTPS s.proxy).bind List.head? = some b0 ∧
      clientTLS b0 = (F, verifyMode env)

structure Settled (h : HTTPS) (env : Env) (s : St) : Prop where
  chained : Chained h s s.cfg.sslPassthrough
  https : s.cfg.https = env.certs.frontendCertsEnabled
  tls : TLSSettled env s
  rules : s.cfg.sslPassthrough = true → HTTPS.sslPassthroughRules env s = .ok ((), s)

lemma handleClientTLSAuth_quiet {env : Env} {s : St} (hs : s.faults = [])
    (hcert : env.certs.frontendCertsEnabled = true) (htls : TLSSettled env s) :
    Go.Post (HTTPS.handleClientTLSAuth env) s fun r s' => r = (false, none) ∧ s' = s := by
  simp only [HTTPS.handleClientTLSAuth]
  by_cases hann : clientCA env = ""
  · simp only [clientCA] at hann
    simp [hann]
  obtain ⟨F, b0, hca, hb0, hc0⟩ := htls hcert hann
  simp only [clientCA] at hann hca
  simp only [hann, if_false, Go.post_bind, Go.post_getCfg, Api.frontendBindsGet, Api.post_read_nil hs]
  obtain ⟨binds, hb, hhead⟩ := Option.bind_eq_some.1 hb0
  simp only [hb, hca, HTTPS.applyClientTLS, Go.post_bind, Go.post_index0, hhead, Option.some.injEq]
  rintro _ rfl
  simp only [clientTLS, verifyMode, Prod.mk.injEq] at hc0
  simp [hc0]

variable {h : HTTPS}

lemma sslPassthroughRules_apply (env : Env) (s : St) :
    HTTPS.sslPassthroughRules env s = .ok ((), { s with cfg := { s.cfg with
      haproxyRules := (HTTPS.sniRules env).foldl (fun reg r => addRule r false s.cfg.frontSSL reg)
        s.cfg.haproxyRules } }) :=
  rfl

lemma sslPassthroughRules_twice {env : Env} {s s' : St}
    (h : HTTPS.sslPassthroughRules env s = .ok ((), s')) :
    HTTPS.sslPassthroughRules env s' = .ok ((), s') := by
  rw [sslPassthroughRules_apply] at h ⊢
  cases h
  simp only [foldl_addRule_of_registered false fun r hr => registered_foldl_addRule hr _ _ _]

lemma updateSSLOffload_quiet {env : Env} {s : St} (hs : s.faults = [])
    (hhttps : s.cfg.https = env.certs.frontendCertsEnabled) (htls : TLSSettled env s) :
    Go.Post (h.updateSSLOffload env) s fun r s' => r = .ok false ∧ s' = s := by
  simp only [HTTPS.updateSSLOffload, Go.post_bind, Go.post_getCfg]
  cases hcert : env.certs.frontendCertsEnabled
  · rw [hcert] at hhttps
    simp [hhttps]
  · rw [hcert] at hhttps
    simp only [if_true, hhttps, Bool.not_true, Bool.false_eq_true, if_false, Go.post_pure,
      Go.post_bind]
    refine (handleClientTLSAuth_quiet hs hcert htls).mono ?_
    rintro _ _ ⟨rfl, rfl⟩
    simp

lemma sslPassthroughRules_frame {env : Env} {s s' : St}
    (h : HTTPS.sslPassthroughRules env s = .ok ((), s')) :
    ∃ rs, s' = { s with cfg := { s.cfg with haproxyRules := rs } } := by
  rw [sslPassthroughRules_apply] at h
  cases h
  exact ⟨_, rfl⟩

lemma updateSSLPassthrough_frame {env : Env} {s : St} (hs : s.faults = [])
    (hc : Chained h s s.cfg.sslPassthrough) :
    Go.Post (h.updateSSLPassthrough env) s fun r s' => r = false ∧
      (s' = s ∨ s.cfg.sslPassthrough = true ∧ HTTPS.sslPassthroughRules env s = .ok ((), s')) := by
  simp only [HTTPS.updateSSLPassthrough, Go.post_bind, Go.post_getCfg, Api.frontendGet,
    Api.post_read_nil hs, hc.ssl_frontend]
  by_cases hflag : s.cfg.sslPassthrough = true
  · simp only [hflag, if_true, Option.elim, Go.post_bind, Go.post_pure]
    exact fun _ _ h' => ⟨trivial, .inr ⟨trivial, h'⟩⟩
  · simp only [if_neg hflag, Option.elim, Go.post_pure]
    exact ⟨trivial, .inl trivial⟩

lemma updateSSLPassthrough_quiet {env : Env} {s : St} (hs : s.faults = [])
    (hc : Chained h s s.cfg.sslPassthrough)
    (hrules : s.cfg.sslPassthrough = true → HTTPS.sslPassthroughRules env s = .ok ((), s)) :
    Go.Post (h.updateSSLPassthrough env) s fun r s' => r = false ∧ s' = s :=
  (updateSSLPassthrough_frame hs hc).mono fun _ _ ⟨hr, hs'⟩ => ⟨hr, hs'.elim id fun ⟨hf, h'⟩ => by
    cases (hrules hf).symm.trans h'; rfl⟩

lemma updateSSLPassthrough_rules (env : Env) (s : St) :
    Go.Post (h.updateSSLPassthrough env) s fun _ s' =>
      s'.cfg.sslPassthrough = true → HTTPS.sslPassthroughRules env s' = .ok ((), s') := by
  have rules : ∀ s₁ : St, Go.Post (HTTPS.sslPassthroughRules env) s₁ fun _ s' =>
      s'.cfg.sslPassthrough = true → HTTPS.sslPassthroughRules env s' = .ok ((), s') :=
    fun _ _ _ h' _ => sslPassthroughRules_twice h'
  simp only [HTTPS.updateSSLPassthrough, Go.post_bind, Go.post_getCfg, Api.frontendGet,
    Api.post_read, Go.post_pure, Go.post_modifyCfg]
  by_cases hflag : s.cfg.sslPassthrough = true
  · simp only [hflag, if_true]
    split <;> simp only [Go.post_bind, Go.post_pure, Go.post_modifyCfg]
    · exact rules _
    · exact Go.post_true.mono fun _ _ _ => rules _
  · simp only [if_neg hflag]
    split <;> simp only [Go.post_bind, Go.post_pure, Go.post_modifyCfg]
    · exact Go.post_true.mono fun _ _ _ hf => Bool.noConfusion hf
    · exact fun hf => (hflag hf).elim

lemma handleClientTLSAuth_settles {env : Env} {s : St} {pt : Bool} {F : String}
    (hs : s.faults = []) (hc : Chained h s pt)
    (hF : env.certs.handleTLSSecret ⟨"", clientCA env, .CA_CERT⟩ = .ok F) (hF0 : F ≠ "") :
    Go.Post (HTTPS.handleClientTLSAuth env) s fun _ s' => TLSSettled env s' := by
  obtain ⟨l, hl, hlis, -⟩ := hc.https_binds
  have hca : HTTPS.caFileOf env (clientCA env) = (F, none) := by simp [HTTPS.caFileOf, hF]
  simp only [HTTPS.handleClientTLSAuth]
  by_cases hann : clientCA env = ""
  · simp only [clientCA] at hann
    simpa [hann] using fun (_ : env.certs.frontendCertsEnabled = true) hne => (hne hann).elim
  simp only [clientCA] at hann hca
  simp only [hann, if_false, Go.post_bind, Go.post_getCfg, Api.frontendBindsGet, Api.post_read_nil hs,
    hl, hca]
  rcases l with _ | ⟨b, bs⟩
  · simp [HTTPS.applyClientTLS]
  refine (applyClientTLS_nil hs hl).mono ?_
  rintro r s' (⟨b0, hb0, hc0, -, rfl⟩ | ⟨-, rfl⟩) - -
  · exact ⟨F, b0, by simpa [clientCA] using hca, by simpa [hl] using hb0, by simpa [verifyMode] using hc0⟩
  · have hnd : ((b :: bs).map Bind.name).Nodup := by
      rw [names_of_listener hlis]
      exact bindList_nodup h pt
    have hset := @editBinds_of_names ((b :: bs).map (setClientTLS F (verifyMode env))) (b :: bs)
      (by simpa [Function.comp_def, setClientTLS] using hnd) (by simp [Function.comp_def, setClientTLS])
    refine ⟨F, setClientTLS F (verifyMode env) b, by simpa [clientCA] using hca, ?_, ?_⟩
    · simp only [verifyMode, List.map_cons] at hset
      simp only [Proxy.frontendBindsGet_modifyBinds_self, hl, Option.map_some', Option.some_bind,
        hset, List.map_cons, List.head?_cons, verifyMode]
    · simp [clientTLS, setClientTLS, hF0]

lemma updateSSLOffload_settles {env : Env} {s : St} {pt : Bool} (hs : s.faults = [])
    (hc : Chained h s pt)
    (hF : env.certs.frontendCertsEnabled = true → clientCA env ≠ "" →
      ∃ F, env.certs.handleTLSSecret ⟨"", clientCA env, .CA_CERT⟩ = .ok F ∧ F ≠ "") :
    Go.Post (h.updateSSLOffload env) s fun _ s' =>
      s'.cfg.https = env.certs.frontendCertsEnabled ∧ TLSSettled env s' := by
  have tls : ∀ s₁ : St, s₁.faults = [] → Chained h s₁ pt → s₁.cfg.https = true →
      env.certs.frontendCertsEnabled = true → ∀ reload : Bool,
      Go.Post (HTTPS.handleClientTLSAuth env) s₁ fun a s' =>
        Go.Post (match a.2 with
          | some e => pure (Except.error (a.1, e))
          | none => pure (Except.ok (reload || a.1)) : Go (Except (Bool × Err) Bool)) s' fun _ s' =>
        s'.cfg.https = true ∧ TLSSettled env s' := by
    intro s₁ hs₁ hc₁ hh₁ hcert reload
    have hset : Go.Post (HTTPS.handleClientTLSAuth env) s₁ fun _ s' => TLSSettled env s' := by
      by_cases hann : clientCA env = ""
      · exact Go.post_true.mono fun _ _ _ _ hne => (hne hann).elim
      obtain ⟨F, hF', hF0⟩ := hF hcert hann
      exact handleClientTLSAuth_settles hs₁ hc₁ hF' hF0
    refine ((handleClientTLSAuth_chained hs₁ hc₁).and hset).mono ?_
    rintro ⟨r, err⟩ s' ⟨⟨rfl, -, hcfg, -⟩, ht⟩
    exact Go.post_pure.2 ⟨by rw [hcfg, hh₁], ht⟩
  have hex := frontendExists_of_chained hc
  simp only [HTTPS.updateSSLOffload, Go.post_bind, Go.post_getCfg]
  cases hcert : env.certs.frontendCertsEnabled
  · have hno : ∀ s' : St, TLSSettled env s' := fun _ h => by simp [hcert] at h
    cases hhttps : s.cfg.https
    · simpa [hhttps] using hno s
    · simp only [Bool.false_eq_true, if_false, hhttps, if_true, Go.post_bind,
        Api.frontendDisableSSLOffload, Api.post_mutate_nil hs, Proxy.frontendDisableSSLOffload, hex,
        Go.post_loggerPanic, forall_const, Go.post_modifyCfg, Go.post_pure]
      exact ⟨trivial, hno _⟩
  · cases hhttps : s.cfg.https
    · simp only [if_true, hhttps, Bool.not_false, Go.post_bind, Api.frontendEnableSSLOffload,
        Api.post_mutate_nil hs, Proxy.frontendEnableSSLOffload, hex, Go.post_loggerPanic,
        forall_const, Go.post_modifyCfg, Go.post_pure]
      refine tls _ ?_ ?_ ?_ hcert true
      · exact hs
      · exact (hc.mapBinds (Bind.enableSSL h.certDir h.alpn) (fun _ => rfl)
          fun _ => ⟨rfl, rfl⟩).congr rfl rfl rfl rfl
      · rfl
    · simpa [hhttps] using tls s hs hc hhttps hcert false

theorem update_quiet {env : Env} {s : St} (hen : h.enabled = true) (hs : s.faults = [])
    (hset : Settled h env s) :
    Go.Post (h.update env) s fun r s' => r = (env.certs.updated, none) ∧ s' = s := by
  have hen' : (!h.enabled) = false := by simp [hen]
  simp only [HTTPS.update, hen', Bool.false_eq_true, if_false, Go.post_bind, Go.post_pure]
  refine (updateSSLOffload_quiet hs hset.https hset.tls).mono ?_
  rintro _ _ ⟨rfl, rfl⟩
  refine Go.post_bind.2 ((updateSSLPassthrough_quiet hs (hset.chained.alpn _) hset.rules).mono ?_)
  rintro _ _ ⟨rfl, rfl⟩
  exact Go.post_pure.2 ⟨by simp, rfl⟩

theorem update_settles {env : Env} {s : St} {pt : Bool} (hen : h.enabled = true)
    (hs : s.faults = []) (hc : Chained h s pt)
    (hF : env.certs.frontendCertsEnabled = true → clientCA env ≠ "" → pt = s.cfg.sslPassthrough ∧
      ∃ F, env.certs.handleTLSSecret ⟨"", clientCA env, .CA_CERT⟩ = .ok F ∧ F ≠ "") :
    Go.Post (h.update env) s fun _ s' => s'.faults = [] ∧ Settled h env s' := by
  have hen' : (!h.enabled) = false := by simp [hen]
  simp only [HTTPS.update, hen', Bool.false_eq_true, if_false, Go.post_bind, Go.post_pure]
  refine ((updateSSLOffload_chained hs (hc.alpn _)).and
    (updateSSLOffload_settles hs (hc.alpn _) fun hcert hann => (hF hcert hann).2)).mono ?_
  rintro _ s₁ ⟨⟨⟨b, rfl⟩, hs₁, hcfg₁, hc₁⟩, hh₁, ht₁⟩
  have hp₁ : s₁.cfg.sslPassthrough = s.cfg.sslPassthrough := by rw [hcfg₁]
  refine Go.post_bind.2 ?_
  by_cases htog : pt = s.cfg.sslPassthrough
  · rw [htog, ← hp₁] at hc₁
    refine ((updateSSLPassthrough_frame hs₁ hc₁).and (updateSSLPassthrough_rules env s₁)).mono ?_
    rintro _ s₂ ⟨⟨-, hs₂⟩, hr₂⟩
    obtain ⟨rs, rfl⟩ : ∃ rs, s₂ = { s₁ with cfg := { s₁.cfg with haproxyRules := rs } } :=
      hs₂.elim (fun h => ⟨_, h⟩) fun h => sslPassthroughRules_frame h.2
    exact Go.post_pure.2 ⟨hs₁, ⟨hc₁.1, hc₁.2, hc₁.3⟩, hh₁, ht₁, hr₂⟩
  · refine ((updateSSLPassthrough_chained hs₁ hc₁).and (updateSSLPassthrough_rules env s₁)).mono ?_
    rintro _ s₂ ⟨⟨hs₂, hcfg₂, hc₂⟩, hr₂⟩
    rw [hp₁] at hc₂
    exact Go.post_pure.2 ⟨hs₂, by rw [hcfg₂, hp₁]; exact ⟨hc₂.1, hc₂.2, hc₂.3⟩,
      by rw [hcfg₂, hh₁], fun hcert hann => (htog (hF hcert hann).1).elim, hr₂⟩

theorem update_idempotent {env : Env} {s : St} {pt : Bool} (hen : h.enabled = true)
    (hs : s.faults = []) (hc : Chained h s pt)
    (hF : env.certs.frontendCertsEnabled = true → clientCA env ≠ "" → pt = s.cfg.sslPassthrough ∧
      ∃ F, env.certs.handleTLSSecret ⟨"", clientCA env, .CA_CERT⟩ = .ok F ∧ F ≠ "") :
    Go.Post (h.update env) s fun _ s₁ => Go.Post (h.update env) s₁ fun r s₂ =>
      r = (env.certs.updated, none) ∧ s₂ = s₁ :=
  (update_settles hen hs hc hF).mono fun _ _ ⟨hs₁, hset⟩ => update_quiet hen hs₁ hset

def caEnv : Env :=
  { plainEnv with
    store := ⟨[], [("client-ca", "default/ca")]⟩
    certs := ⟨true, false, fun _ => .ok "/etc/haproxy/certs/ca/default_ca.pem"⟩ }

lemma startSt_chained : Chained httpsV4 startSt false :=
  ⟨⟨[externalBind], rfl, rfl, by unfold VerifyCleared; decide⟩, rfl, rfl⟩

theorem update_idempotent_clientCA :
    Go.Post (httpsV4.update caEnv) startSt fun _ s₁ => Go.Post (httpsV4.update caEnv) s₁
      fun r s₂ => r = (caEnv.certs.updated, none) ∧ s₂ = s₁ :=
  update_idempotent rfl rfl startSt_chained fun _ _ => ⟨rfl, _, rfl, by decide⟩

theorem update_sniRules {env : Env} {s : St} {pt : Bool} (hen : h.enabled = true)
    (hs : s.faults = []) (hc : Chained h s pt) :
    Go.Post (h.update env) s fun _ s' =>
      (s.cfg.sslPassthrough = true →
        ∀ r ∈ HTTPS.sniRules env, Registered r s.cfg.frontSSL s'.cfg.haproxyRules) ∧
      (s.cfg.sslPassthrough = false → pt = true →
        ∀ e ∈ s'.cfg.haproxyRules, e.frontend ≠ s.cfg.frontSSL) ∧
      (∀ e ∈ s.cfg.haproxyRules, e.frontend ≠ s.cfg.frontSSL → e ∈ s'.cfg.haproxyRules) := by
  refine (update_chained hen hs hc).mono fun _ s' hu => ?_
  have hr : s'.cfg.haproxyRules = passthroughRules env pt s.cfg := by rw [hu.2.1]
  rw [hr]
  unfold passthroughRules
  by_cases hflag : s.cfg.sslPassthrough = true
  · simp only [if_pos hflag]
    exact ⟨fun _ r hr => registered_foldl_addRule hr _ _ _, fun hf => absurd hflag (by simp [hf]),
      fun e he _ => mem_foldl_addRule_of_mem he _ _ _⟩
  · simp only [if_neg hflag]
    cases pt
    · exact ⟨fun h => absurd h hflag, fun _ h => Bool.noConfusion h, fun e he _ => he⟩
    · simp only [if_true, deleteFrontend, List.mem_filter, decide_eq_true_eq]
      exact ⟨fun h => absurd h hflag, fun _ _ e he => he.2, fun e he hne => ⟨he, hne⟩⟩

def pendingSt : St := { startSt with cfg := { startSt.cfg with sslPassthrough := true } }

lemma pendingSt_chained : Chained httpsV4 pendingSt false :=
  ⟨⟨[externalBind], rfl, rfl, by unfold VerifyCleared; decide⟩, rfl, rfl⟩

theorem update_sniRules_pending :
    Go.Post (httpsV4.update plainEnv) pendingSt fun _ s' =>
      (pendingSt.cfg.sslPassthrough = true →
        ∀ r ∈ HTTPS.sniRules plainEnv, Registered r pendingSt.cfg.frontSSL s'.cfg.haproxyRules) ∧
      (pendingSt.cfg.sslPassthrough = false → false = true →
        ∀ e ∈ s'.cfg.haproxyRules, e.frontend ≠ pendingSt.cfg.frontSSL) ∧
      (∀ e ∈ pendingSt.cfg.haproxyRules, e.frontend ≠ pendingSt.cfg.frontSSL → e ∈ s'.cfg.haproxyRules) :=
  update_sniRules rfl rfl pendingSt_chained
end HAProxyIngress.Proofs.Idempotence
