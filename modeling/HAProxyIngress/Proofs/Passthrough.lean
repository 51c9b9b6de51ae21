import HAProxyIngress.Proofs.ClientTLS

/-! The SSL-passthrough wiring of Update over runs of passes. -/

namespace HAProxyIngress.Proofs.Passthrough

open HAProxyIngress.Model HAProxyIngress.Handler HAProxyIngress.Proofs.BindEdits
  HAProxyIngress.Proofs.ClientTLS

def listener (b : Bind) : String × String × Option Int × Bool × Bool :=
  (b.name, b.address, b.port, b.acceptProxy, b.v4v6)

lemma names_of_listener {l l' : List Bind} (h : l.map listener = l'.map listener) :
    l.map Bind.name = l'.map Bind.name := by
  simpa [Function.comp_def, listener] using congrArg (List.map Prod.fst) h

variable (h : HTTPS)

lemma bindList_names (pt pt' : Bool) :
    (h.bindList pt).map Bind.name = (h.bindList pt').map Bind.name := by
  unfold HTTPS.bindList
  cases h.ipv4 <;> cases h.ipv6 <;> rfl

lemma bindList_nodup (pt : Bool) : ((h.bindList pt).map Bind.name).Nodup := by
  unfold HTTPS.bindList
  cases h.ipv4 <;> cases h.ipv6 <;> simp

lemma bindList_name_ne (pt : Bool) : ∀ b ∈ h.bindList pt, b.name ≠ "" := by
  unfold HTTPS.bindList
  cases h.ipv4 <;> cases h.ipv6 <;> simp

lemma bindList_cleared (pt : Bool) : VerifyCleared (h.bindList pt) := by
  unfold VerifyCleared HTTPS.bindList
  cases h.ipv4 <;> cases h.ipv6 <;> simp [show (default : Bind).verify = "" from rfl]

def chainServer (cfg : ControllerCfg) : Server := ⟨cfg.frontHTTPS, "127.0.0.1", some h.port, "enabled"⟩

structure Chained (s : St) (pt : Bool) : Prop where
  https_binds : ∃ l, Proxy.frontendBindsGet s.cfg.frontHTTPS s.proxy = some l ∧
    l.map listener = (h.bindList pt).map listener ∧ VerifyCleared l
  ssl_frontend : Proxy.frontendGet s.cfg.frontSSL s.proxy =
    if pt then some ⟨s.cfg.frontSSL, "tcp", s.cfg.backSSL⟩ else none
  ssl_backend : s.proxy.backend? s.cfg.backSSL =
    if pt then some ⟨⟨s.cfg.backSSL, "tcp"⟩, [chainServer h s.cfg]⟩ else none

variable {h}

lemma Chained.congr {s s' : St} {pt : Bool} (hc : Chained h s pt) (hp : s'.proxy = s.proxy)
    (h1 : s'.cfg.frontHTTPS = s.cfg.frontHTTPS) (h2 : s'.cfg.frontSSL = s.cfg.frontSSL)
    (h3 : s'.cfg.backSSL = s.cfg.backSSL) : Chained h s' pt := by
  obtain ⟨hb, hf, hk⟩ := hc
  exact ⟨by rwa [hp, h1], by rwa [hp, h2, h3], by rwa [hp, h3, chainServer, h1]⟩

lemma Chained.mapBinds {s : St} {pt : Bool} (hc : Chained h s pt) (f : Bind → Bind)
    (hl : ∀ b, listener (f b) = listener b)
    (hv : ∀ b, (f b).sslCafile = b.sslCafile ∧ (f b).verify = b.verify) :
    Chained h { s with proxy := s.proxy.modifyBinds s.cfg.frontHTTPS (List.map f) } pt := by
  obtain ⟨⟨l, hb, hlis, hcl⟩, hf, hk⟩ := hc
  refine ⟨⟨l.map f, by simp [hb], by simpa [Function.comp_def, hl] using hlis, ?_⟩, by simpa using hf,
    by simpa using hk⟩
  simp only [VerifyCleared, List.mem_map]
  rintro _ ⟨b, hb', rfl⟩
  rw [(hv b).1, (hv b).2]
  exact hcl b hb'

lemma frontendExists_of_chained {s : St} {pt : Bool} (hc : Chained h s pt) :
    (s.proxy.frontend? s.cfg.frontHTTPS).isSome := by
  obtain ⟨l, hl, -⟩ := hc.https_binds
  obtain ⟨sec, hsec, -⟩ := Option.map_eq_some'.1 hl
  simp [hsec]

lemma handleClientTLSAuth_chained {env : Env} {s : St} {pt : Bool} (hs : s.faults = [])
    (hc : Chained h s pt) :
    Go.Post (HTTPS.handleClientTLSAuth env) s fun r s' =>
      r.2 = none ∧ s'.faults = [] ∧ s'.cfg = s.cfg ∧ Chained h s' pt := by
  obtain ⟨l, hl, hlis, hcl⟩ := hc.https_binds
  simp only [HTTPS.handleClientTLSAuth]
  by_cases hann : getValue env.defaults "client-ca" [env.store.configMap] = ""
  · simpa [hann] using ⟨hs, hc⟩
  generalize hv : (if (getBoolValue (getValue env.defaults "client-crt-optional"
    [env.store.configMap])).1 then "optional" else "required") = verify
  have hv' : verify ≠ "" := by
    rw [← hv]
    exact verifyMode_ne_empty env
  simp only [hann, if_false, Go.post_bind, Go.post_getCfg, Api.frontendBindsGet, Api.post_read_nil hs,
    hl]
  rcases hct : HTTPS.caFileOf env (getValue env.defaults "client-ca" [env.store.configMap])
    with ⟨caFile, err⟩
  have herr : err.isSome → caFile = "" := by
    unfold HTTPS.caFileOf at hct
    split at hct <;> cases hct <;> simp
  refine (applyClientTLS_nil hs hl).mono ?_
  rintro r s' (⟨b0, hb0, hc0, rfl, rfl⟩ | ⟨rfl, rfl⟩)
  · refine ⟨?_, hs, rfl, hc⟩
    cases herr' : err with
    | none => rfl
    | some e =>
      obtain rfl := herr (by simp [herr'])
      simp only [clientTLS, Prod.mk.injEq] at hc0
      exact absurd (hc0.2.symm.trans (hcl b0 (List.mem_of_mem_head? hb0) hc0.1)) hv'
  · have hnd : (l.map Bind.name).Nodup := by
      rw [names_of_listener hlis]
      exact bindList_nodup h pt
    have hset : editBinds (l.map (setClientTLS caFile verify)) l = l.map (setClientTLS caFile verify) :=
      editBinds_of_names (by simpa [Function.comp_def, setClientTLS] using hnd)
        (by simp [Function.comp_def, setClientTLS])
    refine ⟨rfl, hs, rfl, ⟨l.map (setClientTLS caFile verify), by simp [hl, hset], ?_,
      verifyCleared_setClientTLS _ _ _⟩, ?_, ?_⟩
    · simpa [Function.comp_def, listener, setClientTLS] using hlis
    · simpa using hc.ssl_frontend
    · simpa using hc.ssl_backend

lemma updateSSLOffload_chained {env : Env} {s : St} {pt : Bool} (hs : s.faults = [])
    (hc : Chained h s pt) :
    Go.Post (h.updateSSLOffload env) s fun r s' =>
      (∃ b, r = .ok b) ∧ s'.faults = [] ∧ s'.cfg = { s.cfg with https := s'.cfg.https } ∧
        Chained h s' pt := by
  have hex := frontendExists_of_chained hc
  have tls : ∀ s₁ : St, s₁.faults = [] → Chained h s₁ pt →
      s₁.cfg = { s.cfg with https := s₁.cfg.https } → ∀ reload : Bool,
      Go.Post (HTTPS.handleClientTLSAuth env) s₁ fun a s' =>
        Go.Post (match a.2 with
          | some e => pure (Except.error (a.1, e))
          | none => pure (Except.ok (reload || a.1)) : Go (Except (Bool × Err) Bool)) s' fun r s' =>
        (∃ b, r = .ok b) ∧ s'.faults = [] ∧ s'.cfg = { s.cfg with https := s'.cfg.https } ∧
          Chained h s' pt := by
    intro s₁ hs₁ hc₁ hp₁ reload
    refine (handleClientTLSAuth_chained hs₁ hc₁).mono ?_
    rintro ⟨r, err⟩ s' ⟨rfl, hs', hcfg, hc'⟩
    exact Go.post_pure.2 ⟨⟨_, rfl⟩, hs', hcfg ▸ hp₁, hc'⟩
  simp only [HTTPS.updateSSLOffload, Go.post_bind, Go.post_getCfg]
  by_cases hcert : env.certs.frontendCertsEnabled
  · cases hhttps : s.cfg.https
    · simp only [hcert, if_true, hhttps, Bool.not_false, Go.post_bind, Api.frontendEnableSSLOffload,
        Api.post_mutate_nil hs, Proxy.frontendEnableSSLOffload, hex, if_true, Go.post_loggerPanic,
        forall_const, Go.post_modifyCfg, Go.post_pure]
      refine tls _ ?_ ?_ ?_ true
      · exact hs
      · exact (hc.mapBinds (Bind.enableSSL h.certDir h.alpn) (fun _ => rfl)
          fun _ => ⟨rfl, rfl⟩).congr rfl rfl rfl rfl
      · rfl
    · simpa [hcert, hhttps] using tls s hs hc rfl false
  · cases hhttps : s.cfg.https
    · have hcfg : s.cfg = { s.cfg with https := false } := by rw [← hhttps]
      simpa [hcert, hhttps] using ⟨hs, hcfg, hc⟩
    · simp only [hcert, Bool.false_eq_true, if_false, hhttps, if_true, Go.post_bind,
        Api.frontendDisableSSLOffload,
        Api.post_mutate_nil hs, Proxy.frontendDisableSSLOffload, hex, Go.post_loggerPanic,
        forall_const, Go.post_modifyCfg, Go.post_pure]
      exact ⟨⟨true, rfl⟩, hs, trivial,
        (hc.mapBinds Bind.disableSSL (fun _ => rfl) fun _ => ⟨rfl, rfl⟩).congr rfl rfl rfl rfl⟩

variable (h) in
def toggledBinds (https pt : Bool) : List Bind :=
  if https then (h.bindList pt).map (Bind.enableSSL h.certDir h.alpn) else h.bindList pt

def caOffloadBind : Bind :=
  { (default : Bind) with
    name := "v4", address := "0.0.0.0", port := some 443, ssl := true,
    sslCertificate := "/etc/haproxy/certs", sslCafile := "/ca.pem", verify := "required" }

lemma toggledBinds_listener (https pt : Bool) :
    (toggledBinds h https pt).map listener = (h.bindList pt).map listener := by
  unfold toggledBinds
  split_ifs <;> simp [Function.comp_def, listener, Bind.enableSSL]

lemma toggledBinds_cleared (https pt : Bool) : VerifyCleared (toggledBinds h https pt) := by
  have := bindList_cleared h pt
  unfold toggledBinds
  split_ifs
  · simpa [VerifyCleared, Bind.enableSSL] using this
  · exact this

lemma toggleSSLPassthrough_nil {s : St} {l : List Bind} (pt : Bool) (hs : s.faults = [])
    (hl : Proxy.frontendBindsGet s.cfg.frontHTTPS s.proxy = some l)
    (hn : l.map Bind.name = (h.bindList pt).map Bind.name) :
    Go.Post (h.toggleSSLPassthrough pt) s fun r s' =>
      r = none ∧ s'.cfg = s.cfg ∧ s'.faults = [] ∧
      Proxy.frontendBindsGet s.cfg.frontHTTPS s'.proxy = some (toggledBinds h s.cfg.https pt) ∧
      (∀ n, n ≠ s.cfg.frontHTTPS →
        Proxy.frontendBindsGet n s'.proxy = Proxy.frontendBindsGet n s.proxy) ∧
      (∀ n, Proxy.frontendGet n s'.proxy = Proxy.frontendGet n s.proxy) ∧
      (∀ n, s'.proxy.backend? n = s.proxy.backend? n) := by
  have he : editBinds (h.bindList pt) l = h.bindList pt := editBinds_of_names (bindList_nodup h pt) hn
  simp only [HTTPS.toggleSSLPassthrough, Go.post_bind, Go.post_getCfg]
  refine (eachBind_edit_nil hs hl fun b hb => ?_).mono ?_
  · rw [hn]
    exact List.mem_map_of_mem _ hb
  rintro r s₁ ⟨rfl, rfl⟩
  have hex : (s.proxy.frontend? s.cfg.frontHTTPS).isSome := by
    obtain ⟨sec, hsec, -⟩ := Option.map_eq_some'.1 hl
    simp [hsec]
  cases hhttps : s.cfg.https
  · simp only [hhttps, ite_self, Bool.false_eq_true, if_false, Go.post_bind, Go.post_pure]
    refine ⟨trivial, trivial, hs, by simp [toggledBinds, hl, he], fun n hn => ?_, by simp,
      fun _ => rfl⟩
    exact Proxy.frontendBindsGet_modifyBinds_ne _ hn
  · simp only [hhttps, ite_self, if_true, Go.post_bind, Api.frontendEnableSSLOffload,
      Api.post_mutate_nil, hs, Proxy.frontendEnableSSLOffload, Proxy.frontend?_modifyBinds_self,
      Option.isSome_map', hex, Go.post_loggerPanic, forall_const, Go.post_pure]
    refine ⟨trivial, trivial, trivial, by simp [toggledBinds, hhttps, hl, he], fun n hn => ?_,
      by simp, fun _ => rfl⟩
    rw [Proxy.frontendBindsGet_modifyBinds_ne _ hn, Proxy.frontendBindsGet_modifyBinds_ne _ hn]

theorem toggleSSLPassthrough_drops_client_tls :
    (httpsV4.toggleSSLPassthrough true
        ⟨{ ControllerCfg.init with https := true }, httpsProxy [caOffloadBind], [], [], []⟩).map
        (fun r => (r.1, Proxy.frontendBindsGet "https" r.2.proxy)) =
      .ok (none, some [{ (default : Bind) with
        name := "v4", address := "127.0.0.1", port := some 443, acceptProxy := true, ssl := true,
        sslCertificate := "/etc/haproxy/certs" }]) := by
  decide

lemma enableSSLPassthrough_chained {s : St} (hs : s.faults = []) (hc : Chained h s false) :
    Go.Post h.enableSSLPassthrough s fun r s' =>
      r = none ∧ s'.cfg = s.cfg ∧ s'.faults = [] ∧ Chained h s' true := by
  obtain ⟨⟨l, hl, hlis, hcl⟩, hf, hk⟩ := hc
  simp only [Bool.false_eq_true, if_false, Proxy.frontendGet, Option.map_eq_none'] at hf hk
  simp only [HTTPS.enableSSLPassthrough, Go.post_bind, Go.post_getCfg, Api.frontendCreate,
    Api.post_mutate_nil hs, Proxy.frontendCreate, if_pos (And.intro s.cfg.ssl_ne_empty hf)]
  refine (@eachBind_create_nil _ _ _ [] _ ?_ ?_ (bindList_name_ne h false) (by simp)
    (bindList_nodup h false)).mono ?_
  · exact hs
  · simp [Proxy.frontendBindsGet, Proxy.frontend?_append_fresh, hf]
  rintro r s₂ ⟨rfl, rfl⟩
  simp only [ite_self, Go.post_bind, Api.backendCreate, Api.post_mutate_nil, hs, Proxy.backendCreate,
    Proxy.backend?_modifyBinds, Proxy.backend?_with_frontends, hk, ne_eq, s.cfg.backSSL_ne_empty,
    not_false_eq_true, and_self, if_true, Api.backendServerCreate, Proxy.backendServerCreate,
    Proxy.backend?_append_fresh, s.cfg.https_ne_empty, lookup_nil, Api.backendSwitchingRuleCreate,
    Proxy.backendSwitchingRuleCreate, Proxy.frontend?_modifyBackend, Proxy.frontend?_with_backends,
    Proxy.frontend?_modifyBinds_self, Proxy.frontend?_append_fresh, hf, Option.isSome_map',
    Option.isSome_some]
  refine (@toggleSSLPassthrough_nil _ _ l true rfl ?_ ?_).mono ?_
  · simp [Proxy.frontendBindsGet, Proxy.frontend?_modifyFrontend_ne, s.cfg.https_ne_ssl,
      Proxy.frontend?_modifyBinds_ne, Proxy.frontend?_append_fresh, hf] at hl ⊢
    exact hl
  · rw [names_of_listener hlis, bindList_names]
  rintro r s₆ ⟨rfl, hcfg, hs₆, hb₆, -, hf₆, hk₆⟩
  simp only at hcfg hb₆
  refine Go.post_pure.2 ⟨rfl, hcfg, hs₆, ⟨_, hcfg ▸ hb₆, toggledBinds_listener _ _,
    toggledBinds_cleared _ _⟩, ?_, ?_⟩
  · rw [hcfg, hf₆]
    simp [Proxy.frontendGet, Proxy.frontend?_modifyFrontend_ne, Proxy.frontend?_modifyFrontend_self,
      Proxy.frontend?_append_fresh, hf]
  · rw [hcfg, hk₆]
    simp [Proxy.backend?_modifyBackend_self, Proxy.backend?_append_fresh, hk, chainServer]

lemma disableSSLPassthrough_chained {s : St} (hs : s.faults = []) (hc : Chained h s true) :
    Go.Post h.disableSSLPassthrough s fun r s' =>
      r = none ∧ s'.faults = [] ∧
        s'.cfg = { s.cfg with haproxyRules := deleteFrontend s.cfg.frontSSL s.cfg.haproxyRules } ∧
        Chained h s' false := by
  obtain ⟨⟨l, hl, hlis, hcl⟩, hf, hk⟩ := hc
  simp only [if_true, Proxy.frontendGet, Option.map_eq_some'] at hf hk
  obtain ⟨sec, hsec, -⟩ := hf
  simp only [HTTPS.disableSSLPassthrough, Go.post_bind, Go.post_getCfg, Api.frontendDelete,
    Api.post_mutate_nil hs, Proxy.frontendDelete, hsec, Option.isSome_some, if_true,
    Go.post_modifyCfg, Api.backendDelete, Api.post_mutate_nil, Proxy.backendDelete,
    Proxy.backend?_with_frontends, hk, hs]
  refine (@toggleSSLPassthrough_nil _ _ l false rfl ?_ ?_).mono ?_
  · simpa [Proxy.frontendBindsGet, Proxy.frontend?_remove, s.cfg.https_ne_ssl] using hl
  · rw [names_of_listener hlis, bindList_names]
  rintro r s₃ ⟨rfl, hcfg, hs₃, hb₃, -, hf₃, hk₃⟩
  simp only at hcfg hb₃
  refine ⟨rfl, hs₃, hcfg, ⟨toggledBinds h s.cfg.https false, ?_,
    toggledBinds_listener _ _, toggledBinds_cleared _ _⟩, ?_, ?_⟩
  · rw [hcfg]
    exact hb₃
  · rw [hcfg, hf₃]
    simp [Proxy.frontendGet, Proxy.frontend?_remove]
  · rw [hcfg, hk₃]
    simp [Proxy.backend?_remove]

def passthroughRules (env : Env) (pt : Bool) (c : ControllerCfg) : List RuleEntry :=
  if c.sslPassthrough then
    (HTTPS.sniRules env).foldl (fun reg r => addRule r false c.frontSSL reg) c.haproxyRules
  else if pt then deleteFrontend c.frontSSL c.haproxyRules
  else c.haproxyRules

lemma updateSSLPassthrough_chained {env : Env} {s : St} {pt : Bool} (hs : s.faults = []) (hc : Chained h s pt) :
    Go.Post (h.updateSSLPassthrough env) s fun _ s' =>
      s'.faults = [] ∧ s'.cfg = { s.cfg with haproxyRules := passthroughRules env pt s.cfg } ∧
        Chained h s' s.cfg.sslPassthrough := by
  have hf := hc.ssl_frontend
  simp only [HTTPS.updateSSLPassthrough, Go.post_bind, Go.post_getCfg, Api.frontendGet,
    Api.post_read_nil hs, hf]
  by_cases hflag : s.cfg.sslPassthrough = true
  · simp only [if_pos hflag, Go.post_bind]
    cases pt
    · simp only [Bool.false_eq_true, if_false]
      refine (enableSSLPassthrough_chained hs hc).mono ?_
      rintro r s₁ ⟨-, hcfg, hs₁, hc₁⟩
      simp only [Go.post_modifyCfg, Go.post_bind, HTTPS.sslPassthroughRules, Go.post_pure]
      refine ⟨hs₁, by simp only [hcfg, passthroughRules, hflag, if_true], ?_⟩
      rw [hflag]
      exact hc₁.congr rfl (by simp [hcfg]) (by simp [hcfg]) (by simp [hcfg])
    · simp only [if_true, Go.post_pure, HTTPS.sslPassthroughRules, Go.post_modifyCfg]
      refine ⟨hs, by simp only [passthroughRules, if_pos hflag], ?_⟩
      rw [hflag]
      exact hc.congr rfl rfl rfl rfl
  · have hflag' : s.cfg.sslPassthrough = false := by simpa using hflag
    simp only [if_neg hflag]
    cases pt
    · simp only [Bool.false_eq_true, if_false, Go.post_pure]
      refine ⟨hs, by simp only [passthroughRules, if_neg hflag, Bool.false_eq_true, if_false], ?_⟩
      rw [hflag']
      exact hc
    · simp only [if_true, Go.post_bind]
      refine (disableSSLPassthrough_chained hs hc).mono ?_
      rintro r s₁ ⟨-, hs₁, hcfg, hc₁⟩
      simp only [Go.post_modifyCfg, Go.post_pure]
      refine ⟨hs₁, by simp only [hcfg, passthroughRules, hflag', Bool.false_eq_true, if_false,
        if_true], ?_⟩
      rw [hflag']
      exact hc₁.congr rfl rfl rfl rfl

lemma Chained.alpn {s : St} {pt : Bool} (a : String) (hc : Chained h s pt) :
    Chained { h with alpn := a } s pt :=
  ⟨hc.1, hc.2, hc.3⟩

lemma update_chained {env : Env} {s : St} {pt : Bool} (hen : h.enabled = true)
    (hs : s.faults = []) (hc : Chained h s pt) :
    Go.Post (h.update env) s fun _ s' =>
      s'.faults = [] ∧
        s'.cfg = { s.cfg with https := s'.cfg.https, haproxyRules := passthroughRules env pt s.cfg } ∧
        Chained h s' s.cfg.sslPassthrough := by
  have hen' : (!h.enabled) = false := by simp [hen]
  simp only [HTTPS.update, hen', Bool.false_eq_true, if_false, Go.post_bind, Go.post_pure]
  refine (updateSSLOffload_chained hs (hc.alpn _)).mono ?_
  rintro r s₁ ⟨⟨b, rfl⟩, hs₁, hcfg₁, hc₁⟩
  have hp₁ : s₁.cfg.sslPassthrough = s.cfg.sslPassthrough := by rw [hcfg₁]
  refine Go.post_bind.2 ((updateSSLPassthrough_chained hs₁ hc₁).mono ?_)
  rintro _ s₂ ⟨hs₂, hcfg₂, hc₂⟩
  rw [hp₁] at hc₂
  exact Go.post_pure.2 ⟨hs₂, by rw [hcfg₂, hcfg₁]; rfl, ⟨hc₂.1, hc₂.2, hc₂.3⟩⟩

/-- Modelled from the spec: the controller's pass loop is not in the repository's files. Before
each Update pass the ingresses have resolved cfg.SSLPassthrough, and each configuration-API call
of the pass may fail. -/
structure Pass where
  env : Env
  sslPassthrough : Bool
  faults : List Bool

def Pass.start (p : Pass) (s : St) : St :=
  { s with cfg := { s.cfg with sslPassthrough := p.sslPassthrough }, faults := p.faults }

variable (h) in
def runPasses : List Pass → St → Except Panic St
  | [], s => .ok s
  | p :: ps, s =>
    match h.update p.env (p.start s) with
    | .ok (_, s') => runPasses ps s'
    | .error e => .error e

lemma pass_chained (hen : h.enabled = true) {p : Pass} {s s' : St} {r : Bool × Option Err}
    (hp : p.faults = []) (hc : Chained h s s.cfg.sslPassthrough)
    (hu : h.update p.env (p.start s) = .ok (r, s')) :
    s'.cfg.sslPassthrough = p.sslPassthrough ∧ Chained h s' p.sslPassthrough := by
  obtain ⟨-, hcfg, hc'⟩ :=
    @update_chained h p.env (p.start s) _ hen hp (hc.congr rfl rfl rfl rfl) r s' hu
  exact ⟨by rw [hcfg]; rfl, hc'⟩

theorem runPasses_chained (hen : h.enabled = true) {ps : List Pass} {p : Pass} {s₀ s : St}
    (h₀ : Chained h s₀ s₀.cfg.sslPassthrough) (hfree : ∀ q ∈ ps ++ [p], q.faults = [])
    (hrun : runPasses h (ps ++ [p]) s₀ = .ok s) :
    s.cfg.sslPassthrough = p.sslPassthrough ∧ Chained h s p.sslPassthrough := by
  induction ps generalizing s₀ with
  | nil =>
    simp only [List.nil_append, runPasses] at hrun
    split at hrun
    · cases hrun
      exact pass_chained hen (hfree p (List.mem_singleton_self p)) h₀ ‹_›
    · cases hrun
  | cons q ps ih =>
    simp only [List.cons_append, runPasses] at hrun
    split at hrun
    · rename_i r s' hu
      obtain ⟨hq, hc⟩ := pass_chained hen (hfree q (List.mem_cons_self _ _)) h₀ hu
      exact ih (by rwa [hq]) (fun q' hq' => hfree q' (List.mem_cons_of_mem _ hq')) hrun
    · cases hrun

def externalBind : Bind := { (default : Bind) with name := "v4", address := "0.0.0.0", port := some 443 }

def plainEnv : Env where
  store := ⟨[], []⟩
  defaults := []
  certs := ⟨false, false, fun _ => .error .notFound⟩
  newCtx _ _ _ := .error .service
  addHostPathRoute _ := none
  addCustomRoute _ _ := (false, none)
  frontendAnnotations _ := []
  getID _ := ""
  parseTime _ := none
  sniMapPath := ""

def startSt : St := ⟨.init, httpsProxy [externalBind], [], [], []⟩

def enableRun : St :=
  ((runPasses httpsV4 [⟨plainEnv, true, []⟩] startSt).toOption).getD startSt

theorem runPasses_chained_enable :
    enableRun.cfg.sslPassthrough = true ∧ Chained httpsV4 enableRun true :=
  @runPasses_chained httpsV4 rfl [] ⟨plainEnv, true, []⟩ startSt
    enableRun ⟨⟨[externalBind], rfl, rfl, by unfold VerifyCleared; decide⟩, rfl, rfl⟩
    (by decide) (by decide)

theorem runPasses_half_enabled_passthrough :
    (runPasses httpsV4 [⟨plainEnv, true, [false, false, true]⟩, ⟨plainEnv, true, []⟩] startSt).map
        (fun s => (s.cfg.sslPassthrough, Proxy.frontendGet "ssl" s.proxy, s.proxy.backend? "ssl",
          Proxy.frontendBindsGet "https" s.proxy)) =
      .ok (true, some ⟨"ssl", "tcp", "ssl"⟩, none, some [externalBind]) := by
  decide

end HAProxyIngress.Proofs.Passthrough
