import Mathlib.Data.List.Basic

/-! Modelled from the spec: the live proxy configuration the configuration API shows. -/

namespace HAProxyIngress.Model

section Table

variable {α : Type} (key : α → String)

def lookup (l : List α) (k : String) : Option α :=
  l.find? fun a => key a = k

def replace (l : List α) (k : String) (g : α → α) : List α :=
  l.map fun a => if key a = k then g a else a

def remove (l : List α) (k : String) : List α :=
  l.filter fun a => key a ≠ k

variable {key}

@[simp] lemma lookup_nil (k : String) : lookup key [] k = none := rfl

lemma lookup_cons (a : α) (l : List α) (k : String) :
    lookup key (a :: l) k = if key a = k then some a else lookup key l k := by
  by_cases h : key a = k <;> simp [lookup, List.find?_cons, h]

lemma lookup_key {l : List α} {k : String} {a : α} (h : lookup key l k = some a) : key a = k := by
  simpa using List.find?_some h

lemma lookup_eq_none {l : List α} {k : String} : lookup key l k = none ↔ ∀ a ∈ l, key a ≠ k := by
  simp [lookup, List.find?_eq_none]

lemma lookup_replace_self {g : α → α} {k : String} (hg : ∀ a, key a = k → key (g a) = k)
    (l : List α) :
    lookup key (replace key l k g) k = (lookup key l k).map g := by
  induction l with
  | nil => rfl
  | cons a l ih =>
    by_cases h : key a = k
    · simp [replace, lookup_cons, h, hg a h]
    · simp [replace, lookup_cons, h] at ih ⊢
      rw [ih]

lemma lookup_replace_ne {g : α → α} {k k' : String} (hg : ∀ a, key a = k → key (g a) = k)
    (l : List α) (hk : k' ≠ k) : lookup key (replace key l k g) k' = lookup key l k' := by
  induction l with
  | nil => rfl
  | cons a l ih =>
    by_cases h : key a = k
    · simp [replace, lookup_cons, h, hg a h, Ne.symm hk] at ih ⊢
      exact ih
    · simp [replace, lookup_cons, h] at ih ⊢
      rw [ih]

lemma lookup_remove_self (l : List α) (k : String) : lookup key (remove key l k) k = none :=
  lookup_eq_none.2 fun _ ha => by simpa using (List.mem_filter.1 ha).2

lemma lookup_remove_ne (l : List α) {k k' : String} (hk : k' ≠ k) :
    lookup key (remove key l k) k' = lookup key l k' := by
  induction l with
  | nil => rfl
  | cons a l ih =>
    by_cases h : key a = k
    · simp [remove, lookup_cons, h, Ne.symm hk] at ih ⊢
      exact ih
    · simp [remove, lookup_cons, h] at ih ⊢
      rw [ih]

lemma lookup_append (l l' : List α) (k : String) :
    lookup key (l ++ l') k = (lookup key l k).or (lookup key l' k) :=
  List.find?_append

lemma map_replace {g : α → α} {β : Type} {k : String} (f : α → β) (hf : ∀ a, key a = k → f (g a) = f a)
    (l : List α) : (replace key l k g).map f = l.map f := by
  induction l with
  | nil => rfl
  | cons a l ih => by_cases h : key a = k <;> simp_all [replace]

lemma replace_replace {f g : α → α} {k : String} (hf : ∀ a, key a = k → key (f a) = k)
    (l : List α) : replace key (replace key l k f) k g = replace key l k (g ∘ f) := by
  induction l with
  | nil => rfl
  | cons a l ih =>
    by_cases h : key a = k
    · simp [replace, h, hf a h] at ih ⊢
      exact ih
    · simp [replace, h] at ih ⊢
      exact ih

lemma replace_of_forall_eq {g : α → α} (hg : ∀ a, g a = a) (l : List α) (k : String) :
    replace key l k g = l := by
  simp [replace, hg]

end Table

structure Bind where
  name : String
  address : String
  port : Option Int
  acceptProxy : Bool
  v4v6 : Bool
  ssl : Bool
  sslCertificate : String
  alpn : String
  sslCafile : String
  verify : String
  deriving DecidableEq, Repr, Inhabited

structure Frontend where
  name : String
  mode : String
  defaultBackend : String
  deriving DecidableEq, Repr, Inhabited

structure BackendSwitchingRule where
  index : Option Int
  name : String
  deriving DecidableEq, Repr

structure Backend where
  name : String
  mode : String
  deriving DecidableEq, Repr

structure Server where
  name : String
  address : String
  port : Option Int
  sendProxyV2 : String
  deriving DecidableEq, Repr

structure FrontendSection where
  frontend : Frontend
  binds : List Bind
  switchingRules : List BackendSwitchingRule
  deriving DecidableEq, Repr

structure BackendSection where
  backend : Backend
  servers : List Server
  deriving DecidableEq, Repr

structure Proxy where
  frontends : List FrontendSection
  backends : List BackendSection
  deriving DecidableEq, Repr

namespace Bind

def enableSSL (certDir alpn : String) (b : Bind) : Bind :=
  { b with ssl := true, sslCertificate := certDir, alpn := alpn }

def disableSSL (b : Bind) : Bind :=
  { b with ssl := false, sslCertificate := "", alpn := "" }

end Bind

namespace Proxy

def frontend? (p : Proxy) (name : String) : Option FrontendSection :=
  lookup (·.frontend.name) p.frontends name

def backend? (p : Proxy) (name : String) : Option BackendSection :=
  lookup (·.backend.name) p.backends name

def modifyFrontend (p : Proxy) (name : String) (g : FrontendSection → FrontendSection) : Proxy :=
  { p with frontends := replace (·.frontend.name) p.frontends name g }

def modifyBinds (p : Proxy) (name : String) (g : List Bind → List Bind) : Proxy :=
  p.modifyFrontend name fun s => { s with binds := g s.binds }

def modifyBackend (p : Proxy) (name : String) (g : BackendSection → BackendSection) : Proxy :=
  { p with backends := replace (·.backend.name) p.backends name g }

variable {p : Proxy} {ft ft' : String}

lemma frontend?_modifyFrontend_self {g : FrontendSection → FrontendSection}
    (hg : ∀ sec, sec.frontend.name = ft → (g sec).frontend.name = ft) :
    (p.modifyFrontend ft g).frontend? ft = (p.frontend? ft).map g :=
  lookup_replace_self hg _

lemma frontend?_modifyFrontend_ne {g : FrontendSection → FrontendSection}
    (hg : ∀ sec, sec.frontend.name = ft → (g sec).frontend.name = ft) (h : ft' ≠ ft) :
    (p.modifyFrontend ft g).frontend? ft' = p.frontend? ft' :=
  lookup_replace_ne hg _ h

@[simp] lemma backend?_modifyFrontend (g : FrontendSection → FrontendSection) (n : String) :
    (p.modifyFrontend ft g).backend? n = p.backend? n := rfl

@[simp] lemma backend?_with_frontends (l : List FrontendSection) (n : String) :
    ({ frontends := l, backends := p.backends } : Proxy).backend? n = p.backend? n := rfl

@[simp] lemma frontend?_with_backends (l : List BackendSection) (n : String) :
    ({ frontends := p.frontends, backends := l } : Proxy).frontend? n = p.frontend? n := rfl

@[simp] lemma backend?_modifyBinds (g : List Bind → List Bind) (n : String) :
    (p.modifyBinds ft g).backend? n = p.backend? n := rfl

@[simp] lemma frontend?_modifyBackend (g : BackendSection → BackendSection) (n : String) :
    (p.modifyBackend ft g).frontend? n = p.frontend? n := rfl

@[simp] lemma frontend?_modifyBinds_self (g : List Bind → List Bind) :
    (p.modifyBinds ft g).frontend? ft = (p.frontend? ft).map fun s => { s with binds := g s.binds } :=
  frontend?_modifyFrontend_self fun _ h => h

lemma frontend?_modifyBinds_ne (g : List Bind → List Bind) (h : ft' ≠ ft) :
    (p.modifyBinds ft g).frontend? ft' = p.frontend? ft' :=
  frontend?_modifyFrontend_ne (fun _ h => h) h

lemma modifyBinds_modifyBinds (f g : List Bind → List Bind) :
    (p.modifyBinds ft f).modifyBinds ft g = p.modifyBinds ft (g ∘ f) := by
  simp only [modifyBinds, modifyFrontend, Proxy.mk.injEq, and_true]
  exact @replace_replace _ (·.frontend.name) (fun s => { s with binds := f s.binds })
    (fun s => { s with binds := g s.binds }) ft (fun _ h => h) p.frontends

@[simp] lemma modifyBinds_id : p.modifyBinds ft id = p :=
  congrArg (fun l => { p with frontends := l }) (replace_of_forall_eq (fun _ => rfl) _ _)

@[simp] lemma modifyBinds_self : p.modifyBinds ft (fun l => l) = p := modifyBinds_id

/-! Modelled from the spec: the configuration-API client is not in the repository's files.
Each call is atomic for its object. A create needs a non-empty name that is not taken yet, an
edit or a delete needs the object to exist; otherwise the call fails and changes nothing. -/

def frontendGet (name : String) (p : Proxy) : Option Frontend :=
  (p.frontend? name).map (·.frontend)

def frontendBindsGet (name : String) (p : Proxy) : Option (List Bind) :=
  (p.frontend? name).map (·.binds)

def frontendCreate (f : Frontend) (p : Proxy) : Option Proxy :=
  if f.name ≠ "" ∧ p.frontend? f.name = none then
    some { p with frontends := p.frontends ++ [⟨f, [], []⟩] }
  else none

def frontendEdit (f : Frontend) (p : Proxy) : Option Proxy :=
  if f.name ≠ "" ∧ (p.frontend? f.name).isSome then
    some (p.modifyFrontend f.name fun s => { s with frontend := f })
  else none

def frontendDelete (name : String) (p : Proxy) : Option Proxy :=
  if (p.frontend? name).isSome then
    some { p with frontends := remove (·.frontend.name) p.frontends name }
  else none

def frontendBindCreate (ft : String) (b : Bind) (p : Proxy) : Option Proxy :=
  match p.frontend? ft with
  | some s =>
    if b.name ≠ "" ∧ lookup Bind.name s.binds b.name = none then
      some (p.modifyBinds ft (· ++ [b]))
    else none
  | none => none

def frontendBindEdit (ft : String) (b : Bind) (p : Proxy) : Option Proxy :=
  match p.frontend? ft with
  | some s =>
    if (lookup Bind.name s.binds b.name).isSome then
      some (p.modifyBinds ft fun bs => replace Bind.name bs b.name fun _ => b)
    else none
  | none => none

def frontendEnableSSLOffload (ft certDir alpn : String) (p : Proxy) : Option Proxy :=
  if (p.frontend? ft).isSome then some (p.modifyBinds ft (·.map (Bind.enableSSL certDir alpn)))
  else none

def frontendDisableSSLOffload (ft : String) (p : Proxy) : Option Proxy :=
  if (p.frontend? ft).isSome then some (p.modifyBinds ft (·.map Bind.disableSSL)) else none

def backendCreate (b : Backend) (p : Proxy) : Option Proxy :=
  if b.name ≠ "" ∧ p.backend? b.name = none then
    some { p with backends := p.backends ++ [⟨b, []⟩] }
  else none

def backendDelete (name : String) (p : Proxy) : Option Proxy :=
  if (p.backend? name).isSome then
    some { p with backends := remove (·.backend.name) p.backends name }
  else none

def backendServerCreate (backend : String) (srv : Server) (p : Proxy) : Option Proxy :=
  match p.backend? backend with
  | some s =>
    if srv.name ≠ "" ∧ lookup Server.name s.servers srv.name = none then
      some (p.modifyBackend backend fun s => { s with servers := s.servers ++ [srv] })
    else none
  | none => none

def backendSwitchingRuleCreate (ft : String) (r : BackendSwitchingRule) (p : Proxy) :
    Option Proxy :=
  if (p.frontend? ft).isSome then
    some (p.modifyFrontend ft fun s =>
      { s with switchingRules := s.switchingRules.insertIdx (r.index.getD 0).toNat r })
  else none

@[simp] lemma frontendBindsGet_modifyBinds_self (g : List Bind → List Bind) :
    frontendBindsGet ft (p.modifyBinds ft g) = (frontendBindsGet ft p).map g := by
  simp [frontendBindsGet, Option.map_map, Function.comp_def]

lemma frontendBindEdit_eq_some {b : Bind} {p' : Proxy} (h : frontendBindEdit ft b p = some p') :
    p' = p.modifyBinds ft fun l => replace Bind.name l b.name fun _ => b := by
  unfold frontendBindEdit at h
  split at h
  · split_ifs at h
    exact (Option.some.inj h).symm
  · cases h

lemma frontendBindEdit_of_mem {b : Bind} {l : List Bind} (hl : frontendBindsGet ft p = some l)
    (hx : b.name ∈ l.map Bind.name) :
    frontendBindEdit ft b p = some (p.modifyBinds ft fun l => replace Bind.name l b.name fun _ => b) := by
  obtain ⟨sec, hsec, rfl⟩ := Option.map_eq_some'.1 hl
  obtain ⟨x, hx, hxb⟩ := List.mem_map.1 hx
  have : (lookup Bind.name sec.binds b.name).isSome := by
    cases h : lookup Bind.name sec.binds b.name
    · exact absurd hxb (lookup_eq_none.1 h x hx)
    · rfl
  simp [frontendBindEdit, hsec, this]

lemma frontendBindCreate_of_fresh {b : Bind} {l : List Bind} (hl : frontendBindsGet ft p = some l)
    (hne : b.name ≠ "") (hx : b.name ∉ l.map Bind.name) :
    frontendBindCreate ft b p = some (p.modifyBinds ft (· ++ [b])) := by
  obtain ⟨sec, hsec, rfl⟩ := Option.map_eq_some'.1 hl
  have : lookup Bind.name sec.binds b.name = none :=
    lookup_eq_none.2 fun x hx' hxb => hx (List.mem_map.2 ⟨x, hx', hxb⟩)
  simp [frontendBindCreate, hsec, hne, this]

lemma frontendEdit_eq_some {f : Frontend} {p' : Proxy} (h : frontendEdit f p = some p') :
    p' = p.modifyFrontend f.name fun s => { s with frontend := f } := by
  unfold frontendEdit at h
  split_ifs at h
  exact (Option.some.inj h).symm

lemma frontendEdit_empty {f : Frontend} (h : f.name = "") : frontendEdit f p = none := by
  simp [frontendEdit, h]

lemma frontendGet_edit_self (f : Frontend) :
    frontendGet f.name (p.modifyFrontend f.name fun s => { s with frontend := f }) =
      (frontendGet f.name p).map fun _ => f := by
  rw [frontendGet, frontendGet,
    @frontend?_modifyFrontend_self p f.name (fun s => { s with frontend := f }) fun _ _ => rfl]
  simp [Option.map_map, Function.comp_def]

lemma frontendGet_edit_ne (f : Frontend) (h : ft' ≠ f.name) :
    frontendGet ft' (p.modifyFrontend f.name fun s => { s with frontend := f }) = frontendGet ft' p := by
  rw [frontendGet, frontendGet,
    @frontend?_modifyFrontend_ne p f.name ft' (fun s => { s with frontend := f }) (fun _ _ => rfl) h]

lemma frontend?_append_fresh (f : FrontendSection) (h : p.frontend? f.frontend.name = none) :
    frontend? { p with frontends := p.frontends ++ [f] } ft =
      if ft = f.frontend.name then some f else p.frontend? ft := by
  unfold frontend? at h ⊢
  rw [lookup_append]
  split_ifs with hft
  · subst hft
    simp [h, lookup_cons]
  · simp [lookup, Ne.symm hft]

lemma backend?_append_fresh (b : BackendSection) (h : p.backend? b.backend.name = none) (n : String) :
    backend? { p with backends := p.backends ++ [b] } n =
      if n = b.backend.name then some b else p.backend? n := by
  unfold backend? at h ⊢
  rw [lookup_append]
  split_ifs with hn
  · subst hn
    simp [h, lookup_cons]
  · simp [lookup, Ne.symm hn]

lemma frontend?_remove (bs : List BackendSection) (n : String) :
    frontend? ⟨remove (·.frontend.name) p.frontends ft, bs⟩ n =
      if n = ft then none else p.frontend? n := by
  split_ifs with h
  · subst h
    exact lookup_remove_self _ _
  · exact lookup_remove_ne _ h

lemma backend?_remove (fs : List FrontendSection) (n n' : String) :
    backend? ⟨fs, remove (·.backend.name) p.backends n⟩ n' =
      if n' = n then none else p.backend? n' := by
  split_ifs with h
  · subst h
    exact lookup_remove_self _ _
  · exact lookup_remove_ne _ h

lemma backend?_modifyBackend_self {g : BackendSection → BackendSection}
    (hg : ∀ b, (g b).backend = b.backend) (n : String) :
    (p.modifyBackend n g).backend? n = (p.backend? n).map g :=
  lookup_replace_self (fun b h => (congrArg Backend.name (hg b)).trans h) _

lemma backend?_modifyBackend_ne {g : BackendSection → BackendSection}
    (hg : ∀ b, (g b).backend = b.backend) {n n' : String} (h : n' ≠ n) :
    (p.modifyBackend n g).backend? n' = p.backend? n' :=
  lookup_replace_ne (fun b h => (congrArg Backend.name (hg b)).trans h) _ h

lemma frontendGet_modifyFrontend {g : FrontendSection → FrontendSection}
    (hg : ∀ sec, (g sec).frontend = sec.frontend) (n : String) :
    frontendGet n (p.modifyFrontend ft g) = frontendGet n p := by
  have hn : ∀ sec, sec.frontend.name = ft → (g sec).frontend.name = ft := fun sec h => by rw [hg, h]
  by_cases h : n = ft
  · subst h
    simp [frontendGet, frontend?_modifyFrontend_self hn, Option.map_map, Function.comp_def, hg]
  · rw [frontendGet, frontendGet, frontend?_modifyFrontend_ne hn h]

lemma frontendBindsGet_modifyBinds_ne (g : List Bind → List Bind) (h : ft' ≠ ft) :
    frontendBindsGet ft' (p.modifyBinds ft g) = frontendBindsGet ft' p := by
  rw [frontendBindsGet, frontendBindsGet, frontend?_modifyBinds_ne g h]

@[simp] lemma frontendGet_modifyBinds (g : List Bind → List Bind) (n : String) :
    frontendGet n (p.modifyBinds ft g) = frontendGet n p :=
  @frontendGet_modifyFrontend p ft (fun s => { s with binds := g s.binds }) (fun _ => rfl) n

lemma frontendGet_name {f : Frontend} (h : frontendGet ft p = some f) : f.name = ft := by
  obtain ⟨sec, hsec, rfl⟩ := Option.map_eq_some'.1 h
  exact @lookup_key FrontendSection (·.frontend.name) _ _ _ hsec

end Proxy

end HAProxyIngress.Model
