import HAProxyIngress.Model.Store

/-! A pass as a state transformer over the controller state that may panic. -/

namespace HAProxyIngress.Model

instance decEqExcept {ε α : Type} [DecidableEq ε] [DecidableEq α] : DecidableEq (Except ε α)
  | .error a, .error b => if h : a = b then isTrue (h ▸ rfl) else isFalse fun e => h (Except.error.inj e)
  | .ok a, .ok b => if h : a = b then isTrue (h ▸ rfl) else isFalse fun e => h (Except.ok.inj e)
  | .error _, .ok _ => isFalse fun e => Except.noConfusion e
  | .ok _, .error _ => isFalse fun e => Except.noConfusion e

inductive Call
  | frontendCreate
  | frontendEdit
  | frontendDelete
  | frontendBindCreate
  | frontendBindEdit
  | frontendEnableSSLOffload
  | frontendDisableSSLOffload
  | backendCreate
  | backendDelete
  | backendServerCreate
  | backendSwitchingRuleCreate
  deriving DecidableEq, Repr

inductive Effect
  | api (call : Call) (ok : Bool)
  | backend (reload : Bool)
  | endpoints (reload : Bool)
  | customRoute (reload : Bool)
  | customRouteDelete
  deriving DecidableEq, Repr

def Effect.reloads : Effect → Bool
  | .api _ ok => ok
  | .backend r | .endpoints r | .customRoute r => r
  | .customRouteDelete => true

inductive Panic
  | indexOutOfRange
  | nilDereference
  | logged (e : Err)
  deriving DecidableEq, Repr

structure St where
  cfg : ControllerCfg
  proxy : Proxy
  customRoutes : List (String × String)
  faults : List Bool
  log : List Effect
  deriving DecidableEq

abbrev Go := StateT St (Except Panic)

def St.popFault (s : St) : Bool × St :=
  match s.faults with
  | [] => (false, s)
  | f :: fs => (f, { s with faults := fs })

@[simp] lemma popFault_nil {s : St} (h : s.faults = []) : s.popFault = (false, s) := by
  simp [St.popFault, h]

def getCfg : Go ControllerCfg := fun s => .ok (s.cfg, s)

def modifyCfg (g : ControllerCfg → ControllerCfg) : Go Unit :=
  fun s => .ok ((), { s with cfg := g s.cfg })

def record (e : Effect) : Go Unit := fun s => .ok ((), { s with log := s.log ++ [e] })

def index0 {α : Type} : List α → Go α
  | [] => throw .indexOutOfRange
  | a :: _ => pure a

def loggerPanic : Option Err → Go Unit
  | none => pure ()
  | some e => throw (.logged e)

namespace Go

variable {α β : Type} {x : Go α} {f : α → Go β} {s s' s'' : St} {a : α} {b : β}

lemma bind_apply (x : Go α) (f : α → Go β) (s : St) :
    (x >>= f) s = match x s with
      | .ok (a, s') => f a s'
      | .error e => .error e := by
  simp only [bind, StateT.bind, Except.bind]
  cases x s <;> rfl

lemma bind_of_ok (hx : x s = .ok (a, s')) : (x >>= f) s = f a s' := by
  rw [bind_apply, hx]

lemma bind_ok : (x >>= f) s = .ok (b, s'') ↔ ∃ a s', x s = .ok (a, s') ∧ f a s' = .ok (b, s'') := by
  rw [bind_apply]
  constructor
  · intro h
    split at h
    · exact ⟨_, _, by assumption, h⟩
    · cases h
  · rintro ⟨a, s', hx, hf⟩
    rw [hx]
    exact hf

@[simp] lemma pure_apply (a : α) (s : St) : (pure a : Go α) s = .ok (a, s) := rfl

@[simp] lemma getCfg_apply (s : St) : getCfg s = .ok (s.cfg, s) := rfl

@[simp] lemma modifyCfg_apply (g : ControllerCfg → ControllerCfg) (s : St) :
    modifyCfg g s = .ok ((), { s with cfg := g s.cfg }) := rfl

@[simp] lemma record_apply (e : Effect) (s : St) :
    record e s = .ok ((), { s with log := s.log ++ [e] }) := rfl

@[simp] lemma index0_cons (a : α) (l : List α) (s : St) : index0 (a :: l) s = .ok (a, s) := rfl

@[simp] lemma index0_nil (s : St) : (index0 [] : Go α) s = .error .indexOutOfRange := rfl

@[simp] lemma loggerPanic_none (s : St) : loggerPanic none s = .ok ((), s) := rfl

@[simp] lemma loggerPanic_some (e : Err) (s : St) : loggerPanic (some e) s = .error (.logged e) :=
  rfl

def Post (x : Go α) (s : St) (Q : α → St → Prop) : Prop :=
  ∀ a s', x s = .ok (a, s') → Q a s'

variable {Q Q' : α → St → Prop}

lemma post_true : Post x s fun _ _ => True := fun _ _ _ => trivial

lemma post_of_eq (h : x s = .ok (a, s')) (hq : Q a s') : Post x s Q := by
  intro a' s'' h'
  rw [h] at h'
  cases h'
  exact hq

lemma Post.mono (h : Post x s Q) (hq : ∀ a s', Q a s' → Q' a s') : Post x s Q' :=
  fun a s' hx => hq a s' (h a s' hx)

lemma Post.and (h : Post x s Q) (h' : Post x s Q') : Post x s fun a s' => Q a s' ∧ Q' a s' :=
  fun a s' hx => ⟨h a s' hx, h' a s' hx⟩

@[simp] lemma post_pure : Post (pure a : Go α) s Q ↔ Q a s := by
  simp [Post]

@[simp] lemma post_bind {Q : β → St → Prop} :
    Post (x >>= f) s Q ↔ Post x s fun a s' => Post (f a) s' Q := by
  simp only [Post, bind_ok]
  exact ⟨fun h a s' hx b s'' hf => h b s'' ⟨a, s', hx, hf⟩,
    fun h b s'' ⟨a, s', hx, hf⟩ => h a s' hx b s'' hf⟩

@[simp] lemma post_ite (c : Prop) [Decidable c] (y : Go α) :
    Post (if c then x else y) s Q ↔ (c → Post x s Q) ∧ (¬c → Post y s Q) := by
  split_ifs with hc <;> simp [hc]

@[simp] lemma post_throw (e : Panic) : Post (throw e : Go α) s Q := by
  simp [Post, throw, throwThe, MonadExceptOf.throw, StateT.lift, Except.bind]

@[simp] lemma post_getCfg {Q : ControllerCfg → St → Prop} : Post getCfg s Q ↔ Q s.cfg s := by
  simp [Post]

@[simp] lemma post_modifyCfg {g : ControllerCfg → ControllerCfg} {Q : Unit → St → Prop} :
    Post (modifyCfg g) s Q ↔ Q () { s with cfg := g s.cfg } :=
  ⟨fun h => h () _ rfl, fun h _ _ he => by cases he; exact h⟩

@[simp] lemma post_record {e : Effect} {Q : Unit → St → Prop} :
    Post (record e) s Q ↔ Q () { s with log := s.log ++ [e] } :=
  ⟨fun h => h () _ rfl, fun h _ _ he => by cases he; exact h⟩

@[simp] lemma post_index0 {l : List α} : Post (index0 l) s Q ↔ ∀ a, l.head? = some a → Q a s := by
  cases l <;> simp [Post]

@[simp] lemma post_loggerPanic {e : Option Err} {Q : Unit → St → Prop} :
    Post (loggerPanic e) s Q ↔ (e = none → Q () s) := by
  cases e
  · exact ⟨fun h _ => h () _ rfl, fun h _ _ he => by cases he; exact h rfl⟩
  · simp [Post]

def Keeps (R : St → St → Prop) (x : Go α) : Prop := ∀ s, Post x s fun _ s' => R s s'

section Keeps

variable {R : St → St → Prop}

lemma keeps_pure (hrefl : ∀ s, R s s) (a : α) : Keeps R (pure a : Go α) :=
  fun s => post_pure.2 (hrefl s)

lemma keeps_bind (htrans : ∀ {s s' s''}, R s s' → R s' s'' → R s s'') (hx : Keeps R x)
    (hf : ∀ a, Keeps R (f a)) : Keeps R (x >>= f) := fun s =>
  post_bind.2 <| (hx s).mono fun a _ h => (hf a _).mono fun _ _ h' => htrans h h'

lemma keeps_loggerPanic (hrefl : ∀ s, R s s) (e : Option Err) : Keeps R (loggerPanic e) := by
  cases e
  · exact keeps_pure hrefl ()
  · exact fun _ => post_throw _

lemma keeps_index0 (hrefl : ∀ s, R s s) (l : List α) : Keeps R (index0 l) := by
  cases l
  · exact fun _ => post_throw _
  · exact keeps_pure hrefl _

end Keeps

def Returns (x : Go α) (s : St) (Q : α → St → Prop) : Prop := ∃ a s', x s = .ok (a, s') ∧ Q a s'

lemma returns_iff_of_eq (h : x s = .ok (a, s')) : Returns x s Q ↔ Q a s' :=
  ⟨fun ⟨_, _, hx, hq⟩ => by rw [h] at hx; cases hx; exact hq, fun hq => ⟨a, s', h, hq⟩⟩

lemma Returns.mono (h : Returns x s Q) (hq : ∀ a s', Q a s' → Q' a s') : Returns x s Q' :=
  let ⟨a, s', hx, hQ⟩ := h
  ⟨a, s', hx, hq a s' hQ⟩

@[simp] lemma returns_pure : Returns (pure a : Go α) s Q ↔ Q a s :=
  returns_iff_of_eq rfl

@[simp] lemma returns_bind {Q : β → St → Prop} :
    Returns (x >>= f) s Q ↔ Returns x s fun a s' => Returns (f a) s' Q := by
  simp only [Returns, bind_ok]
  exact ⟨fun ⟨b, s'', ⟨a, s', hx, hf⟩, hq⟩ => ⟨a, s', hx, b, s'', hf, hq⟩,
    fun ⟨a, s', hx, b, s'', hf, hq⟩ => ⟨b, s'', ⟨a, s', hx, hf⟩, hq⟩⟩

@[simp] lemma returns_getCfg {Q : ControllerCfg → St → Prop} : Returns getCfg s Q ↔ Q s.cfg s :=
  returns_iff_of_eq rfl

@[simp] lemma returns_modifyCfg {g : ControllerCfg → ControllerCfg} {Q : Unit → St → Prop} :
    Returns (modifyCfg g) s Q ↔ Q () { s with cfg := g s.cfg } :=
  returns_iff_of_eq rfl

@[simp] lemma returns_record {e : Effect} {Q : Unit → St → Prop} :
    Returns (record e) s Q ↔ Q () { s with log := s.log ++ [e] } :=
  returns_iff_of_eq rfl

@[simp] lemma returns_index0_cons {l : List α} : Returns (index0 (a :: l)) s Q ↔ Q a s :=
  returns_iff_of_eq rfl

end Go

namespace Api

def read {α : Type} (f : Proxy → Option α) : Go (Except Err α) := fun s =>
  let (failed, s) := s.popFault
  match if failed then none else f s.proxy with
  | some a => .ok (.ok a, s)
  | none => .ok (.error .api, s)

def mutate (c : Call) (f : Proxy → Option Proxy) : Go (Option Err) := fun s =>
  let (failed, s) := s.popFault
  match if failed then none else f s.proxy with
  | some p => .ok (none, { s with proxy := p, log := s.log ++ [.api c true] })
  | none => .ok (some .api, { s with log := s.log ++ [.api c false] })

def frontendGet (name : String) : Go (Except Err Frontend) := read (Proxy.frontendGet name)

def frontendBindsGet (name : String) : Go (Except Err (List Bind)) :=
  read (Proxy.frontendBindsGet name)

def frontendCreate (f : Frontend) : Go (Option Err) := mutate .frontendCreate (Proxy.frontendCreate f)

def frontendEdit (f : Frontend) : Go (Option Err) := mutate .frontendEdit (Proxy.frontendEdit f)

def frontendDelete (name : String) : Go (Option Err) :=
  mutate .frontendDelete (Proxy.frontendDelete name)

def frontendBindCreate (ft : String) (b : Bind) : Go (Option Err) :=
  mutate .frontendBindCreate (Proxy.frontendBindCreate ft b)

def frontendBindEdit (ft : String) (b : Bind) : Go (Option Err) :=
  mutate .frontendBindEdit (Proxy.frontendBindEdit ft b)

def frontendEnableSSLOffload (ft certDir alpn : String) : Go (Option Err) :=
  mutate .frontendEnableSSLOffload (Proxy.frontendEnableSSLOffload ft certDir alpn)

def frontendDisableSSLOffload (ft : String) : Go (Option Err) :=
  mutate .frontendDisableSSLOffload (Proxy.frontendDisableSSLOffload ft)

def backendCreate (b : Backend) : Go (Option Err) := mutate .backendCreate (Proxy.backendCreate b)

def backendDelete (name : String) : Go (Option Err) :=
  mutate .backendDelete (Proxy.backendDelete name)

def backendServerCreate (backend : String) (srv : Server) : Go (Option Err) :=
  mutate .backendServerCreate (Proxy.backendServerCreate backend srv)

def backendSwitchingRuleCreate (ft : String) (r : BackendSwitchingRule) : Go (Option Err) :=
  mutate .backendSwitchingRuleCreate (Proxy.backendSwitchingRuleCreate ft r)

variable {α : Type} {s : St}

lemma outcome_some {o : Option α} {c : Prop} [Decidable c] {a : α}
    (h : (if c then none else o) = some a) : o = some a := by
  split_ifs at h
  exact h

lemma mutate_of_faults_nil (c : Call) (f : Proxy → Option Proxy) (h : s.faults = []) :
    mutate c f s = .ok (match f s.proxy with
      | some p => (none, { s with proxy := p, log := s.log ++ [.api c true] })
      | none => (some .api, { s with log := s.log ++ [.api c false] })) := by
  simp only [mutate, popFault_nil h, Bool.false_eq_true, if_false]
  cases f s.proxy <;> rfl

lemma post_mutate {c : Call} {f : Proxy → Option Proxy} {s : St} {Q : Option Err → St → Prop} :
    Go.Post (mutate c f) s Q ↔
      match if s.faults.head? = some true then none else f s.proxy with
      | some p => Q none { s with proxy := p, faults := s.faults.tail, log := s.log ++ [.api c true] }
      | none => Q (some .api) { s with faults := s.faults.tail, log := s.log ++ [.api c false] } := by
  rcases s with ⟨cfg, proxy, routes, _ | ⟨_ | _, fs⟩, log⟩ <;>
    cases hf : f proxy <;> simp [Go.Post, mutate, St.popFault, hf]

lemma post_read {α : Type} {f : Proxy → Option α} {s : St} {Q : Except Err α → St → Prop} :
    Go.Post (read f) s Q ↔
      match if s.faults.head? = some true then none else f s.proxy with
      | some a => Q (.ok a) { s with faults := s.faults.tail }
      | none => Q (.error .api) { s with faults := s.faults.tail } := by
  rcases s with ⟨cfg, proxy, routes, _ | ⟨_ | _, fs⟩, log⟩ <;>
    cases hf : f proxy <;> simp [Go.Post, read, St.popFault, hf]

lemma post_mutate_nil {c : Call} {f : Proxy → Option Proxy} {s : St} {Q : Option Err → St → Prop}
    (hs : s.faults = []) :
    Go.Post (mutate c f) s Q ↔
      match f s.proxy with
      | some p => Q none { s with proxy := p, log := s.log ++ [.api c true] }
      | none => Q (some .api) { s with log := s.log ++ [.api c false] } := by
  rcases s with ⟨cfg, proxy, routes, faults, log⟩
  subst hs
  exact post_mutate

lemma post_read_nil {f : Proxy → Option α} {s : St} {Q : Except Err α → St → Prop}
    (hs : s.faults = []) :
    Go.Post (read f) s Q ↔
      match f s.proxy with
      | some a => Q (.ok a) s
      | none => Q (.error .api) s := by
  rcases s with ⟨cfg, proxy, routes, faults, log⟩
  subst hs
  exact post_read

lemma returns_read_nil {f : Proxy → Option α} {s : St} {Q : Except Err α → St → Prop}
    (hs : s.faults = []) :
    Go.Returns (read f) s Q ↔
      match f s.proxy with
      | some a => Q (.ok a) s
      | none => Q (.error .api) s := by
  rcases s with ⟨cfg, proxy, routes, faults, log⟩
  subst hs
  cases hf : f proxy <;>
    exact Go.returns_iff_of_eq (by simp [read, St.popFault, hf])

end Api

end HAProxyIngress.Model
