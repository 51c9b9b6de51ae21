import HAProxyIngress.Model.Store

/-! Modelled from the spec: the Global, log-target and Defaults sections of the proxy. -/

namespace HAProxyIngress.Model

inductive SectionCall
  | globalPush
  | logTargetsDelete
  | logTargetsCreate
  | defaultsPush
  deriving DecidableEq, Repr

structure Sections (G T D : Type) where
  global : G
  logTargets : List T
  defaults : D
  faults : List Bool
  log : List (SectionCall × Bool)
  deriving DecidableEq

abbrev Sync (G T D : Type) := StateM (Sections G T D)

namespace Sync

variable {G T D α β : Type}

@[simp] lemma bind_apply (x : Sync G T D α) (f : α → Sync G T D β) (s : Sections G T D) :
    (x >>= f) s = f (x s).1 (x s).2 := rfl

@[simp] lemma pure_apply (a : α) (s : Sections G T D) : (pure a : Sync G T D α) s = (a, s) := rfl

@[simp] lemma map_apply (f : α → β) (x : Sync G T D α) (s : Sections G T D) :
    (f <$> x) s = (f (x s).1, (x s).2) := rfl

end Sync

structure SectionHandler (α : Type) where
  name : String
  process : String → α → α × Option Err

/-- Modelled from the spec: what the synchronizer consults besides the configuration API. The
custom-resource overrides of the store, the annotation handlers of the two sections
(annotations.GetGlobalAnnotations and GetDefaultsAnnotations), configuration.SetGlobal and
SetDefaults, and the answers of the two config-snippet updates. -/
structure SyncEnv (G T D : Type) where
  crGlobal : Option G
  crDefaults : Option D
  globalAnnotations : List (SectionHandler (G × Option (List T)))
  defaultsAnnotations : List (SectionHandler D)
  setGlobal : G → G
  setDefaults : D → D
  globalSnippet : Bool × Option Err
  frontendSnippet : Bool × Option Err

namespace SectionApi

variable {G T D : Type}

def read {α : Type} (f : Sections G T D → α) : Sync G T D (Except Err α) := fun s =>
  if s.faults.head? = some true then (.error .api, { s with faults := s.faults.tail })
  else (.ok (f s), { s with faults := s.faults.tail })

def write (c : SectionCall) (f : Sections G T D → Sections G T D) : Sync G T D (Option Err) :=
  fun s =>
    if s.faults.head? = some true then
      (some .api, { s with faults := s.faults.tail, log := s.log ++ [(c, false)] })
    else (none, { f s with faults := s.faults.tail, log := s.log ++ [(c, true)] })

def globalGetConfiguration : Sync G T D (Except Err G) := read (·.global)

-- the client answers a non-nil slice, empty when the proxy has no log target
def globalGetLogTargets : Sync G T D (Except Err (Option (List T))) := read (some ·.logTargets)

def defaultsGetConfiguration : Sync G T D (Except Err D) := read (·.defaults)

def globalPushConfiguration (g : G) : Sync G T D (Option Err) :=
  write .globalPush fun s => { s with global := g }

def globalDeleteLogTargets : Sync G T D (Option Err) :=
  write .logTargetsDelete fun s => { s with logTargets := [] }

def globalCreateLogTargets (l : Option (List T)) : Sync G T D (Option Err) :=
  write .logTargetsCreate fun s => { s with logTargets := s.logTargets ++ l.getD [] }

def defaultsPushConfiguration (d : D) : Sync G T D (Option Err) :=
  write .defaultsPush fun s => { s with defaults := d }

end SectionApi

end HAProxyIngress.Model
