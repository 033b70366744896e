import FieldImage.Fault

/-! A value with one owner and many handles. A handle owns nothing: it may hold the value's lock for
a moment, as long as the owner lives. A held guard keeps the value alive on its own. -/

namespace FieldImage

/-- A value, its owner, its lock and the number of its handles. -/
structure Shared (α : Type) where
  value : α
  owned : Bool
  guarded : Bool
  handles : Nat
deriving Repr

namespace Shared

variable {α : Type}

def new (value : α) : Shared α := ⟨value, true, false, 0⟩

/-- A handle is good as long as the owner lives or a guard is held. -/
def isValid (s : Shared α) : Bool := s.owned || s.guarded

/-- Mints a handle, which only the owner can. -/
def mint? (s : Shared α) : Option (Shared α) :=
  if s.owned then some { s with handles := s.handles + 1 } else none

def cloneHandle (s : Shared α) : Shared α := { s with handles := s.handles + 1 }

def dropHandle (s : Shared α) : Shared α := { s with handles := s.handles - 1 }

/-- The number of handles, as the owner counts them. -/
def count? (s : Shared α) : Option Nat := if s.owned then some s.handles else none

def drop (s : Shared α) : Shared α := { s with owned := false }

def set (s : Shared α) (value : α) : Shared α := { s with value }

def checkValid (s : Shared α) : Except Fault Unit :=
  if s.isValid then pure () else throw (.notInitialized .containerDropped)

/-- Takes the lock when nobody holds it, which gives a guard. Nobody else runs meanwhile, so a lock
that is held now stays held. -/
def tryLock (s : Shared α) : Except Fault (Option (Shared α)) := do
  s.checkValid
  if s.guarded then pure none else pure (some { s with guarded := true })

def lockWithin (s : Shared α) (limit : Duration) : Except Fault (Shared α) := do
  match ← s.tryLock with
  | some s => pure s
  | none => throw (.transport (.lockTimeout limit))

/-- Takes the lock. Whoever calls this knows that no guard is held. -/
def lock (s : Shared α) : Except Fault (Shared α) := do
  s.checkValid
  pure { s with guarded := true }

def guardSet? (s : Shared α) (value : α) : Option (Shared α) :=
  if s.guarded then some { s with value } else none

def release (s : Shared α) : Shared α := { s with guarded := false }

/-- The value as a handle sees it, its lock taken and given back. -/
def read (s : Shared α) : Except Fault α := do
  let s ← s.lock
  pure s.value

end Shared

end FieldImage
