import FieldImage.Fault

/-! The two primitives that processes share as plain words: a lock is zero when it is free and one
when it is taken; a signal is a counter that wraps, and a waiter wakes when it differs from its
sample. -/

namespace FieldImage

structure Lock (α : Type) where
  word : UInt32
  value : α
deriving Repr

namespace Lock

variable {α : Type}

def free (value : α) : Lock α := ⟨0, value⟩

def taken : UInt32 := 1

def isLocked (l : Lock α) : Bool := l.word == taken

def tryLock? (l : Lock α) : Option (Lock α) :=
  if l.word = 0 then some { l with word := taken } else none

def lockWithin (l : Lock α) (limit : Duration) : Except Fault (Lock α) :=
  match l.tryLock? with
  | some l => pure l
  | none => throw (.transport (.lockTimeout limit))

def unlock (l : Lock α) : Lock α := { l with word := 0 }

end Lock

/-- A counter of notifications. -/
structure Signal where
  sequence : UInt32
deriving DecidableEq, Repr

namespace Signal

/-- Wakes all waiters. -/
def raise (s : Signal) : Signal := ⟨s.sequence + 1⟩

/-- Whether a waiter with this sample wakes. -/
def wakes (s : Signal) (observed : UInt32) : Bool := s.sequence != observed

end Signal

end FieldImage
