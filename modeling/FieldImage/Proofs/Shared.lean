import FieldImage.Proofs.Fault
import FieldImage.Shared

/-! The lifetimes of a shared value. Its owner, its handles and a guard that is held come and go on
their own; what of them is left decides what every call answers. -/

namespace FieldImage

/-- The calls on a shared value: those of its owner, those of a handle, and those through a guard. -/
inductive SharedCall (α : Type) where
  | mint
  | count
  | get
  | set (value : α)
  | drop
  | cloneHandle
  | dropHandle
  | isValid
  | lock
  | tryLock
  | lockWithin (limit : Duration)
  | guardGet
  | guardSet (value : α)
  | release

/-- An answer; a new guard comes with the value as it is seen through it. -/
inductive SharedAnswer (α : Type) where
  | done
  | count (n : Nat)
  | valid (b : Bool)
  | value (v : α)
  | guard (v : α)
  | contended
  | failed (f : Fault)

/-- What the users of a shared value hold: the owner while it lives, the handles that were minted or
cloned and not dropped, the guards that were taken and not released. `written` is what was last
written through the owner or a guard. -/
structure Hands (α : Type) where
  owner : Bool
  handles : Nat
  guards : Nat
  written : α

variable {α : Type}

namespace Hands

def new (value : α) : Hands α := ⟨true, 0, 0, value⟩

/-- What each call is made with. The owner's value is used, and a lock is waited for, only while no
guard is held. -/
def May (h : Hands α) : SharedCall α → Prop
  | .mint | .count | .drop => h.owner = true
  | .get | .set _ => h.owner = true ∧ h.guards = 0
  | .cloneHandle | .dropHandle | .isValid | .tryLock | .lockWithin _ => 0 < h.handles
  | .lock => 0 < h.handles ∧ h.guards = 0
  | .guardGet | .guardSet _ | .release => 0 < h.guards

/-- A lock that is taken is one more guard. -/
def afterLock (h : Hands α) : SharedAnswer α → Hands α
  | .guard _ => { h with guards := h.guards + 1 }
  | _ => h

def after (h : Hands α) (a : SharedAnswer α) : SharedCall α → Hands α
  | .mint | .cloneHandle => { h with handles := h.handles + 1 }
  | .dropHandle => { h with handles := h.handles - 1 }
  | .drop => { h with owner := false }
  | .set v | .guardSet v => { h with written := v }
  | .lock | .tryLock | .lockWithin _ => h.afterLock a
  | .release => { h with guards := h.guards - 1 }
  | .count | .get | .isValid | .guardGet => h

def afterAll (h : Hands α) (log : List (SharedCall α × SharedAnswer α)) : Hands α :=
  log.foldl (fun h (c, a) => h.after a c) h

end Hands

/-- The runs of whatever answers calls: from what is held and a state, the calls with their answers,
to the state that is left. -/
inductive Runs {σ : Type} (call : σ → SharedCall α → Option (SharedAnswer α × σ)) :
    Hands α → σ → List (SharedCall α × SharedAnswer α) → σ → Prop where
  | nil (h : Hands α) (s : σ) : Runs call h s [] s
  | cons {h : Hands α} {c : SharedCall α} {a : SharedAnswer α} {s s' s'' : σ}
    {log : List (SharedCall α × SharedAnswer α)} (may : h.May c) (answered : call s c = some (a, s'))
    (rest : Runs call (h.after a c) s' log s'') : Runs call h s ((c, a) :: log) s''

theorem Runs.append {σ : Type} {call : σ → SharedCall α → Option (SharedAnswer α × σ)} {h : Hands α}
    {s s' s'' : σ} {log more : List (SharedCall α × SharedAnswer α)} (hrun : Runs call h s log s')
    (hmore : Runs call (h.afterAll log) s' more s'') : Runs call h s (log ++ more) s'' := by
  induction hrun with
  | nil => exact hmore
  | cons may answered rest ih => exact .cons may answered (ih hmore)

namespace Shared

variable {s s' : Shared α} {h : Hands α} {c : SharedCall α} {a : SharedAnswer α}
  {log : List (SharedCall α × SharedAnswer α)}

/-! ### Calls -/

theorem lock_eq (s : Shared α) :
    s.lock = if s.isValid then .ok { s with guarded := true }
      else .error (.notInitialized .containerDropped) := by
  rw [lock, checkValid]
  cases s.isValid <;> rfl

theorem tryLock_eq (s : Shared α) :
    s.tryLock = if s.isValid then .ok (if s.guarded then none else some { s with guarded := true })
      else .error (.notInitialized .containerDropped) := by
  rw [tryLock, checkValid]
  cases s.isValid <;> cases s.guarded <;> rfl

theorem lockWithin_eq (s : Shared α) (limit : Duration) :
    s.lockWithin limit =
      if s.isValid then
        if s.guarded then .error (.transport (.lockTimeout limit))
        else .ok { s with guarded := true }
      else .error (.notInitialized .containerDropped) := by
  rw [lockWithin, tryLock_eq]
  cases s.isValid <;> cases s.guarded <;> rfl

theorem read_eq (s : Shared α) :
    s.read = if s.isValid then .ok s.value else .error (.notInitialized .containerDropped) := by
  rw [read, lock_eq]
  cases s.isValid <;> rfl

/-- What an attempt to take the lock answers, and what it leaves. -/
def attempt (s : Shared α) : Except Fault (Option (Shared α)) → SharedAnswer α × Shared α
  | .ok (some s') => (.guard s'.value, s')
  | .ok none => (.contended, s)
  | .error f => (.failed f, s)

/-- A call with its answer and the state after it; there is none where nobody is there to call. -/
def call? (s : Shared α) : SharedCall α → Option (SharedAnswer α × Shared α)
  | .mint => s.mint?.map (.done, ·)
  | .count => s.count?.map (.count ·, s)
  | .get => some (.value s.value, s)
  | .set v => some (.done, s.set v)
  | .drop => some (.done, s.drop)
  | .cloneHandle => some (.done, s.cloneHandle)
  | .dropHandle => some (.done, s.dropHandle)
  | .isValid => some (.valid s.isValid, s)
  | .lock => some (s.attempt (s.lock.map some))
  | .tryLock => some (s.attempt s.tryLock)
  | .lockWithin limit => some (s.attempt ((s.lockWithin limit).map some))
  | .guardGet => some (.value s.value, s)
  | .guardSet v => (s.guardSet? v).map (.done, ·)
  | .release => some (.done, s.release)

/-- The three ways an attempt ends; `held` is the answer where a guard is held. -/
def taken (s : Shared α) (held : SharedAnswer α) : SharedAnswer α × Shared α :=
  if s.isValid then
    if s.guarded then (held, s) else (.guard s.value, { s with guarded := true })
  else (.failed (.notInitialized .containerDropped), s)

theorem call?_tryLock (s : Shared α) : s.call? .tryLock = some (s.taken .contended) := by
  rw [call?, tryLock_eq, taken]
  cases s.isValid <;> cases s.guarded <;> rfl

theorem call?_lockWithin (s : Shared α) (limit : Duration) :
    s.call? (.lockWithin limit) = some (s.taken (.failed (.transport (.lockTimeout limit)))) := by
  rw [call?, lockWithin_eq, taken]
  cases s.isValid <;> cases s.guarded <;> rfl

theorem call?_lock (hfree : s.guarded = false) :
    s.call? .lock = some (s.taken .contended) := by
  rw [call?, lock_eq, taken, hfree]
  cases s.isValid <;> rfl

/-! ### What is held -/

/-- A value is as the hands of its users say. -/
structure HeldBy (h : Hands α) (s : Shared α) : Prop where
  owned : s.owned = h.owner
  handles : s.handles = h.handles
  guards : h.guards = s.guarded.toNat
  value : s.value = h.written

theorem heldBy_new (value : α) : HeldBy (.new value) (new value) := ⟨rfl, rfl, rfl, rfl⟩

namespace HeldBy

theorem guarded_iff (hs : HeldBy h s) : s.guarded = true ↔ 0 < h.guards := by
  rw [hs.guards]
  cases s.guarded <;> decide

theorem free_iff (hs : HeldBy h s) : s.guarded = false ↔ h.guards = 0 := by
  rw [hs.guards]
  cases s.guarded <;> decide

theorem isValid_iff (hs : HeldBy h s) : s.isValid = true ↔ h.owner = true ∨ 0 < h.guards := by
  rw [isValid, Bool.or_eq_true, hs.owned, hs.guarded_iff]

/-- An attempt leaves one more guard, or everything as it was. -/
theorem taken (hs : HeldBy h s) {held : SharedAnswer α} (hheld : ∀ v, held ≠ .guard v) :
    HeldBy (h.afterLock (s.taken held).1) (s.taken held).2 := by
  have hkept : h.afterLock held = h := by
    cases held with
    | guard v => exact absurd rfl (hheld v)
    | _ => rfl
  rw [Shared.taken]
  split
  · split
    · rw [hkept]
      exact hs
    · rename_i hfree
      have hnone := hs.free_iff.mp (Bool.eq_false_iff.mpr hfree)
      exact ⟨hs.owned, hs.handles, congrArg (· + 1) hnone, hs.value⟩
  · exact hs

/-- A call that may be made is answered. -/
theorem call (hs : HeldBy h s) (may : h.May c) :
    ∃ a s', s.call? c = some (a, s') ∧ HeldBy (h.after a c) s' := by
  have hguard : 0 < h.guards → s.guarded = true := hs.guarded_iff.mpr
  cases c with
  | mint =>
    have howned : s.owned = true := hs.owned.trans may
    refine ⟨.done, { s with handles := s.handles + 1 }, ?_, hs.owned, congrArg (· + 1) hs.handles,
      hs.guards, hs.value⟩
    rw [call?, mint?, if_pos howned]
    rfl
  | count =>
    have howned : s.owned = true := hs.owned.trans may
    refine ⟨.count s.handles, s, ?_, hs⟩
    rw [call?, count?, if_pos howned]
    rfl
  | get => exact ⟨_, _, rfl, hs⟩
  | set v => exact ⟨_, _, rfl, hs.owned, hs.handles, hs.guards, rfl⟩
  | drop => exact ⟨_, _, rfl, rfl, hs.handles, hs.guards, hs.value⟩
  | cloneHandle => exact ⟨_, _, rfl, hs.owned, congrArg (· + 1) hs.handles, hs.guards, hs.value⟩
  | dropHandle => exact ⟨_, _, rfl, hs.owned, congrArg (· - 1) hs.handles, hs.guards, hs.value⟩
  | isValid => exact ⟨_, _, rfl, hs⟩
  | lock => exact ⟨_, _, call?_lock (hs.free_iff.mpr may.2), hs.taken nofun⟩
  | tryLock => exact ⟨_, _, call?_tryLock s, hs.taken nofun⟩
  | lockWithin limit => exact ⟨_, _, call?_lockWithin s limit, hs.taken nofun⟩
  | guardGet => exact ⟨_, _, rfl, hs⟩
  | guardSet v =>
    refine ⟨.done, { s with value := v }, ?_, hs.owned, hs.handles, hs.guards, rfl⟩
    rw [call?, guardSet?, if_pos (hguard may)]
    rfl
  | release =>
    refine ⟨_, _, rfl, hs.owned, hs.handles, ?_, hs.value⟩
    show h.guards - 1 = 0
    rw [hs.guards, hguard may]
    rfl

theorem runs (hs : HeldBy h s) (hrun : Runs call? h s log s') : HeldBy (h.afterAll log) s' := by
  induction hrun with
  | nil => exact hs
  | cons may answered rest ih =>
    obtain ⟨a, s', hcall, hheld⟩ := hs.call may
    cases hcall.symm.trans answered
    exact ih hheld

end HeldBy

/-! ### A value that is gone -/

/-- No lock of a handle is to be had any more. -/
structure Gone (s : Shared α) : Prop where
  isValid : s.isValid = false
  lock : s.lock = .error (.notInitialized .containerDropped)
  tryLock : s.tryLock = .error (.notInitialized .containerDropped)
  lockWithin : ∀ limit, s.lockWithin limit = .error (.notInitialized .containerDropped)
  read : s.read = .error (.notInitialized .containerDropped)

theorem gone (hgone : s.isValid = false) : Gone s := by
  refine ⟨hgone, ?_, ?_, fun limit => ?_, ?_⟩
  · rw [lock_eq, hgone]
    rfl
  · rw [tryLock_eq, hgone]
    rfl
  · rw [lockWithin_eq, hgone]
    rfl
  · rw [read_eq, hgone]
    rfl

/-- Nothing brings a value back. -/
theorem isValid_of_call? (hcall : s.call? c = some (a, s')) (hgone : s.isValid = false) :
    s'.isValid = false := by
  obtain ⟨howned, hfree⟩ := Bool.or_eq_false_iff.mp hgone
  have htaken (held : SharedAnswer α) :
      s.taken held = (.failed (.notInitialized .containerDropped), s) := by
    rw [taken, hgone]
    rfl
  cases c with
  | mint =>
    rw [call?, mint?, howned] at hcall
    cases hcall
  | count =>
    rw [call?, count?, howned] at hcall
    cases hcall
  | guardSet v =>
    rw [call?, guardSet?, hfree] at hcall
    cases hcall
  | lock =>
    rw [call?_lock hfree, htaken] at hcall
    cases hcall
    exact hgone
  | tryLock =>
    rw [call?_tryLock, htaken] at hcall
    cases hcall
    exact hgone
  | lockWithin limit =>
    rw [call?_lockWithin, htaken] at hcall
    cases hcall
    exact hgone
  | drop =>
    cases hcall
    exact hfree
  | release =>
    cases hcall
    exact Bool.or_eq_false_iff.mpr ⟨howned, rfl⟩
  | _ =>
    cases hcall
    exact hgone

theorem isValid_of_runs (hrun : Runs call? h s log s') (hgone : s.isValid = false) :
    s'.isValid = false := by
  induction hrun with
  | nil => exact hgone
  | cons may answered rest ih => exact ih (isValid_of_call? answered hgone)

end Shared

/-! ### Counted references -/

/-- A value in a cell that counts its references: the owner and a guard are strong ones, which keep
the value, and the handles are weak ones, which do not. -/
structure CountedCell (α : Type) where
  value : α
  locked : Bool
  strong : Nat
  weak : Nat

namespace CountedCell

def new (value : α) : CountedCell α := ⟨value, false, 1, 0⟩

def addWeak (r : CountedCell α) : CountedCell α := { r with weak := r.weak + 1 }

def dropStrong (r : CountedCell α) : CountedCell α := { r with strong := r.strong - 1 }

/-- A strong reference out of a weak one, where the value is still there. -/
def upgrade? (r : CountedCell α) : Option (CountedCell α) :=
  if 0 < r.strong then some { r with strong := r.strong + 1 } else none

/-- Takes the lock with a strong reference, which the guard keeps. -/
def taken (r : CountedCell α) (held : SharedAnswer α) : SharedAnswer α × CountedCell α :=
  match r.upgrade? with
  | none => (.failed (.notInitialized .containerDropped), r)
  | some r => if r.locked then (held, r.dropStrong) else (.guard r.value, { r with locked := true })

def call? (r : CountedCell α) : SharedCall α → Option (SharedAnswer α × CountedCell α)
  | .mint | .cloneHandle => some (.done, r.addWeak)
  | .count => some (.count r.weak, r)
  | .get | .guardGet => some (.value r.value, r)
  | .set v | .guardSet v => some (.done, { r with value := v })
  | .drop => some (.done, r.dropStrong)
  | .dropHandle => some (.done, { r with weak := r.weak - 1 })
  | .isValid => some (.valid (0 < r.strong), r)
  | .lock | .tryLock => some (r.taken .contended)
  | .lockWithin limit => some (r.taken (.failed (.transport (.lockTimeout limit))))
  | .release => some (.done, { r with locked := false }.dropStrong)

end CountedCell

namespace Shared

variable {s s' : Shared α} {h : Hands α} {c : SharedCall α} {a : SharedAnswer α} {r : CountedCell α}
  {log : List (SharedCall α × SharedAnswer α)}

/-- The references of a cell are those of a shared value. -/
structure Counts (r : CountedCell α) (s : Shared α) : Prop where
  value : r.value = s.value
  locked : r.locked = s.guarded
  strong : r.strong = s.owned.toNat + s.guarded.toNat
  weak : r.weak = s.handles

theorem counts_new (value : α) : Counts (.new value) (new value) := ⟨rfl, rfl, rfl, rfl⟩

namespace Counts

theorem strong_pos (hr : Counts r s) : 0 < r.strong ↔ s.isValid = true := by
  rw [hr.strong, isValid]
  cases s.owned <;> cases s.guarded <;> decide

theorem taken (hr : Counts r s) (held : SharedAnswer α) :
    (r.taken held).1 = (s.taken held).1 ∧ Counts (r.taken held).2 (s.taken held).2 := by
  rw [CountedCell.taken, CountedCell.upgrade?, Shared.taken]
  by_cases hvalid : s.isValid = true
  · rw [if_pos hvalid, if_pos (hr.strong_pos.mpr hvalid)]
    by_cases hheld : s.guarded = true
    · rw [if_pos hheld]
      simp only [hr.locked, hheld, if_true, true_and]
      exact ⟨hr.value, hheld.symm, hr.strong, hr.weak⟩
    · rw [if_neg hheld]
      have hfree : s.guarded = false := Bool.eq_false_iff.mpr hheld
      simp only [hr.locked, hfree, hr.value, Bool.false_eq_true, if_false, true_and]
      refine ⟨rfl, rfl, ?_, hr.weak⟩
      show r.strong + 1 = s.owned.toNat + 1
      rw [hr.strong, hfree]
      rfl
  · rw [if_neg hvalid, if_neg (mt hr.strong_pos.mp hvalid)]
    exact ⟨rfl, hr⟩

/-- A cell answers as the shared value does. -/
theorem call (hs : HeldBy h s) (hr : Counts r s) (may : h.May c) (hcall : s.call? c = some (a, s')) :
    ∃ r', r.call? c = some (a, r') ∧ Counts r' s' := by
  have htaken {held : SharedAnswer α} (h : s.taken held = (a, s')) :
      ∃ r', some (r.taken held) = some (a, r') ∧ Counts r' s' := by
    obtain ⟨hanswer, hcounts⟩ := hr.taken held
    rw [h] at hanswer hcounts
    exact ⟨(r.taken held).2, congrArg some (Prod.ext hanswer rfl), hcounts⟩
  cases c with
  | mint =>
    have howned : s.owned = true := hs.owned.trans may
    rw [Shared.call?, mint?, if_pos howned] at hcall
    cases hcall
    exact ⟨_, rfl, hr.value, hr.locked, hr.strong, congrArg (· + 1) hr.weak⟩
  | count =>
    have howned : s.owned = true := hs.owned.trans may
    rw [Shared.call?, count?, if_pos howned] at hcall
    cases hcall
    exact ⟨r, by rw [CountedCell.call?, hr.weak], hr⟩
  | get =>
    cases hcall
    exact ⟨r, by rw [CountedCell.call?, hr.value], hr⟩
  | set v =>
    cases hcall
    exact ⟨_, rfl, rfl, hr.locked, hr.strong, hr.weak⟩
  | drop =>
    cases hcall
    have howned : s.owned = true := hs.owned.trans may
    refine ⟨_, rfl, hr.value, hr.locked, ?_, hr.weak⟩
    show r.strong - 1 = 0 + s.guarded.toNat
    rw [hr.strong, howned, Bool.toNat_true]
    omega
  | cloneHandle =>
    cases hcall
    exact ⟨_, rfl, hr.value, hr.locked, hr.strong, congrArg (· + 1) hr.weak⟩
  | dropHandle =>
    cases hcall
    exact ⟨_, rfl, hr.value, hr.locked, hr.strong, congrArg (· - 1) hr.weak⟩
  | isValid =>
    cases hcall
    refine ⟨r, ?_, hr⟩
    simp only [CountedCell.call?, hr.strong_pos, Bool.decide_eq_true]
  | lock =>
    rw [call?_lock (hs.free_iff.mpr may.2)] at hcall
    exact htaken (Option.some.inj hcall)
  | tryLock =>
    rw [call?_tryLock] at hcall
    exact htaken (Option.some.inj hcall)
  | lockWithin limit =>
    rw [call?_lockWithin] at hcall
    exact htaken (Option.some.inj hcall)
  | guardGet =>
    cases hcall
    exact ⟨r, by rw [CountedCell.call?, hr.value], hr⟩
  | guardSet v =>
    rw [Shared.call?, guardSet?, if_pos (hs.guarded_iff.mpr may)] at hcall
    cases hcall
    exact ⟨_, rfl, rfl, hr.locked, hr.strong, hr.weak⟩
  | release =>
    cases hcall
    have hguard : s.guarded = true := hs.guarded_iff.mpr may
    refine ⟨_, rfl, hr.value, rfl, ?_, hr.weak⟩
    show r.strong - 1 = s.owned.toNat
    rw [hr.strong, hguard]
    rfl

theorem runs (hs : HeldBy h s) (hr : Counts r s) (hrun : Runs call? h s log s') :
    ∃ r', Runs CountedCell.call? h r log r' ∧ Counts r' s' := by
  induction hrun generalizing r with
  | nil => exact ⟨r, .nil _ _, hr⟩
  | cons may answered rest ih =>
    obtain ⟨a, s', hcall, hheld⟩ := hs.call may
    cases hcall.symm.trans answered
    obtain ⟨r', hanswered, hcounts⟩ := hr.call hs may answered
    obtain ⟨r'', hrest, hcounts⟩ := ih hheld hcounts
    exact ⟨r'', .cons may hanswered hrest, hcounts⟩

/-- A cell runs as the shared value does. -/
theorem runs_of_cell {r' : CountedCell α} (hs : HeldBy h s) (hr : Counts r s)
    (hrun : Runs CountedCell.call? h r log r') : ∃ s', Runs call? h s log s' ∧ Counts r' s' := by
  induction hrun generalizing s with
  | nil => exact ⟨s, .nil _ _, hr⟩
  | cons may answered rest ih =>
    obtain ⟨a, s', hcall, hheld⟩ := hs.call may
    obtain ⟨r', hanswered, hcounts⟩ := hr.call hs may hcall
    cases hanswered.symm.trans answered
    obtain ⟨s'', hrest, hcounts⟩ := ih hheld hcounts
    exact ⟨s'', .cons may hcall hrest, hcounts⟩

end Counts

/-! ### Every run -/

/-- What holds of a value with these hands on it. -/
structure Accessible (h : Hands α) (s : Shared α) : Prop where
  answers : ∀ c, h.May c → ∃ a s', s.call? c = some (a, s')
  oneGuard : h.guards ≤ 1
  count : h.owner = true → s.count? = some h.handles
  valid : s.isValid = true ↔ h.owner = true ∨ 0 < h.guards
  value : s.value = h.written
  /-- A lock that is free is taken, and what is seen under it is what was last written. -/
  free : s.isValid = true → h.guards = 0 → ∃ s', s'.value = h.written ∧ s.lock = .ok s' ∧
    s.tryLock = .ok (some s') ∧ ∀ limit, s.lockWithin limit = .ok s'
  held : s.isValid = true → 0 < h.guards → s.tryLock = .ok none ∧
    ∀ limit, s.lockWithin limit = .error (.transport (.lockTimeout limit))
  /-- Without owner and guard the value is gone, and it stays so. -/
  gone : h.owner = false → h.guards = 0 → ∀ more s', Runs call? h s more s' → Gone s'

theorem HeldBy.accessible (hs : HeldBy h s) : Accessible h s where
  answers c may := by
    obtain ⟨a, s', hcall, -⟩ := hs.call may
    exact ⟨a, s', hcall⟩
  oneGuard := hs.guards ▸ Bool.toNat_le s.guarded
  count howner := by
    rw [count?, hs.owned, if_pos howner, hs.handles]
  valid := hs.isValid_iff
  value := hs.value
  free hvalid hnone := by
    have hfree := hs.free_iff.mpr hnone
    refine ⟨{ s with guarded := true }, hs.value, ?_, ?_, fun limit => ?_⟩
    · rw [lock_eq, if_pos hvalid]
    · rw [tryLock_eq, if_pos hvalid, hfree]
      rfl
    · rw [lockWithin_eq, if_pos hvalid, hfree]
      rfl
  held hvalid hguard := by
    have hheld := hs.guarded_iff.mpr hguard
    refine ⟨?_, fun limit => ?_⟩
    · rw [tryLock_eq, if_pos hvalid, if_pos hheld]
    · rw [lockWithin_eq, if_pos hvalid, if_pos hheld]
  gone howner hnone more s' hrun := by
    have hinvalid : s.isValid = false :=
      Bool.or_eq_false_iff.mpr ⟨hs.owned.trans howner, hs.free_iff.mpr hnone⟩
    exact Shared.gone (isValid_of_runs hrun hinvalid)

/-- Whatever the owner, the handles and the guards do with a value, it is accessible as their hands
say, and its calls answer as those of a cell that counts references. -/
theorem accessible_in_every_run (value : α) (log : List (SharedCall α × SharedAnswer α)) :
    (∀ s, Runs call? (.new value) (new value) log s →
      Accessible ((Hands.new value).afterAll log) s) ∧
      ((∃ s, Runs call? (.new value) (new value) log s) ↔
        ∃ r, Runs CountedCell.call? (.new value) (.new value) log r) := by
  refine ⟨fun s hrun => ((heldBy_new value).runs hrun).accessible, ?_, ?_⟩
  · rintro ⟨s, hrun⟩
    obtain ⟨r, hcell, -⟩ := (counts_new value).runs (heldBy_new value) hrun
    exact ⟨r, hcell⟩
  · rintro ⟨r, hcell⟩
    obtain ⟨s, hrun, -⟩ := (counts_new value).runs_of_cell (heldBy_new value) hcell
    exact ⟨s, hrun⟩

/-- The owner goes while a guard is held: the value lives until the guard is released. -/
theorem accessible_in_every_run_dropWhileHeld :
    let limit := Duration.ofMillis 20
    let log : List (SharedCall Nat × SharedAnswer Nat) :=
      [(.mint, .done), (.cloneHandle, .done), (.set 5, .done), (.count, .count 2),
        (.tryLock, .guard 5), (.drop, .done), (.tryLock, .contended),
        (.lockWithin limit, .failed (.transport (.lockTimeout limit))), (.guardSet 9, .done),
        (.isValid, .valid true)]
    let held : Shared Nat := ⟨9, false, true, 2⟩
    Runs call? (.new 0) (new 0) log held ∧ (Hands.new 0).afterAll log = ⟨false, 2, 1, 9⟩ ∧
      held.isValid = true ∧ held.tryLock = .ok none ∧
      Runs call? (.new 0) (new 0) (log ++ [(.release, .done)]) held.release ∧
      Gone held.release := by
  intro limit log held
  have hrun : Runs call? (.new 0) (new 0) log held :=
    .cons rfl rfl <| .cons Nat.one_pos rfl <| .cons ⟨rfl, rfl⟩ rfl <| .cons rfl rfl <|
      .cons Nat.two_pos rfl <| .cons rfl rfl <| .cons Nat.two_pos rfl <| .cons Nat.two_pos rfl <|
      .cons Nat.one_pos rfl <| .cons Nat.two_pos rfl <| .nil _ _
  have hreleased : Runs call? (.new 0) (new 0) (log ++ [(.release, .done)]) held.release :=
    hrun.append (.cons Nat.one_pos rfl (.nil _ _))
  have haccess := (accessible_in_every_run 0 log).1 held hrun
  have hvalid := haccess.valid.mpr (.inr Nat.one_pos)
  refine ⟨hrun, rfl, hvalid, (haccess.held hvalid Nat.one_pos).1, hreleased, ?_⟩
  exact ((accessible_in_every_run 0 _).1 _ hreleased).gone rfl rfl [] _ (.nil _ _)

end Shared

end FieldImage
