import FieldImage.Proofs.Image.Rules

/-! Calls on an image that is changed where it stands: what a call has changed stays changed when it
fails, and a place that the image does not have ends it for good. On an image with rules a call made
so gives what it gives as a function from image to image. No place is ever missing, and nothing is
changed before the last check has passed. -/

namespace FieldImage

open ByteImage StoredImage RuledImage

/-- A program on one image. It ends with a result or a fault and the image as it then is, or stands
still at a place outside the image. -/
abbrev InPlace (ι α : Type) : Type := ExceptT Fault (StateT ι Option) α

namespace InPlace

variable {ι α β : Type} {i : ι}

theorem bind_run (p : InPlace ι α) (q : α → InPlace ι β) (i : ι) :
    (p >>= q) i = (p i).bind fun e =>
      match e.1 with
      | .ok a => q a e.2
      | .error f => some (.error f, e.2) := by
  show ((p i).bind fun e => ExceptT.bindCont q e.1 e.2) = _
  congr 1
  funext e
  cases e.1 <;> rfl

/-- A program that only looks at an image, and has `x` from it. -/
def Looks (p : InPlace ι α) (i : ι) (x : Except Fault α) : Prop := p i = some (x, i)

namespace Looks

variable {p : InPlace ι α} {x : Except Fault α}

theorem bind_ok {a : α} (h : Looks p i (.ok a)) (q : α → InPlace ι β) :
    (p >>= q) i = q a i := by
  rw [bind_run, show p i = some (.ok a, i) from h]
  rfl

theorem bind_error {f : Fault} (h : Looks p i (.error f)) (q : α → InPlace ι β) :
    (p >>= q) i = some (.error f, i) := by
  rw [bind_run, show p i = some (.error f, i) from h]
  rfl

theorem pure (a : α) (i : ι) : Looks (Pure.pure a : InPlace ι α) i (.ok a) := rfl

theorem bind {q : α → InPlace ι β} {y : α → Except Fault β} (h : Looks p i x)
    (hq : ∀ a, Looks (q a) i (y a)) : Looks (p >>= q) i (x >>= y) := by
  cases x with
  | error f => exact h.bind_error q
  | ok a => exact (h.bind_ok q).trans (hq a)

theorem map (h : Looks p i x) (f : α → β) : Looks (f <$> p) i (f <$> x) := by
  have hbind := h.bind (q := fun a => Pure.pure (f a)) fun a => pure (f a) i
  cases x <;> exact hbind

theorem mapM {q : α → InPlace ι β} {y : α → Except Fault β} (h : ∀ a, Looks (q a) i (y a))
    (as : List α) : Looks (as.mapM q) i (as.mapM y) := by
  induction as with
  | nil => exact pure [] i
  | cons a as ih =>
    rw [List.mapM_cons, List.mapM_cons]
    exact (h a).bind fun b => ih.bind fun bs => pure (b :: bs) i

theorem forM {q : α → InPlace ι Unit} {y : α → Except Fault Unit} (h : ∀ a, Looks (q a) i (y a))
    (as : List α) : Looks (as.forM q) i (as.forM y) := by
  induction as with
  | nil => exact pure () i
  | cons a as ih => exact (h a).bind fun _ => ih

end Looks

theorem looks_ofExcept (x : Except Fault α) (i : ι) : Looks (ofExcept x : InPlace ι α) i x := by
  cases x <;> rfl

/-- The result of a change, with the image that it leaves: the one before it if it failed. -/
def settle (i : ι) : Except Fault (α × ι) → Except Fault α × ι
  | .ok (a, after) => (.ok a, after)
  | .error f => (.error f, i)

/-- A program that makes the whole of a change, or fails and leaves the image as it was. -/
def Atomic (p : InPlace ι α) (i : ι) (x : Except Fault (α × ι)) : Prop := p i = some (settle i x)

theorem Atomic.map {p : InPlace ι α} {x : Except Fault (α × ι)} (h : Atomic p i x) (f : α → β) :
    Atomic (f <$> p) i (x.map fun e => (f e.1, e.2)) := by
  show (p >>= fun a => pure (f a)) i = _
  rw [bind_run, show p i = _ from h]
  cases x <;> rfl

/-- What is looked at before a change may keep it from being made. -/
theorem Looks.bind_atomic {p : InPlace ι α} {x : Except Fault α} (h : Looks p i x)
    {q : α → InPlace ι β} {y : α → Except Fault (β × ι)} (hq : ∀ a, Atomic (q a) i (y a)) :
    Atomic (p >>= q) i (x >>= y) := by
  cases x with
  | error f => exact h.bind_error q
  | ok a => exact (h.bind_ok q).trans (hq a)

/-- A check of the image as it stands. -/
def check (x : ι → Except Fault Unit) : InPlace ι Unit := fun i => some (x i, i)

theorem looks_check (x : ι → Except Fault Unit) : Looks (check x) i (x i) := rfl

variable [ByteImage ι]

def load (area : Area) (k : Nat) : InPlace ι UInt8 := fun i =>
  (byte? i area k).map fun b => (.ok b, i)

def store (area : Area) (k : Nat) (b : UInt8) : InPlace ι Unit := fun i =>
  (byte? i area k).map fun _ => (.ok (), setByte i area k b)

def loadAll (area : Area) : (k n : Nat) → InPlace ι (List UInt8)
  | _, 0 => pure []
  | k, n + 1 => do
    let b ← load area k
    let bs ← loadAll area (k + 1) n
    pure (b :: bs)

def storeAll (area : Area) : Nat → List UInt8 → InPlace ι Unit
  | _, [] => pure ()
  | k, b :: bs => do
    store area k b
    storeAll area (k + 1) bs

def update (a : Address) (f : UInt8 → UInt8) : InPlace ι Unit := do
  let b ← load a.area a.offset
  store a.area a.offset (f b)

/-- The bytes of a point, after its checks. -/
def readPoint (a : Address) (width : UInt32) : InPlace ι (List UInt8) := do
  check fun i => validate i a width
  loadAll a.area a.offset width.toNat

/-! ### Places in storage -/

section Stored

variable [StoredImage ι] {area : Area} {k : Nat}

theorem looks_load (h : k < (storage i area).length) :
    Looks (load area k) i (.ok ((byte? i area k).getD 0)) := by
  rw [Looks, load, byte?_eq_some h]
  rfl

theorem looks_loadAll {n : Nat} (h : k + n ≤ (storage i area).length) :
    Looks (loadAll area k n) i (.ok (window i area k n)) := by
  induction n generalizing k with
  | zero => exact Looks.pure [] i
  | succ n ih =>
    have hfirst : k < (storage i area).length := by omega
    have hrest : k + 1 + n ≤ (storage i area).length := by omega
    exact (looks_load hfirst).bind fun b => (ih hrest).bind fun bs => Looks.pure (b :: bs) i

theorem store_run (b : UInt8) (h : k < (storage i area).length) :
    store area k b i = some (.ok (), setByte i area k b) := by
  rw [store, byte?_eq_some h]
  rfl

theorem storeAll_run {bs : List UInt8} (h : k + bs.length ≤ (storage i area).length) :
    storeAll area k bs i = some (.ok (), putWindow i area k bs) := by
  induction bs generalizing i k with
  | nil => rfl
  | cons b bs ih =>
    rw [List.length_cons] at h
    have hfirst : k < (storage i area).length := by omega
    have hrest : k + 1 + bs.length ≤ (storage (setByte i area k b) area).length := by
      rw [length_storage_setByte]
      omega
    rw [storeAll, bind_run, store_run b hfirst]
    exact ih hrest

theorem update_run {a : Address} (f : UInt8 → UInt8) (h : a.offset < (storage i a.area).length) :
    update a f i = some (.ok (), updateByte i a f) := by
  rw [update, (looks_load h).bind_ok]
  exact store_run _ h

theorem forM_update_run {as : List Address} (f : Address → UInt8 → UInt8)
    (h : ∀ a ∈ as, a.offset < (storage i a.area).length) :
    as.forM (fun a => update a (f a)) i =
      some (.ok (), as.foldl (fun i a => updateByte i a (f a)) i) := by
  induction as generalizing i with
  | nil => rfl
  | cons a as ih =>
    obtain ⟨ha, has⟩ := List.forall_mem_cons.mp h
    have hrest : ∀ a' ∈ as, a'.offset < (storage (updateByte i a (f a)) a'.area).length := by
      intro a' ha'
      rw [updateByte, length_storage_setByte]
      exact has a' ha'
    show (update a (f a) >>= fun _ => as.forM fun a => update a (f a)) i = _
    rw [bind_run, update_run (f a) ha]
    exact ih hrest

end Stored

theorem looks_readPoint [RuledImage ι] (a : Address) (width : UInt32) :
    Looks (readPoint a width) i (ByteImage.readPoint i a width) := by
  have hcheck := looks_check (fun i => validate i a width) (i := i)
  rw [ByteImage.readPoint]
  cases hvalid : validate i a width with
  | error f =>
    rw [hvalid] at hcheck
    exact hcheck.bind_error _
  | ok u =>
    rw [hvalid] at hcheck
    exact (hcheck.bind_ok _).trans (looks_loadAll (window_le_storage hvalid))

end InPlace

/-! ### Calls -/

/-- The value that the bytes of a point show; a bit is the one that the address names. -/
def DataType.decode (a : Address) (bs : List UInt8) : DataType → Value
  | bit => .bit (bs.headD 0 &&& a.mask != 0)
  | byte => .byte (bs.headD 0)
  | word => .word (Bytes.toWord bs)
  | dword => .dword (Bytes.toDWord bs)
  | int => .int (Bytes.toInt bs)
  | real => .real (Bytes.toReal bs)

namespace ReadCall

/-- A read by the way that the bytes of a point are had. -/
def askBy {m : Type → Type} [Monad m] (read : Address → UInt32 → m (List UInt8)) :
    ReadCall → m Answer
  | bit a => .bit <$> do
    let bs ← read a 1
    pure (bs.headD 0 &&& a.mask != 0)
  | bits as => .bits <$> as.mapM fun a => do
    let bs ← read a 1
    pure (bs.headD 0 &&& a.mask != 0)
  | byte a => .byte <$> do
    let bs ← read a 1
    pure (bs.headD 0)
  | word a => .word <$> do
    let bs ← read a 2
    pure (Bytes.toWord bs)
  | dword a => .dword <$> do
    let bs ← read a 4
    pure (Bytes.toDWord bs)
  | int a => .int <$> do
    let bs ← read a 4
    pure (Bytes.toInt bs)
  | real a => .real <$> do
    let bs ← read a 4
    pure (Bytes.toReal bs)
  | value a type => .value <$> do
    let bs ← read a type.width
    pure (type.decode a bs)

def inPlace {ι : Type} [ByteImage ι] (c : ReadCall) : InPlace ι Answer :=
  c.askBy InPlace.readPoint

variable {ι : Type} [ByteImage ι]

theorem map_decoded {α β : Type} (x : Except Fault (List UInt8)) (f : List UInt8 → α)
    (g : α → β) : g <$> (x >>= fun bs => pure (f bs)) = x >>= fun bs => pure (g (f bs)) := by
  cases x <;> rfl

theorem getValue_eq (i : ι) (a : Address) (type : DataType) :
    getValue i a type =
      ByteImage.readPoint i a type.width >>= fun bs => pure (type.decode a bs) := by
  cases type with
  | bit | byte | word | dword | int | real => exact map_decoded _ _ _

theorem ask_eq_askBy (i : ι) (c : ReadCall) : c.ask i = c.askBy (ByteImage.readPoint i) := by
  cases c with
  | bit | bits | byte | word | dword | int | real => rfl
  | value a type => rw [ask, askBy, getValue_eq]

theorem inPlace_run [RuledImage ι] (i : ι) (c : ReadCall) : c.inPlace i = some (c.ask i, i) := by
  rw [ask_eq_askBy]
  have hpoint {α : Type} (f : List UInt8 → α) (a : Address) (width : UInt32) :
      InPlace.Looks (InPlace.readPoint a width >>= fun bs => pure (f bs)) i
        (ByteImage.readPoint i a width >>= fun bs => pure (f bs)) :=
    (InPlace.looks_readPoint a width).bind fun bs => .pure (f bs) i
  cases c with
  | bits as => exact (InPlace.Looks.mapM (fun a => hpoint _ a 1) as).map _
  | bit a | byte a => exact (hpoint _ a 1).map _
  | word a => exact (hpoint _ a 2).map _
  | dword a | int a | real a => exact (hpoint _ a 4).map _
  | value a type => exact (hpoint _ a type.width).map _

end ReadCall

namespace Edit

def inPlace {ι : Type} [ByteImage ι] : Edit → InPlace ι Unit
  | change as f => as.forM fun a => InPlace.update a (f a)
  | put a bs => InPlace.storeAll a.area a.offset bs

/-- An edit whose windows are in storage goes through. -/
theorem inPlace_run {ι : Type} [ByteImage ι] [StoredImage ι] {i : ι} {e : Edit}
    (hcounted : e.Counted)
    (h : ∀ t ∈ e.targets, t.1.offset + t.2.toNat ≤ (storage i t.1.area).length) :
    e.inPlace i = some (.ok (), e.perform i) := by
  cases e with
  | change as f =>
    have has : ∀ a ∈ as, a.offset < (storage i a.area).length := fun a ha =>
      h (a, 1) (List.mem_map_of_mem ha)
    exact InPlace.forM_update_run f has
  | put a bs =>
    have hlast := h (a, UInt32.ofNat bs.length) (.head _)
    rw [UInt32.toNat_ofNat_of_lt' hcounted] at hlast
    exact InPlace.storeAll_run hlast

end Edit

namespace Write

/-- All checks of a write and then its changes, byte by byte. -/
def inPlace {ι : Type} [ByteImage ι] (w : Write) : InPlace ι Unit := do
  w.targets.forM fun t => InPlace.check fun i => validateWrite i t.1 t.2
  w.edit.inPlace

variable {ι : Type} [ByteImage ι]

theorem looks_checks (i : ι) (w : Write) : InPlace.Looks
    (w.targets.forM fun t => InPlace.check fun i => validateWrite i t.1 t.2) i (w.check i) := by
  rw [check]
  exact .forM (fun _ => InPlace.looks_check _) w.targets

theorem inPlace_run [RuledImage ι] (i : ι) (w : Write) :
    w.inPlace i = match w.check i with
      | .ok _ => some (.ok (), w.perform i)
      | .error f => some (.error f, i) := by
  have hchecks := w.looks_checks i
  cases hcheck : w.check i with
  | error f =>
    rw [hcheck] at hchecks
    exact hchecks.bind_error _
  | ok u =>
    rw [hcheck] at hchecks
    refine (hchecks.bind_ok _).trans (Edit.inPlace_run w.counted_edit fun t ht => ?_)
    exact window_le_storage (validate_of_validateWrite (forM_eq_ok.mp hcheck t ht))

end Write

namespace Call

def inPlace {ι : Type} [ByteImage ι] : Call → InPlace ι Answer
  | read c => c.inPlace
  | write c => (fun _ => .done) <$> c.toWrite.inPlace

/-- A call that changes the image where it stands does what it does as a function. -/
theorem inPlace_run {ι : Type} [ByteImage ι] [RuledImage ι] (i : ι) (c : Call) :
    c.inPlace i = some (c.run i) := by
  cases c with
  | read c => exact c.inPlace_run i
  | write c =>
    show (c.toWrite.inPlace >>= fun _ => pure Answer.done) i = _
    rw [InPlace.bind_run, c.toWrite.inPlace_run, run_write]
    cases c.toWrite.check i <;> rfl

theorem atomic_write {ι : Type} [ByteImage ι] [RuledImage ι] (i : ι) (c : WriteCall) :
    InPlace.Atomic (write c).inPlace i ((c.apply i).map fun after => (.done, after)) := by
  refine ((write c).inPlace_run i).trans ?_
  rw [run]
  cases c.apply i <;> rfl

end Call

end FieldImage
