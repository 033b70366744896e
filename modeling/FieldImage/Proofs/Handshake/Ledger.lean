import FieldImage.Image.Owned
import FieldImage.Proofs.Handshake.Moves
import Mathlib.Data.List.Induction

/-! The ledger of a run: what an onlooker writes down who numbers the sends and follows each request
and each reply from hand to hand. No party reads it. A fact about a run is a fact about the exchange
after it and the ledger of what was seen. -/

namespace FieldImage

structure Sent where
  client : Nat
  command : Command

/-- A request that the server copied out of the mailbox, and the send that it came from. -/
structure Copied where
  send : Nat
  command : Int32
  payload : Option (List Int32)

/-- A request that the server tried to carry out, with the process data before and after. -/
structure Dispatch (ι : Type) where
  send : Nat
  command : Int32
  payload : Option (List Int32)
  before : ι
  after : ι
  result : Except Fault Int32

structure Reply where
  send : Nat
  command : Int32
  code : Int32

/-- The end of a send, and the send whose reply it took. -/
structure Return where
  send : Nat
  result : Except Fault Int32
  took : Option Nat

/-- What an onlooker has written down. -/
structure Ledger (ι : Type) where
  /-- All sends. The number of a send is its place here. -/
  sends : List Sent
  /-- The last send of each client that posted its request. -/
  current : Nat → Nat
  /-- The sends that posted their requests, in this order. -/
  posted : List Nat
  /-- Those of them that did so while the signal for an earlier reply was due. -/
  ahead : List Nat
  /-- The send whose request or reply the mailbox holds, or held last. -/
  holder : Nat
  /-- The request that was copied out and has no reply in the mailbox yet. -/
  copied : Option Copied
  dispatches : List (Dispatch ι)
  replies : List Reply
  returns : List Return

/-- The code that answers a request. -/
def Dispatch.code {ι : Type} (d : Dispatch ι) : Int32 :=
  match d.result with
  | .ok code => code
  | .error _ => Command.failed

def Dispatch.succeeded {ι : Type} (d : Dispatch ι) : Bool := d.result.isOk

namespace Ledger

variable {ι : Type}

def empty : Ledger ι := ⟨[], fun _ => 0, [], [], 0, none, [], [], []⟩

/-- Writes down what is seen. A reply goes to the send that its request came from. -/
def note (l : Ledger ι) : Event ι → Ledger ι
  | .turnedBack k command cause =>
    { l with
      sends := l.sends ++ [⟨k, command⟩]
      returns := l.returns ++ [⟨l.sends.length, .error cause, none⟩] }
  | .posted k command signalDue =>
    { l with
      sends := l.sends ++ [⟨k, command⟩]
      current := Function.update l.current k l.sends.length
      posted := l.posted ++ [l.sends.length]
      ahead := if signalDue then l.ahead ++ [l.sends.length] else l.ahead
      holder := l.sends.length }
  | .returned k result took =>
    { l with returns := l.returns ++ [⟨l.current k, result, if took then some l.holder else none⟩] }
  | .copiedOut command payload => { l with copied := some ⟨l.holder, command, payload⟩ }
  | .carriedOut result before after =>
    match l.copied with
    | none => l
    | some c =>
      { l with
        dispatches := l.dispatches ++ [⟨c.send, c.command, c.payload, before, after, result⟩] }
  | .replied command code =>
    match l.copied with
    | none => l
    | some c =>
      { l with
        holder := c.send
        copied := none
        replies := l.replies ++ [⟨c.send, command, code⟩] }
  | .polled _ => l

def see (l : Ledger ι) : Option (Event ι) → Ledger ι
  | none => l
  | some e => l.note e

theorem see_carriedOut {l : Ledger ι} {c : Copied} (h : l.copied = some c)
    (result : Except Fault Int32) (before after : ι) :
    l.see (some (.carriedOut result before after)) =
      { l with
        dispatches :=
          l.dispatches ++ [⟨c.send, c.command, c.payload, before, after, result⟩] } := by
  simp only [see, note, h]

theorem see_replied {l : Ledger ι} {c : Copied} (h : l.copied = some c) (command code : Int32) :
    l.see (some (.replied command code)) =
      { l with
        holder := c.send
        copied := none
        replies := l.replies ++ [⟨c.send, command, code⟩] } := by
  simp only [see, note, h]

def of (es : List (Event ι)) : Ledger ι := es.foldl note empty

theorem of_append (es es' : List (Event ι)) : of (es ++ es') = es'.foldl note (of es) :=
  List.foldl_append

theorem of_append_toList (es : List (Event ι)) (e : Option (Event ι)) :
    of (es ++ e.toList) = (of es).see e := by
  cases e <;> simp [of, see]

/-- Nothing that a ledger lists is ever struck out, and what is posted later is a later send. -/
structure Extends (l l' : Ledger ι) : Prop where
  sends : l.sends <+: l'.sends
  posted : l.posted <+: l'.posted
  later : ∀ n ∈ l'.posted, n < l.sends.length → n ∈ l.posted
  ahead : l.ahead <+: l'.ahead
  laterAhead : ∀ n ∈ l'.ahead, n < l.sends.length → n ∈ l.ahead
  dispatches : l.dispatches <+: l'.dispatches
  replies : l.replies <+: l'.replies
  returns : l.returns <+: l'.returns

theorem Extends.refl (l : Ledger ι) : l.Extends l :=
  ⟨List.prefix_refl _, List.prefix_refl _, fun _ hn _ => hn, List.prefix_refl _,
    fun _ hn _ => hn, List.prefix_refl _, List.prefix_refl _, List.prefix_refl _⟩

theorem Extends.trans {l l' l'' : Ledger ι} (h : l.Extends l') (h' : l'.Extends l'') :
    l.Extends l'' where
  sends := h.sends.trans h'.sends
  posted := h.posted.trans h'.posted
  later n hn hlt :=
    h.later n (h'.later n hn (Nat.lt_of_lt_of_le hlt h.sends.length_le)) hlt
  ahead := h.ahead.trans h'.ahead
  laterAhead n hn hlt :=
    h.laterAhead n (h'.laterAhead n hn (Nat.lt_of_lt_of_le hlt h.sends.length_le)) hlt
  dispatches := h.dispatches.trans h'.dispatches
  replies := h.replies.trans h'.replies
  returns := h.returns.trans h'.returns

theorem Extends.sent {l l' : Ledger ι} (h : l.Extends l') {n : Nat} {q : Sent}
    (hq : l.sends[n]? = some q) : l'.sends[n]? = some q := by
  obtain ⟨more, hmore⟩ := h.sends
  have hlt : n < l.sends.length := (List.getElem?_eq_some_iff.mp hq).1
  rw [← hmore, List.getElem?_append_left hlt, hq]

theorem extends_note (l : Ledger ι) (e : Event ι) : l.Extends (l.note e) := by
  cases e with
  | turnedBack k command cause =>
    exact { Extends.refl l with
      sends := List.prefix_append _ _
      returns := List.prefix_append _ _ }
  | posted k command signalDue =>
    have hlater : ∀ (ns : List Nat), ∀ n ∈ ns ++ [l.sends.length], n < l.sends.length → n ∈ ns := by
      intro ns n hn hlt
      rcases List.mem_append.mp hn with hn | hn
      · exact hn
      · rw [List.mem_singleton.mp hn] at hlt
        exact absurd hlt (Nat.lt_irrefl _)
    cases signalDue with
    | true =>
      exact { Extends.refl l with
        sends := List.prefix_append _ _
        posted := List.prefix_append _ _
        later := hlater _
        ahead := List.prefix_append _ _
        laterAhead := hlater _ }
    | false =>
      exact { Extends.refl l with
        sends := List.prefix_append _ _
        posted := List.prefix_append _ _
        later := hlater _ }
  | returned k result took => exact { Extends.refl l with returns := List.prefix_append _ _ }
  | copiedOut command payload => exact { Extends.refl l with }
  | carriedOut result before after =>
    simp only [note]
    split
    · exact Extends.refl l
    · exact { Extends.refl l with dispatches := List.prefix_append _ _ }
  | replied command code =>
    simp only [note]
    split
    · exact Extends.refl l
    · exact { Extends.refl l with replies := List.prefix_append _ _ }
  | polled outcome => exact Extends.refl l

theorem extends_see (l : Ledger ι) (e : Option (Event ι)) : l.Extends (l.see e) := by
  cases e with
  | none => exact Extends.refl l
  | some e => exact extends_note l e

def command? (l : Ledger ι) (n : Nat) : Option Command := l.sends[n]?.map (·.command)

theorem command?_of_sent {l : Ledger ι} {n : Nat} {q : Sent} (h : l.sends[n]? = some q) :
    l.command? n = some q.command := by
  rw [command?, h]
  rfl

/-- The sends whose requests the server tried to carry out, in this order. -/
def dispatched (l : Ledger ι) : List Nat := l.dispatches.map (·.send)

/-- The sends whose requests were answered, in this order. -/
def replied (l : Ledger ι) : List Nat := l.replies.map (·.send)

def returned (l : Ledger ι) : List Nat := l.returns.map (·.send)

/-- What became of the request of a send at the server. -/
def dispatchesOf (l : Ledger ι) (n : Nat) : List (Dispatch ι) :=
  l.dispatches.filter (·.send == n)

theorem dispatchesOf_eq_nil {l : Ledger ι} {n : Nat} (h : n ∉ l.dispatched) :
    l.dispatchesOf n = [] := by
  rw [dispatchesOf, List.filter_eq_nil_iff]
  intro d hd hsame
  exact h (List.mem_map.mpr ⟨d, hd, beq_iff_eq.mp hsame⟩)

def succeeded (l : Ledger ι) (n : Nat) : Bool := (l.dispatchesOf n).any (·.succeeded)

/-- The commands that were carried out, in the order in which they were posted. -/
def log (l : Ledger ι) : List Command := (l.posted.filter l.succeeded).filterMap l.command?

end Ledger

/-- What a run starts from: a server at rest, clients that gave nothing up, an idle mailbox, a
signal and process data. -/
structure Setup (ι : Type) where
  lockLimit : Duration
  areaSize : Nat
  limits : Nat → ClientLimits
  signal : Signal
  data : ι

namespace Setup

variable {ι : Type} [ByteImage ι]

def start (u : Setup ι) : Exchange ι where
  mailbox := Mailbox.idle
  signal := u.signal
  data := u.data
  server := Server.new u.lockLimit
  phase := .resting
  client k := ⟨u.areaSize, u.limits k, none⟩
  stage _ := .resting

/-- The limits that clients and servers have by default, and an image of zeros. -/
def blank : Setup Image := ⟨Duration.ofSecs 1, 4, fun _ => Client.defaultLimits, ⟨0⟩, Image.zero 4⟩

def after (u : Setup ι) (as : List (Action ι)) : Exchange ι := (u.start.run as).1

def ledger (u : Setup ι) (as : List (Action ι)) : Ledger ι := Ledger.of (u.start.run as).2

theorem after_concat (u : Setup ι) (as : List (Action ι)) (a : Action ι) :
    u.after (as ++ [a]) = ((u.after as).step a).1 := by
  simp [after, Exchange.run_concat]

theorem ledger_concat (u : Setup ι) (as : List (Action ι)) (a : Action ι) :
    u.ledger (as ++ [a]) = (u.ledger as).see ((u.after as).step a).2 := by
  simp only [ledger, after, Exchange.run_concat, Ledger.of_append_toList]

theorem ledger_append (u : Setup ι) (as bs : List (Action ι)) :
    u.ledger (as ++ bs) = ((u.after as).run bs).2.foldl Ledger.note (u.ledger as) := by
  rw [ledger, Exchange.run_append, Ledger.of_append]
  rfl

theorem ledger_extends (u : Setup ι) (as bs : List (Action ι)) :
    (u.ledger as).Extends (u.ledger (as ++ bs)) := by
  induction bs using List.reverseRecOn with
  | nil =>
    rw [List.append_nil]
    exact Ledger.Extends.refl _
  | append_singleton bs b ih =>
    rw [← List.append_assoc, ledger_concat]
    exact ih.trans (Ledger.extends_see _ _)

/-- What holds at the start and is kept by every step of a run holds after it. -/
theorem run_induction (u : Setup ι) {P : Exchange ι → Ledger ι → Prop} (as : List (Action ι))
    (hstart : P u.start Ledger.empty)
    (hstep : ∀ s l a e t, a ∈ as → P s l → Exchange.Moves s a e t → P t (l.see e)) :
    P (u.after as) (u.ledger as) := by
  induction as using List.reverseRecOn with
  | nil => exact hstart
  | append_singleton as a ih =>
    rw [after_concat, ledger_concat]
    refine hstep _ _ a _ _ (by simp) (ih fun s l b e t hb => ?_) (Exchange.step_moves _ a)
    exact hstep s l b e t (by simp [hb])

end Setup

end FieldImage
