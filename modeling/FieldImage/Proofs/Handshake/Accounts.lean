import FieldImage.Proofs.Handshake.Cycle
import FieldImage.Proofs.Handshake.Ledger

/-! The accounts of a server that other processes may disturb: they take the mailbox lock when it
would write, and put anything into the mailbox. Each request that was copied out has one account,
which the counters count and one reply answers; the reply that could not be written yet is the one
of the last account. -/

namespace FieldImage

variable {ι : Type}

/-- A request that was copied out, what came of it, and the process data before and after. -/
structure Account (ι : Type) where
  command : Int32
  payload : Option (List Int32)
  result : Except Fault Int32
  before : ι
  after : ι

namespace Account

def request (a : Account ι) : Int32 × Option (List Int32) := (a.command, a.payload)

def attempt (a : Account ι) : Except Fault Int32 × ι × ι := (a.result, a.before, a.after)

/-- The command and the code that answer the request. -/
def reply (a : Account ι) : Int32 × Int32 :=
  match a.result with
  | .ok code => (a.command, code)
  | .error _ => (a.command, Command.failed)

/-- What a cycle answers that writes the reply later. -/
def lateOutcome (a : Account ι) : Except Fault PollOutcome :=
  match a.result with
  | .ok _ => .ok (.served a.command)
  | .error _ => .error (.protocol (.commandFailed a.command Command.failed))

/-- What a server with this lock limit makes of a request: it is carried out, or fails and leaves
the data alone. -/
inductive Settled [ByteImage ι] (limit : Duration) : Account ι → Prop
  | done {s : Server} {dataFree : Bool} {data : ι} {command : Int32}
      {payload : Option (List Int32)} {e : Execution ι} (hlimit : s.lockLimit = limit)
      (h : s.dispatch dataFree data command payload = .ok e) :
      Settled limit ⟨command, payload, .ok e.code, data, e.data⟩
  | failed {s : Server} {dataFree : Bool} {data : ι} {command : Int32}
      {payload : Option (List Int32)} {f : Fault} (hlimit : s.lockLimit = limit)
      (h : s.dispatch dataFree data command payload = .error f) :
      Settled limit ⟨command, payload, .error f, data, data⟩

theorem Settled.deferredOutcome [ByteImage ι] {limit : Duration} {a : Account ι}
    (h : a.Settled limit) : Server.deferredOutcome a.reply.1 a.reply.2 = a.lateOutcome := by
  cases h with
  | done hlimit h =>
    obtain ⟨c, -, -, hcode⟩ := Server.dispatch_eq_ok h
    have hsuccess : c.success ≠ Command.failed := Server.success_ne_failed c
    rw [← hcode] at hsuccess
    exact if_neg hsuccess
  | failed hlimit h => exact if_pos rfl

end Account

namespace Event

def copied? : Event ι → Option (Int32 × Option (List Int32))
  | .copiedOut command payload => some (command, payload)
  | _ => none

def carried? : Event ι → Option (Except Fault Int32 × ι × ι)
  | .carriedOut result before after => some (result, before, after)
  | _ => none

def replied? : Event ι → Option (Int32 × Int32)
  | .replied command code => some (command, code)
  | _ => none

/-- The server took up a request, tried to carry it out or answered it. -/
def isDeed : Event ι → Bool
  | .copiedOut .. | .carriedOut .. | .replied .. => true
  | _ => false

theorem filterMap_append_toList {α : Type} (f : Event ι → Option α) (es : List (Event ι))
    (e : Option (Event ι)) :
    (es ++ e.toList).filterMap f = es.filterMap f ++ (e.bind f).toList := by
  cases e with
  | none => simp
  | some e => cases h : f e <;> simp [h]

end Event

namespace Phase

/-- The request that was copied out and not yet carried out. -/
def inHand : Phase → List (Int32 × Option (List Int32))
  | .copied command payload => [(command, payload)]
  | _ => []

/-- The reply that the server still has to write, as its phase has it. -/
def Fits (unposted : Option (Int32 × Int32)) : Phase → Prop
  | .resting => True
  | .copied _ _ | .signalling _ => unposted = none
  | .answering command code _ => unposted = some (command, code)

end Phase

/-- A step of an exchange, or a mailbox that somebody else has written. -/
inductive Disturbance (ι : Type) where
  | step (a : Action ι)
  | meddle (m : Mailbox)

namespace Disturbance

def byServer : Disturbance ι → Bool
  | .step (.copyOut _) | .step (.carryOut _) | .step (.writeReply _) | .step .notify => true
  | _ => false

/-- Others change the mailbox and the data, and then the server runs a cycle. -/
def turn (t : Server.Turn ι) : List (Disturbance ι) :=
  [.meddle t.mailbox, .step (.edit t.data), .step (.copyOut t.locks.request),
    .step (.carryOut t.locks.data), .step (.writeReply t.locks.reply), .step .notify]

end Disturbance

namespace Exchange

section Owes

variable {s : Exchange ι} {command code : Int32} {outcome : Except Fault PollOutcome}

theorem Owes.unposted (h : s.Owes command code outcome) (hfits : s.phase.Fits s.server.unposted) :
    s.server.unposted = some (command, code) := by
  rcases h with hphase | ⟨-, hunposted, -⟩
  · rwa [hphase] at hfits
  · exact hunposted

theorem Owes.inHand (h : s.Owes command code outcome) : s.phase.inHand = [] := by
  rcases h with hphase | ⟨hphase, -, -⟩
  · rw [hphase]
    rfl
  · rw [hphase]
    rfl

end Owes

variable [ByteImage ι]

def disturb (s : Exchange ι) : Disturbance ι → Exchange ι × Option (Event ι)
  | .step a => s.step a
  | .meddle m => ({ s with mailbox := m }, none)

def runDisturbed (s : Exchange ι) : List (Disturbance ι) → Exchange ι × List (Event ι)
  | [] => (s, [])
  | d :: ds =>
    let (t, e) := s.disturb d
    let (u, es) := t.runDisturbed ds
    (u, e.toList ++ es)

end Exchange

/-- The accounts of a run: one for each request that was copied out and is not in hand any more,
each with its reply, which was written or is still to be written. -/
structure Accounted [ByteImage ι] (limit : Duration) (s : Exchange ι) (es : List (Event ι))
    (accounts : List (Account ι)) : Prop where
  lockLimit : s.server.lockLimit = limit
  fits : s.phase.Fits s.server.unposted
  settled : ∀ a ∈ accounts, a.Settled limit
  copied : es.filterMap Event.copied? = accounts.map Account.request ++ s.phase.inHand
  carried : es.filterMap Event.carried? = accounts.map Account.attempt
  replied : es.filterMap Event.replied? ++ s.server.unposted.toList = accounts.map Account.reply
  served : s.server.served = accounts.countP fun a => a.result.isOk
  failed : s.server.failed = accounts.countP fun a => !a.result.isOk

namespace Accounted

variable [ByteImage ι] {limit : Duration} {s t : Exchange ι} {es : List (Event ι)}
  {accounts : List (Account ι)} {e : Option (Event ι)} {a : Action ι}

theorem start (u : Setup ι) : Accounted u.lockLimit u.start [] [] where
  lockLimit := rfl
  fits := trivial
  settled := List.forall_mem_nil _
  copied := rfl
  carried := rfl
  replied := rfl
  served := rfl
  failed := rfl

/-- What is no deed of the server leaves the accounts as they are. -/
theorem frame (h : Accounted limit s es accounts) (he : ∀ x ∈ e, x.isDeed = false)
    (hlimit : t.server.lockLimit = s.server.lockLimit)
    (hunposted : t.server.unposted = s.server.unposted)
    (hserved : t.server.served = s.server.served) (hfailed : t.server.failed = s.server.failed)
    (hinHand : t.phase.inHand = s.phase.inHand) (hfits : t.phase.Fits t.server.unposted) :
    Accounted limit t (es ++ e.toList) accounts := by
  have hnone : e.bind Event.copied? = none ∧ e.bind Event.carried? = none ∧
      e.bind Event.replied? = none := by
    cases e with
    | none => exact ⟨rfl, rfl, rfl⟩
    | some x =>
      have hx := he x rfl
      cases x <;> first | exact ⟨rfl, rfl, rfl⟩ | cases hx
  obtain ⟨hcopied, hcarried, hreplied⟩ := hnone
  refine ⟨hlimit.trans h.lockLimit, hfits, h.settled, ?_, ?_, ?_, hserved.trans h.served,
    hfailed.trans h.failed⟩
  · rw [Event.filterMap_append_toList, hcopied, hinHand, ← h.copied]
    exact List.append_nil _
  · rw [Event.filterMap_append_toList, hcarried, ← h.carried]
    exact List.append_nil _
  · rw [Event.filterMap_append_toList, hreplied, hunposted, ← h.replied, Option.toList_none,
      List.append_nil]

/-- Nobody but the server changes the accounts. -/
theorem others (h : Accounted limit s es accounts) (he : ∀ x ∈ e, x.isDeed = false)
    (hserver : t.server = s.server) (hphase : t.phase = s.phase) :
    Accounted limit t (es ++ e.toList) accounts := by
  apply h.frame he
  · rw [hserver]
  · rw [hserver]
  · rw [hserver]
  · rw [hserver]
  · rw [hphase]
  · rw [hserver, hphase]
    exact h.fits

/-- What a server owes is the reply of the last account. -/
theorem owed (h : Accounted limit s es accounts) {command code : Int32}
    (hunposted : s.server.unposted = some (command, code)) :
    ∃ earlier a, accounts = earlier ++ [a] ∧ a.reply = (command, code) := by
  have hreplied := h.replied
  rw [hunposted] at hreplied
  obtain ⟨earlier, last, rfl, -, hlast⟩ := List.append_eq_map_iff.mp hreplied
  obtain ⟨a, rfl, ha⟩ := List.map_eq_singleton_iff.mp hlast
  exact ⟨earlier, a, rfl, ha⟩

/-- The request in hand is settled, and its reply is owed. -/
theorem settle (h : Accounted limit s es accounts) {x : Account ι} (hsettled : x.Settled limit)
    (hphase : s.phase = .copied x.command x.payload) (result : Except Fault (Execution ι))
    (hserver : t.server = s.server.account x.command result)
    (hcode : x.reply = (x.command, Server.replyCode result))
    (hok : x.result.isOk = result.isOk) (hinHand : t.phase.inHand = [])
    (hfits : t.phase.Fits (some x.reply)) :
    Accounted limit t (es ++ [.carriedOut x.result x.before x.after]) (accounts ++ [x]) := by
  have hnone : s.server.unposted = none := by
    have hfits := h.fits
    rwa [hphase] at hfits
  have hunposted : t.server.unposted = some x.reply := by
    rw [hserver, hcode]
    cases result <;> rfl
  have hcopied := h.copied
  have hreplied := h.replied
  rw [hphase] at hcopied
  rw [hnone, Option.toList_none, List.append_nil] at hreplied
  refine ⟨?_, ?_, ?_, ?_, ?_, ?_, ?_, ?_⟩
  · rw [← h.lockLimit, hserver]
    cases result <;> rfl
  · rwa [hunposted]
  · exact List.forall_mem_append.mpr ⟨h.settled, List.forall_mem_singleton.mpr hsettled⟩
  · rw [List.filterMap_append, hcopied, hinHand, List.map_append]
    simp [Event.copied?, Phase.inHand, Account.request]
  · rw [List.filterMap_append, h.carried, List.map_append]
    rfl
  · rw [List.filterMap_append, hreplied, hunposted, List.map_append]
    simp [Event.replied?]
  · rw [hserver, List.countP_append, ← h.served, List.countP_singleton, hok]
    cases result <;> rfl
  · rw [hserver, List.countP_append, ← h.failed, List.countP_singleton, hok]
    cases result <;> rfl

theorem moves (h : Accounted limit s es accounts) (hmove : s.Moves a e t) :
    ∃ accounts', Accounted limit t (es ++ e.toList) accounts' := by
  cases hmove with
  | stays a e he =>
    refine ⟨accounts, h.others ?_ rfl rfl⟩
    rintro x hx
    obtain rfl | ⟨o, rfl⟩ := he
    · cases hx
    · cases hx
      rfl
  | refuses | clears | posts | wakes | givesUp | missesLock | collectsEarly | takes | drains
  | edits =>
    exact ⟨accounts, h.others (by simp [Event.isDeed]) rfl rfl⟩
  | copiesOut hphase hunposted hrequest hreply =>
    have hcopied := h.copied
    rw [hphase, show Phase.resting.inHand = [] from rfl, List.append_nil] at hcopied
    refine ⟨accounts, { h with fits := hunposted, copied := ?_, carried := ?_, replied := ?_ }⟩
    · rw [Event.filterMap_append_toList, hcopied]
      rfl
    · rw [Event.filterMap_append_toList, h.carried]
      exact List.append_nil _
    · rw [Event.filterMap_append_toList, ← h.replied]
      simp [Event.replied?]
  | resets hphase hunposted hrequest hreply =>
    exact ⟨accounts, h.frame (by simp [Event.isDeed]) rfl rfl rfl rfl rfl h.fits⟩
  | succeeds dataFree command payload x hphase hdispatch =>
    exact ⟨_, h.settle (.done h.lockLimit hdispatch) hphase (.ok x) rfl rfl rfl rfl rfl⟩
  | fails dataFree command payload f hphase hdispatch =>
    exact ⟨_, h.settle (.failed h.lockLimit hdispatch) hphase (.error f) rfl rfl rfl rfl rfl⟩
  | replies command code outcome howes =>
    have hunposted : s.server.unposted = some (command, code) := howes.unposted h.fits
    have hcopied := h.copied
    have hreplied := h.replied
    rw [howes.inHand] at hcopied
    rw [hunposted] at hreplied
    refine ⟨accounts, { h with fits := rfl, copied := ?_, carried := ?_, replied := ?_ }⟩
    · rw [Event.filterMap_append_toList, hcopied]
      exact List.append_nil _
    · rw [Event.filterMap_append_toList, h.carried]
      exact List.append_nil _
    · rw [Event.filterMap_append_toList, ← hreplied]
      exact List.append_nil _
  | defers command code outcome howes =>
    exact ⟨accounts, h.frame (by simp [Event.isDeed]) rfl rfl rfl rfl howes.inHand.symm trivial⟩
  | notifies outcome hphase =>
    refine ⟨accounts, h.frame (by simp [Event.isDeed]) rfl rfl rfl rfl ?_ trivial⟩
    rw [hphase]
    rfl

theorem disturb (h : Accounted limit s es accounts) (d : Disturbance ι) :
    ∃ accounts', Accounted limit (s.disturb d).1 (es ++ (s.disturb d).2.toList) accounts' := by
  cases d with
  | step a => exact h.moves (s.step_moves a)
  | meddle m => exact ⟨accounts, h.others (e := none) (by simp) rfl rfl⟩

theorem run (h : Accounted limit s es accounts) (ds : List (Disturbance ι)) :
    ∃ accounts', Accounted limit (s.runDisturbed ds).1 (es ++ (s.runDisturbed ds).2) accounts' := by
  induction ds generalizing s es accounts with
  | nil =>
    refine ⟨accounts, ?_⟩
    rwa [Exchange.runDisturbed, List.append_nil]
  | cons d ds ih =>
    obtain ⟨accounts₁, h₁⟩ := h.disturb d
    obtain ⟨accounts₂, h₂⟩ := ih h₁
    refine ⟨accounts₂, ?_⟩
    rwa [List.append_assoc] at h₂

/-- Every account was answered, but for the last one of a server that owes a reply. -/
theorem total (h : Accounted limit s es accounts) :
    (es.filterMap Event.replied?).length + s.server.unposted.toList.length =
      s.server.served + s.server.failed := by
  have hsplit := List.length_eq_countP_add_countP (l := accounts) fun a => a.result.isOk
  rw [← List.length_append, h.replied, List.length_map, h.served, h.failed]
  simpa using hsplit

end Accounted

namespace Exchange

variable [ByteImage ι] {s t : Exchange ι} {a : Action ι} {e : Option (Event ι)}
  {command code : Int32}

/-- A step while a reply is owed: the reply is written, or the server does nothing. -/
inductive Holds (s : Exchange ι) (command code : Int32) (byServer : Bool) (t : Exchange ι)
    (e : Option (Event ι)) : Prop where
  | answers (he : e = some (.replied command code))
      (hmailbox : t.mailbox = Mailbox.postReply command code) (hdata : t.data = s.data)
      (hserver : t.server = { s.server with unposted := none })
  | waits (he : ∀ x ∈ e, x.isDeed = false) (hserver : t.server = s.server)
      (hshared : byServer = true → t.mailbox = s.mailbox ∧ t.data = s.data)

theorem Moves.holds (hmove : s.Moves a e t) (hfits : s.phase.Fits s.server.unposted)
    (hunposted : s.server.unposted = some (command, code)) :
    s.Holds command code (Disturbance.step a).byServer t e := by
  have hbusy : s.server.unposted ≠ none := by simp [hunposted]
  cases hmove with
  | stays a e he =>
    refine .waits ?_ rfl fun _ => ⟨rfl, rfl⟩
    rintro x hx
    obtain rfl | ⟨o, rfl⟩ := he
    · cases hx
    · cases hx
      rfl
  | refuses | clears | posts | wakes | givesUp | missesLock | collectsEarly | takes | drains
  | edits =>
    exact .waits (by simp [Event.isDeed]) rfl fun h => by cases h
  | copiesOut hphase hnone | resets hphase hnone => exact absurd hnone hbusy
  | succeeds dataFree command' payload x hphase | fails dataFree command' payload f hphase =>
    rw [hphase] at hfits
    exact absurd hfits hbusy
  | replies command' code' outcome howes =>
    obtain ⟨rfl, rfl⟩ : command' = command ∧ code' = code := by
      simpa [hunposted, eq_comm] using howes.unposted hfits
    exact .answers rfl rfl rfl rfl
  | defers command' code' outcome howes =>
    exact .waits (by simp [Event.isDeed]) rfl fun _ => ⟨rfl, rfl⟩
  | notifies outcome hphase =>
    exact .waits (by simp [Event.isDeed]) rfl fun _ => ⟨rfl, rfl⟩

theorem holds_disturb (hfits : s.phase.Fits s.server.unposted)
    (hunposted : s.server.unposted = some (command, code)) (d : Disturbance ι) :
    s.Holds command code d.byServer (s.disturb d).1 (s.disturb d).2 := by
  cases d with
  | step a => exact (s.step_moves a).holds hfits hunposted
  | meddle m => exact .waits (by simp [disturb]) rfl fun h => by cases h

/-- Without a disturbance in between, the sections of a turn are one cycle. -/
theorem runDisturbed_turn (hphase : s.phase = .resting) (t : Server.Turn ι) :
    let r := s.runDisturbed (Disturbance.turn t)
    let c := s.server.poll t.mailbox t.data t.locks
    r.1.server = c.server ∧ r.1.mailbox = c.mailbox ∧ r.1.data = c.data ∧
      r.1.phase = .resting ∧ r.2.getLast? = some (.polled c.outcome) := by
  let s' : Exchange ι := { s with mailbox := t.mailbox, data := t.data }
  obtain ⟨hstate, hlast⟩ := s'.run_cycle hphase t.locks
  have hrun : s.runDisturbed (Disturbance.turn t) = s'.run (cycle t.locks) := rfl
  intro r c
  have hr : r = s'.run (cycle t.locks) := hrun
  rw [hr, hstate]
  exact ⟨rfl, rfl, rfl, rfl, hlast⟩

end Exchange

/-- A server that owes the reply to an account. It does nothing but write that reply, and the cycle
that does so ends as served or with the failure of the request. -/
structure Exchange.Owing [ByteImage ι] (s : Exchange ι) (a : Account ι) : Prop where
  holds (d : Disturbance ι) :
    s.Holds a.reply.1 a.reply.2 d.byServer (s.disturb d).1 (s.disturb d).2
  poll (mailbox : Mailbox) (data : ι) (locks : Server.Locks) :
    s.server.poll mailbox data locks =
      if locks.reply then
        ⟨{ s.server with unposted := none }, Mailbox.postReply a.reply.1 a.reply.2, data, true,
          a.lateOutcome⟩
      else ⟨s.server, mailbox, data, false, .error (.transport (.lockTimeout s.server.lockLimit))⟩

theorem Accounted.owing [ByteImage ι] {limit : Duration} {s : Exchange ι} {es : List (Event ι)}
    {accounts : List (Account ι)} (h : Accounted limit s es accounts) {a : Account ι}
    (ha : a ∈ accounts) (hunposted : s.server.unposted = some a.reply) : s.Owing a where
  holds := Exchange.holds_disturb h.fits hunposted
  poll mailbox data locks := by
    rw [Server.poll, hunposted]
    show s.server.finish mailbox data locks.reply a.reply.1 a.reply.2
      (Server.deferredOutcome a.reply.1 a.reply.2) = _
    rw [(h.settled a ha).deferredOutcome, Server.finish, Server.acquire]
    cases locks.reply <;> rfl

/-- Over any run of a server that is disturbed at any section, each request that was copied out is
carried out and counted once, as one of the accounts, or is the request in hand. The replies that
were written are those of the accounts in their order, but for the last one while it is owed, so
there are as many as the counters count. Cycles with nobody in between are runs of this kind. -/
theorem replies_accounted [ByteImage ι] (u : Setup ι) (ds : List (Disturbance ι)) :
    let s := (u.start.runDisturbed ds).1
    let es := (u.start.runDisturbed ds).2
    (∃ accounts, Accounted u.lockLimit s es accounts ∧
      ∀ command code, s.server.unposted = some (command, code) →
        ∃ earlier a, accounts = earlier ++ [a] ∧ a.reply = (command, code) ∧ s.Owing a) ∧
    (es.filterMap Event.replied?).length + s.server.unposted.toList.length =
      s.server.served + s.server.failed ∧
    (s.phase = .resting → ∀ t : Server.Turn ι,
      let r := s.runDisturbed (Disturbance.turn t)
      let c := s.server.poll t.mailbox t.data t.locks
      r.1.server = c.server ∧ r.1.mailbox = c.mailbox ∧ r.1.data = c.data ∧
        r.1.phase = .resting ∧ r.2.getLast? = some (.polled c.outcome)) := by
  intro s es
  obtain ⟨accounts, h⟩ := (Accounted.start u).run ds
  refine ⟨⟨accounts, h, fun command code hunposted => ?_⟩, h.total, Exchange.runDisturbed_turn⟩
  obtain ⟨earlier, a, rfl, hreply⟩ := h.owed hunposted
  have howed : s.server.unposted = some a.reply := hunposted.trans (congrArg some hreply.symm)
  exact ⟨earlier, a, rfl, hreply, h.owing (by simp) howed⟩

/-- A bit is inverted and its reply cannot be written, in this cycle and in the next one. Meanwhile
somebody else puts another request into the mailbox. -/
def overdueReply : List (Disturbance Image) :=
  [.meddle (Mailbox.postRequest 5 [1, 1, 0]), .step (.copyOut true), .step (.carryOut true),
    .step (.writeReply false), .meddle (Mailbox.postRequest 2 []), .step (.copyOut true),
    .step (.writeReply false)]

theorem replies_accounted_overdue :
    let s := (Setup.blank.start.runDisturbed overdueReply).1
    let es := (Setup.blank.start.runDisturbed overdueReply).2
    s.server.unposted = some (5, 0) ∧ (es.filterMap Event.replied?).length + 1 = s.server.served ∧
      ∃ a : Account Image, a.reply = (5, 0) ∧ s.Owing a := by
  intro s es
  obtain ⟨⟨accounts, -, howing⟩, htotal, -⟩ := replies_accounted Setup.blank overdueReply
  obtain ⟨-, a, -, hreply, ha⟩ := howing 5 0 rfl
  exact ⟨rfl, htotal, a, hreply, ha⟩

end FieldImage
