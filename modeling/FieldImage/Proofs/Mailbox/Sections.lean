import FieldImage.Client
import FieldImage.Proofs.Fault
import FieldImage.Server

/-! What the sections of a client and of a server find in a mailbox and leave there. -/

namespace FieldImage

namespace Mailbox

def isBusy (m : Mailbox) : Bool := m.requestPending || m.replyPending

@[simp] theorem requestPending_postReply (command code : Int32) :
    (postReply command code).requestPending = false := rfl

@[simp] theorem replyPending_postReply (command code : Int32) :
    (postReply command code).replyPending = true := rfl

@[simp] theorem isBusy_taken (m : Mailbox) :
    Mailbox.isBusy { m with reply := 0 } = m.requestPending := by
  simp [isBusy, requestPending, replyPending]

theorem isBusy_eq_false {m : Mailbox} :
    m.isBusy = false ↔ m.requestPending = false ∧ m.replyPending = false := by
  simp [isBusy]

theorem pad_take {values : List Int32} (h : values.length ≤ Command.capacity) :
    (pad values).toList.take values.length = values := by
  apply List.ext_getElem
  · simp [h]
  · intro i h1 h2
    simp [pad, h2]

theorem payload?_postRequest {values : List Int32} (h : values.length ≤ Command.capacity)
    (command : Int32) : (postRequest command values).payload? = some values := by
  have hcap : Command.capacity = 100 := rfl
  have hlen : (Int32.ofNat values.length).toInt = values.length :=
    Int32.toInt_ofNat_of_lt (by omega)
  have h0 : (0 : Int32) ≤ Int32.ofNat values.length := by
    rw [Int32.le_iff_toInt_le, hlen]
    simp
  have hle : (values.length : Int) ≤ Command.capacity := by omega
  simp only [payload?, postRequest, hlen, h0, hle, and_self, if_true, Int.toNat_natCast,
    pad_take h]

theorem payload?_postReply (command code : Int32) :
    (postReply command code).payload? = some [code] := by
  have hlen : [code].length ≤ Command.capacity := by simp [Command.capacity]
  exact payload?_postRequest hlen command

theorem incoming_of_request {m : Mailbox} (hreq : m.requestPending = true)
    (hrep : m.replyPending = false) : m.incoming = .request m.command m.payload? := by
  simp [incoming, hreq, hrep]

theorem incoming_of_no_request {m : Mailbox} (hreq : m.requestPending = false) :
    m.incoming = .nothing := by
  simp [incoming, hreq]

theorem incoming_of_conflict {m : Mailbox} (hreq : m.requestPending = true)
    (hrep : m.replyPending = true) : m.incoming = .conflict m.command := by
  simp [incoming, hreq, hrep]

end Mailbox

/-- An address that fails its checks fails them as an address. -/
theorem Address.validate_eq_error {a : Address} {allowed : List Area} {max width : UInt32}
    {f : Fault} (h : a.validate allowed max width = .error f) : ∃ cause, f = .address cause := by
  obtain h | ⟨-, -, h⟩ := bind_eq_error.mp h
  · simp only [checkBit] at h
    split at h <;> cases h
    exact ⟨_, rfl⟩
  · obtain h | ⟨-, -, h⟩ := bind_eq_error.mp h
    · simp only [checkArea] at h
      split at h <;> cases h
      exact ⟨_, rfl⟩
    · simp only [checkByte] at h
      split at h <;> cases h
      exact ⟨_, rfl⟩

namespace Client

theorem forM_eq_error {c : Client} {as : List Address} {f : Fault}
    (h : as.forM (c.checkAddress 1) = .error f) : ∃ cause, f = .address cause := by
  induction as with
  | nil => cases h
  | cons a as ih =>
    obtain hcheck | ⟨-, -, hrest⟩ := bind_eq_error.mp h
    · exact Address.validate_eq_error hcheck
    · exact ih hrest

theorem prevalidate_eq_error {c : Client} {command : Command} {f : Fault}
    (h : c.prevalidate command = .error f) : ∃ cause, f = .address cause := by
  cases command with
  | exit | ping => cases h
  | setBits as => exact forM_eq_error h
  | _ => exact Address.validate_eq_error h

/-- A command that may not be posted has an address that the image lacks, or no payload. -/
theorem prepare_eq_error {c : Client} {command : Command} {f : Fault}
    (h : c.prepare command = .error f) :
    (∃ cause, f = .address cause) ∨ command.encode = .error f := by
  obtain hprevalidate | ⟨-, -, hencode⟩ := bind_eq_error.mp h
  · exact .inl (prevalidate_eq_error hprevalidate)
  · exact .inr hencode

theorem encode_of_prepare {c : Client} {command : Command} {values : List Int32}
    (h : c.prepare command = .ok values) : command.encode = .ok values := by
  obtain ⟨-, -, hencode⟩ := bind_eq_ok.mp h
  exact hencode

/-- A post section with this gate finds the mailbox idle, or holding the late reply that it throws
away. -/
def Clears (gate : Option Int32) (m : Mailbox) : Prop :=
  m.isBusy = false ∨
    (gate = some m.command ∧ m.requestPending = false ∧ m.replyPending = true)

instance (gate : Option Int32) (m : Mailbox) : Decidable (Clears gate m) :=
  inferInstanceAs (Decidable (_ ∨ _))

/-- The gate opens and the mailbox is idle. -/
theorem settle_of_clears {gate : Option Int32} {m : Mailbox} (h : Clears gate m) :
    (settle gate m).1 = none ∧ (settle gate m).2.isBusy = false := by
  cases gate with
  | none =>
    rcases h with h | ⟨h, -, -⟩
    · exact ⟨rfl, h⟩
    · cases h
  | some id =>
    rcases h with h | ⟨h, hreq, hrep⟩
    · obtain ⟨hreq, hrep⟩ := Mailbox.isBusy_eq_false.mp h
      simp [settle, hreq, hrep, h]
    · cases h
      simp [settle, hreq, hrep]

/-- Nothing happens to a busy mailbox that holds no late reply of this client. -/
theorem settle_of_not_clears {gate : Option Int32} {m : Mailbox} (h : ¬Clears gate m) :
    settle gate m = (gate, m) := by
  cases gate with
  | none => rfl
  | some id =>
    simp only [Clears, not_or, Bool.not_eq_false, Option.some.injEq] at h
    obtain ⟨hbusy, hlate⟩ := h
    have hlate' : ¬((!m.requestPending && m.replyPending && m.command == id) = true) := by
      simp only [Bool.and_eq_true, Bool.not_eq_true', beq_iff_eq]
      rintro ⟨⟨hreq, hrep⟩, rfl⟩
      exact hlate ⟨rfl, hreq, hrep⟩
    have hidle : ¬((!m.requestPending && !m.replyPending) = true) := by
      simp only [Bool.and_eq_true, Bool.not_eq_true']
      rintro ⟨hreq, hrep⟩
      simp [Mailbox.isBusy, hreq, hrep] at hbusy
    simp only [settle, if_neg hlate', if_neg hidle]

theorem post_of_clears {c : Client} {m : Mailbox} (h : Clears c.gate m) (replyFree : Bool)
    (id : Int32) (values : List Int32) :
    c.post m replyFree id values =
      if replyFree then ⟨none, Mailbox.postRequest id values, .ok ()⟩
      else ⟨none, (settle c.gate m).2, .error (.transport (.lockTimeout c.limits.lock))⟩ := by
  obtain ⟨hgate, hidle⟩ := settle_of_clears h
  have hidle' : ((settle c.gate m).2.requestPending || (settle c.gate m).2.replyPending) = false :=
    hidle
  simp only [post, hidle', hgate]
  cases replyFree <;> rfl

theorem post_of_not_clears {c : Client} {m : Mailbox} (h : ¬Clears c.gate m) (replyFree : Bool)
    (id : Int32) (values : List Int32) :
    c.post m replyFree id values =
      ⟨c.gate, m, .error (.protocol (.notReady m.requestPending m.replyPending))⟩ := by
  have hbusy : m.isBusy = true := by
    cases hb : m.isBusy with
    | false => exact absurd (.inl hb) h
    | true => rfl
  have hbusy' : (m.requestPending || m.replyPending) = true := hbusy
  simp only [post, settle_of_not_clears h, hbusy', if_true]

theorem collect_reply {m : Mailbox} (hreq : m.requestPending = false)
    (hrep : m.replyPending = true) :
    collect m = (.ok (m.command, m.payload?), { m with reply := 0 }) := by
  simp [collect, hreq, hrep]

theorem collect_early {m : Mailbox} (h : m.requestPending = true ∨ m.replyPending = false) :
    collect m =
      (.error (.protocol (.outOfSequence m.requestPending m.replyPending)), m) := by
  rcases h with h | h <;> simp [collect, h]

/-- What a reply with one code says to the command that it echoes. -/
theorem judge_echo (command : Command) (code : Int32) :
    judge command command.id (some [code]) =
      if code = command.success then .ok code
      else if code = Command.failed then .error (.protocol (.commandFailed command.id code))
      else .error (.protocol (.unexpectedReply command.id code)) := by
  simp only [judge, ne_eq, not_true_eq_false, if_false]
  rfl

/-- A reply that is there has a fault of its own, and says nothing of the flags. -/
theorem judge_eq_error {command : Command} {echo : Int32} {payload : Option (List Int32)} {f : Fault}
    (h : judge command echo payload = .error f) (request reply : Bool) :
    f ≠ .protocol (.notReady request reply) ∧ f ≠ .protocol (.outOfSequence request reply) := by
  simp only [judge] at h
  split at h
  · cases h
    simp
  · split at h
    · cases h
      simp
    · split at h
      · cases h
      · split at h <;> cases h <;> simp
    · cases h
      simp

theorem judge_ne_outOfSequence (command : Command) (echo : Int32) (payload : Option (List Int32))
    (request reply : Bool) :
    judge command echo payload ≠ .error (.protocol (.outOfSequence request reply)) :=
  fun h => (judge_eq_error h request reply).2 rfl

end Client

end FieldImage
