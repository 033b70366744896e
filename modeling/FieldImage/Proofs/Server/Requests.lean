import FieldImage.Proofs.Command.Checks
import FieldImage.Proofs.Command.RoundTrip
import FieldImage.Proofs.Mailbox.Sections
import FieldImage.Proofs.Server.Execution

/-! What a cycle of the server makes of a mailbox, whatever other processes put there. A request is
carried out when its length is within the mailbox, its payload reads as a command and the process
data take the command; every other request is answered with the code for failure and changes
nothing. -/

namespace FieldImage

variable {ι : Type} [ByteImage ι]

namespace Mailbox

/-- The mailbox holds a request for a command that the process data take. -/
structure Requests (m : Mailbox) (data : ι) (c : Command) : Prop where
  nonneg : 0 ≤ m.length.toInt
  le : m.length.toInt ≤ 100
  decodes : Command.decode m.command (m.values.toList.take m.length.toInt.toNat) = .ok c
  checks : c.check data = .ok ()

/-- The first thing that is wrong with a request: its length, its payload or an address. -/
inductive Refused (m : Mailbox) (data : ι) : Fault → Prop where
  | length (h : m.length.toInt < 0 ∨ 100 < m.length.toInt) :
      Refused m data (.protocol (.malformed .requestLength))
  | payload (f : Fault) (hnonneg : 0 ≤ m.length.toInt) (hle : m.length.toInt ≤ 100)
      (h : Command.decode m.command (m.values.toList.take m.length.toInt.toNat) = .error f) :
      Refused m data f
  | address (c : Command) (f : Fault) (hnonneg : 0 ≤ m.length.toInt) (hle : m.length.toInt ≤ 100)
      (hdecode : Command.decode m.command (m.values.toList.take m.length.toInt.toNat) = .ok c)
      (h : c.check data = .error f) : Refused m data f

theorem payload?_of_within {m : Mailbox} (hnonneg : 0 ≤ m.length.toInt)
    (hle : m.length.toInt ≤ 100) :
    m.payload? = some (m.values.toList.take m.length.toInt.toNat) := by
  rw [payload?, if_pos ⟨Int32.le_iff_toInt_le.mpr hnonneg, hle⟩]

theorem payload?_of_outside {m : Mailbox} (h : m.length.toInt < 0 ∨ 100 < m.length.toInt) :
    m.payload? = none := by
  rw [payload?, if_neg]
  rintro ⟨hnonneg, hle⟩
  have hzero : 0 ≤ m.length.toInt := Int32.le_iff_toInt_le.mp hnonneg
  have hcapacity : m.length.toInt ≤ 100 := hle
  omega

theorem requests_or_refused (m : Mailbox) (data : ι) :
    (∃ c, m.Requests data c) ∨ ∃ f, m.Refused data f := by
  by_cases hwithin : 0 ≤ m.length.toInt ∧ m.length.toInt ≤ 100
  · obtain ⟨hnonneg, hle⟩ := hwithin
    cases hdecode : Command.decode m.command (m.values.toList.take m.length.toInt.toNat) with
    | error f => exact .inr ⟨f, .payload f hnonneg hle hdecode⟩
    | ok c =>
      cases hcheck : c.check data with
      | error f => exact .inr ⟨f, .address c f hnonneg hle hdecode hcheck⟩
      | ok u => exact .inl ⟨c, hnonneg, hle, hdecode, hcheck⟩
  · exact .inr ⟨_, .length (by omega)⟩

/-- A posted request reads as the command that it was posted for. -/
theorem decode_postRequest {c : Command} {values : List Int32} (hencode : c.encode = .ok values) :
    let m := postRequest c.id values
    0 ≤ m.length.toInt ∧ m.length.toInt ≤ 100 ∧
      Command.decode m.command (m.values.toList.take m.length.toInt.toNat) = .ok c := by
  have hfits : values.length ≤ 100 := Command.length_encode hencode
  have hlength : (postRequest c.id values).length.toInt = values.length :=
    Int32.toInt_ofNat_of_lt (by omega)
  refine ⟨by omega, by omega, ?_⟩
  rw [hlength, Int.toNat_natCast]
  show Command.decode c.id ((pad values).toList.take values.length) = .ok c
  rw [pad_take hfits, Command.decode_encode hencode]

theorem requests_postRequest {c : Command} {values : List Int32} {data : ι}
    (hencode : c.encode = .ok values) (hcheck : c.check data = .ok ()) :
    (postRequest c.id values).Requests data c := by
  obtain ⟨hnonneg, hle, hdecode⟩ := decode_postRequest hencode
  exact ⟨hnonneg, hle, hdecode, hcheck⟩

theorem refused_postRequest {c : Command} {values : List Int32} {data : ι} {f : Fault}
    (hencode : c.encode = .ok values) (hcheck : c.check data = .error f) :
    (postRequest c.id values).Refused data f := by
  obtain ⟨hnonneg, hle, hdecode⟩ := decode_postRequest hencode
  exact .address c f hnonneg hle hdecode hcheck

end Mailbox

/-- Only an encoded command is posted, so what the server decodes is what was sent. -/
theorem dispatch_of_encode {s : Server} {dataFree : Bool} {data : ι} {c : Command}
    {values : List Int32} (hencode : c.encode = .ok values) {e : Execution ι}
    (h : s.dispatch dataFree data c.id (some values) = .ok e) :
    c.apply data = .ok e.data ∧ e.code = c.success := by
  obtain ⟨c', hdecode, happly, hcode⟩ := Server.dispatch_eq_ok h
  have hsame : c' = c := by
    rw [Server.decodeRequest, Command.decode_encode hencode] at hdecode
    exact (Except.ok.inj hdecode).symm
  rw [hsame] at happly hcode
  exact ⟨happly, hcode⟩

namespace Server

theorem carryOut_free (s : Server) {data after : ι} {c : Command} (h : c.apply data = .ok after) :
    s.carryOut true data c = .ok ⟨c.success, after, c = .exit⟩ := by
  cases c with
  | exit | ping =>
    cases h
    rfl
  | _ =>
    simp only [carryOut, h]
    rfl

theorem carryOut_eq_error {s : Server} {data : ι} {c : Command} {f : Fault}
    (h : c.apply data = .error f) : s.carryOut true data c = .error f := by
  cases c with
  | exit | ping => cases h
  | _ =>
    simp only [carryOut, h]
    rfl

theorem dispatch_of_requests (s : Server) {m : Mailbox} {data : ι} {c : Command}
    (h : m.Requests data c) :
    ∃ after, c.apply data = .ok after ∧
      s.dispatch true data m.command m.payload? = .ok ⟨c.success, after, c = .exit⟩ := by
  obtain ⟨after, happly⟩ := Command.check_eq_ok_iff.mp h.checks
  refine ⟨after, happly, ?_⟩
  rw [dispatch, Mailbox.payload?_of_within h.nonneg h.le, decodeRequest, h.decodes]
  exact s.carryOut_free happly

theorem dispatch_of_refused (s : Server) {m : Mailbox} {data : ι} {f : Fault}
    (h : m.Refused data f) : s.dispatch true data m.command m.payload? = .error f := by
  cases h with
  | length h =>
    rw [dispatch, Mailbox.payload?_of_outside h]
    rfl
  | payload f hnonneg hle h =>
    rw [dispatch, Mailbox.payload?_of_within hnonneg hle, decodeRequest, h]
    rfl
  | address c f hnonneg hle hdecode h =>
    rw [dispatch, Mailbox.payload?_of_within hnonneg hle, decodeRequest, hdecode]
    exact carryOut_eq_error (Command.check_eq_error_iff.mp h)

variable {s : Server} {m : Mailbox} {data : ι}

theorem poll_of_conflict (hunposted : s.unposted = none) (hrequest : m.requestPending = true)
    (hreply : m.replyPending = true) :
    s.poll m data ⟨true, true, true⟩ =
      ⟨{ s with resets := s.resets + 1 }, Mailbox.idle, data, false, .ok (.reset m.command)⟩ := by
  simp only [poll, hunposted, Mailbox.incoming_of_conflict hrequest hreply, if_true]

theorem poll_of_no_request (hunposted : s.unposted = none) (hrequest : m.requestPending = false) :
    s.poll m data ⟨true, true, true⟩ = ⟨s, m, data, false, .ok .idle⟩ := by
  simp only [poll, hunposted, Mailbox.incoming_of_no_request hrequest, if_true]

theorem poll_of_requests (hunposted : s.unposted = none) (hrequest : m.requestPending = true)
    (hreply : m.replyPending = false) {c : Command} (h : m.Requests data c) :
    ∃ after, c.apply data = .ok after ∧
      s.poll m data ⟨true, true, true⟩ =
        ⟨{ s with
          served := s.served + 1
          exitRequested := s.exitRequested || c = .exit
          unposted := none },
          Mailbox.postReply m.command c.success, after, true, .ok (.served m.command)⟩ := by
  obtain ⟨after, happly, hdispatch⟩ := s.dispatch_of_requests h
  refine ⟨after, happly, ?_⟩
  simp only [poll, hunposted, Mailbox.incoming_of_request hrequest hreply, serve, hdispatch]
  rfl

theorem poll_of_refused (hunposted : s.unposted = none) (hrequest : m.requestPending = true)
    (hreply : m.replyPending = false) {f : Fault} (h : m.Refused data f) :
    s.poll m data ⟨true, true, true⟩ =
      ⟨{ s with failed := s.failed + 1, unposted := none },
        Mailbox.postReply m.command Command.failed, data, true, .error f⟩ := by
  simp only [poll, hunposted, Mailbox.incoming_of_request hrequest hreply, serve,
    s.dispatch_of_refused h]
  rfl

/-- A cycle with no reply left over and all locks free clears a mailbox with both flags up, answers
a request, and leaves every other mailbox alone. A request for a command that the process data take
is carried out and answered with the success code of the command. Any other changes neither the
process data nor the exit flag, is answered with the code for failure, and its fault is the outcome
of the cycle. -/
theorem poll_any_mailbox (s : Server) (m : Mailbox) (data : ι) (hunposted : s.unposted = none) :
    (m.request ≠ 0 → m.reply ≠ 0 → s.poll m data ⟨true, true, true⟩ =
      ⟨{ s with resets := s.resets + 1 }, Mailbox.idle, data, false, .ok (.reset m.command)⟩) ∧
    (m.request ≠ 0 → m.reply = 0 →
      (∀ c, m.Requests data c → ∃ after, c.apply data = .ok after ∧
        s.poll m data ⟨true, true, true⟩ =
          ⟨{ s with
            served := s.served + 1
            exitRequested := s.exitRequested || c = .exit
            unposted := none },
            Mailbox.postReply m.command c.success, after, true, .ok (.served m.command)⟩) ∧
      ((¬∃ c, m.Requests data c) → ∃ f, m.Refused data f ∧
        s.poll m data ⟨true, true, true⟩ =
          ⟨{ s with failed := s.failed + 1, unposted := none },
            Mailbox.postReply m.command Command.failed, data, true, .error f⟩)) ∧
    (m.request = 0 → s.poll m data ⟨true, true, true⟩ = ⟨s, m, data, false, .ok .idle⟩) := by
  have hraised (flag : Int32) : (flag != 0) = true ↔ flag ≠ 0 := bne_iff_ne
  have hlowered (flag : Int32) : (flag != 0) = false ↔ flag = 0 := bne_eq_false_iff_eq
  refine ⟨fun hrequest hreply => ?_, fun hrequest hreply => ⟨fun c hc => ?_, fun hnone => ?_⟩,
    fun hrequest => ?_⟩
  · exact poll_of_conflict hunposted ((hraised _).mpr hrequest) ((hraised _).mpr hreply)
  · exact poll_of_requests hunposted ((hraised _).mpr hrequest) ((hlowered _).mpr hreply) hc
  · obtain ⟨f, hf⟩ := (m.requests_or_refused data).resolve_left hnone
    exact ⟨f, hf,
      poll_of_refused hunposted ((hraised _).mpr hrequest) ((hlowered _).mpr hreply) hf⟩
  · exact poll_of_no_request hunposted ((hlowered _).mpr hrequest)

/-- A list of two bits, the second of them in the memory area, under a flag that no client raises. -/
def bitList (byte : Int32) : Mailbox := ⟨6, Mailbox.pad [1, 0, 0, 2, byte, 7], 6, -3, 0⟩

/-- Both bits are set when the image has them. There is no byte -1, and then the first bit is not
set either. -/
theorem poll_any_mailbox_bitList :
    let s := Server.new (.ofSecs 1)
    let data := ImageView.mk 4 (Vector.replicate 12 0)
    s.unposted = none ∧
      s.poll (bitList 3) data ⟨true, true, true⟩ =
        ⟨⟨.ofSecs 1, false, 1, 0, 0, none⟩, Mailbox.postReply 6 0,
          ⟨4, #v[0, 0, 0, 0, 0x01, 0, 0, 0, 0, 0, 0, 0x80]⟩, true, .ok (.served 6)⟩ ∧
      ∃ f, (bitList (-1)).Refused data f ∧
        s.poll (bitList (-1)) data ⟨true, true, true⟩ =
          ⟨⟨.ofSecs 1, false, 0, 1, 0, none⟩, Mailbox.postReply 6 (-1), data, true, .error f⟩ := by
  intro s data
  refine ⟨rfl, ?_, ?_⟩
  · have hboth : (Command.setBits [⟨.output, 0, 0⟩, ⟨.memory, 3, 7⟩]).apply data =
        .ok ⟨4, #v[0, 0, 0, 0, 0x01, 0, 0, 0, 0, 0, 0, 0x80]⟩ := congrArg Except.ok (by decide)
    obtain ⟨after, happly, hpoll⟩ :=
      ((poll_any_mailbox s (bitList 3) data rfl).2.1 (by decide) rfl).1 _
        ⟨by decide, by decide, rfl, Command.check_eq_ok_iff.mpr ⟨_, hboth⟩⟩
    obtain rfl := Except.ok.inj (hboth.symm.trans happly)
    exact hpoll
  · have hnone : ¬∃ c, (bitList (-1)).Requests data c := by
      rintro ⟨c, hc⟩
      have hdecode : Command.decode 6 [1, 0, 0, 2, -1, 7] =
          .ok (.setBits [⟨.output, 0, 0⟩, ⟨.memory, 0xFFFFFFFF, 7⟩]) := rfl
      obtain rfl := Except.ok.inj (hdecode.symm.trans hc.decodes)
      cases hc.checks
    exact ((poll_any_mailbox s (bitList (-1)) data rfl).2.1 (by decide) rfl).2 hnone

end Server

end FieldImage
