import FieldImage.Proofs.Server.Requests

/-! What a client finds out before it posts a command is what the server finds when it carries the
command out: the same commands pass, and the others fail with the same fault. A request that a
client posts can then fail for one reason only, that the server cannot have the data lock. -/

namespace FieldImage

theorem Client.post_eq_ok {c : Client} {m : Mailbox} {replyFree : Bool} {id : Int32}
    {values : List Int32} (h : (c.post m replyFree id values).result = .ok ()) :
    (c.post m replyFree id values).mailbox = Mailbox.postRequest id values := by
  by_cases hclears : Clears c.gate m
  · rw [post_of_clears hclears] at h ⊢
    cases replyFree with
    | true => rfl
    | false => cases h
  · rw [post_of_not_clears hclears] at h
    cases h

namespace Server

variable {ι : Type} [ByteImage ι]

/-- The reply to a request is in the mailbox, or the server keeps it until it can be written. -/
def Cycle.Answers (c : Cycle ι) (command code : Int32) : Prop :=
  c.server.unposted = none ∧ c.mailbox = Mailbox.postReply command code ∨
    c.server.unposted = some (command, code)

theorem answers_serve (s : Server) (m : Mailbox) (data : ι) (locks : Locks) (command : Int32)
    (payload : Option (List Int32)) :
    (s.serve m data locks command payload).Answers command
      (replyCode (s.dispatch locks.data data command payload)) := by
  simp only [serve]
  cases s.dispatch locks.data data command payload with
  | ok e =>
    cases hreply : locks.reply with
    | true => exact .inl ⟨rfl, rfl⟩
    | false => exact .inr rfl
  | error f =>
    cases hreply : locks.reply with
    | true => exact .inl ⟨rfl, rfl⟩
    | false => exact .inr rfl

/-- A request for a command that the process data take is answered with the success code, unless
the data lock cannot be had. -/
theorem answers_poll {s : Server} {data : ι} {c : Command} {values : List Int32}
    (hunposted : s.unposted = none) (hencode : c.encode = .ok values)
    (hcheck : c.check data = .ok ()) (dataFree replyFree : Bool) :
    (s.poll (Mailbox.postRequest c.id values) data ⟨true, dataFree, replyFree⟩).Answers c.id
        c.success ∨
      dataFree = false ∧
        (s.poll (Mailbox.postRequest c.id values) data ⟨true, dataFree, replyFree⟩).Answers c.id
          Command.failed := by
  have hpayload : (Mailbox.postRequest c.id values).payload? = some values :=
    Mailbox.payload?_postRequest (Command.length_encode hencode) c.id
  have hincoming : (Mailbox.postRequest c.id values).incoming = .request c.id (some values) := by
    rw [Mailbox.incoming_of_request rfl rfl, hpayload]
    rfl
  have hserve : s.poll (Mailbox.postRequest c.id values) data ⟨true, dataFree, replyFree⟩ =
      s.serve (Mailbox.postRequest c.id values) data ⟨true, dataFree, replyFree⟩ c.id
        (some values) := by
    simp only [poll, hunposted, hincoming, if_true]
  have hanswers := s.answers_serve (Mailbox.postRequest c.id values) data
    ⟨true, dataFree, replyFree⟩ c.id (some values)
  rw [hserve]
  cases hdispatch : s.dispatch dataFree data c.id (some values) with
  | ok e =>
    left
    rwa [hdispatch, replyCode, (dispatch_of_encode hencode hdispatch).2] at hanswers
  | error f =>
    right
    rw [hdispatch] at hanswers
    refine ⟨?_, hanswers⟩
    cases dataFree with
    | false => rfl
    | true =>
      obtain ⟨after, -, hdone⟩ := s.dispatch_of_requests
        (Mailbox.requests_postRequest hencode hcheck)
      rw [hpayload] at hdone
      exact absurd (hdispatch.symm.trans hdone) (by simp)

end Server

/-- A client lets a command pass exactly when the command that the server reads from its payload is
one that the process data take, and otherwise gives the fault that carrying it out would give. So a
request that a client posts is answered with the success code of its command unless the data lock
cannot be had, and one that a client refuses would have been refused by the server. -/
theorem prevalidation_exact {c : Client} {v : ImageView} (hsize : c.areaSize = v.areaSize)
    {command : Command} {values : List Int32} (hencode : command.encode = .ok values) :
    (c.prevalidate command = .ok () ↔
      ∃ w, Command.decode command.id values >>= Command.apply v = .ok w) ∧
    (∀ f, c.prevalidate command = .error f ↔
      Command.decode command.id values >>= Command.apply v = .error f) ∧
    (∀ f, c.prevalidate command = .error f → ∃ cause, f = .address cause) ∧
    ∀ s : Server, s.unposted = none →
      (∀ m gateFree, c.prevalidate command = .ok () →
        (c.post m gateFree command.id values).result = .ok () → ∀ dataFree replyFree,
          (s.poll (c.post m gateFree command.id values).mailbox v
            ⟨true, dataFree, replyFree⟩).Answers command.id command.success ∨
          dataFree = false ∧ (s.poll (c.post m gateFree command.id values).mailbox v
            ⟨true, dataFree, replyFree⟩).Answers command.id Command.failed) ∧
      ∀ f, c.prevalidate command = .error f →
        s.poll (Mailbox.postRequest command.id values) v ⟨true, true, true⟩ =
          ⟨{ s with failed := s.failed + 1, unposted := none },
            Mailbox.postReply command.id Command.failed, v, true, .error f⟩ := by
  have hexecute : Command.decode command.id values >>= Command.apply v = command.apply v := by
    rw [Command.decode_encode hencode]
    rfl
  have hcheck := Client.prevalidate_eq hsize command
  rw [hexecute, hcheck]
  refine ⟨Command.check_eq_ok_iff, fun f => Command.check_eq_error_iff, fun f hf => ?_,
    fun s hunposted => ⟨fun m gateFree hok hpost dataFree replyFree => ?_, fun f hf => ?_⟩⟩
  · exact Client.prevalidate_eq_error (hcheck.trans hf)
  · rw [Client.post_eq_ok hpost]
    exact Server.answers_poll hunposted hencode hok dataFree replyFree
  · exact Server.poll_of_refused hunposted rfl rfl (Mailbox.refused_postRequest hencode hf)

/-- The client stops at the second address, whose byte is past the area, and so does the server. -/
theorem prevalidation_exact_secondAddress :
    (Client.mk 4 Client.defaultLimits none).areaSize =
        (ImageView.mk 4 (Vector.replicate 12 0)).areaSize ∧
      (Command.setBits [⟨.memory, 3, 7⟩, ⟨.output, 4, 0⟩]).encode = .ok [2, 3, 7, 1, 4, 0] ∧
      Command.decode 6 [2, 3, 7, 1, 4, 0] >>=
          Command.apply (ImageView.mk 4 (Vector.replicate 12 0)) =
        .error (.address (.byteOutOfRange 4 1 4)) := by
  have hsize : (Client.mk 4 Client.defaultLimits none).areaSize =
      (ImageView.mk 4 (Vector.replicate 12 0)).areaSize := rfl
  have hencode : (Command.setBits [⟨.memory, 3, 7⟩, ⟨.output, 4, 0⟩]).encode =
      .ok [2, 3, 7, 1, 4, 0] := rfl
  exact ⟨hsize, hencode, ((prevalidation_exact hsize hencode).2.1 _).mp rfl⟩

end FieldImage
