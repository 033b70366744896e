import FieldImage.Driver.Mailbox
import FieldImage.Proofs.Command.RoundTrip
import FieldImage.Proofs.Handshake.Hosting
import FieldImage.Proofs.Segment.Attachment
import FieldImage.Proofs.Server.Requests

/-! A write through the driver of a segment whose server answers at once, with no lock taken. The
client refuses what the process data would refuse, and every other write comes back from the server
carried out. -/

namespace FieldImage

open ByteImage

namespace WriteCall

def command : WriteCall → Command
  | setBit a => .setBit a
  | resetBit a => .resetBit a
  | invertBit a => .invertBit a
  | writeBit a b => if b then .setBit a else .resetBit a
  | setBits as => .setBits as
  | writeByte a v => .writeByte a v
  | writeWord a v => .writeWord a v
  | writeDWord a v => .writeDWord a v
  | writeInt a v => .writeInt a v
  | writeReal a v => .writeReal a v
  | writeValue a v => (Write.value a v).command

theorem command_toWrite (c : WriteCall) : c.command = c.toWrite.command := by
  cases c <;> rfl

/-- Calls that have a payload: a list of bits is neither empty nor longer than a mailbox holds. -/
def HasPayload : WriteCall → Prop
  | setBits as => 1 ≤ as.length ∧ as.length ≤ Command.maxAddresses
  | _ => True

instance : (c : WriteCall) → Decidable c.HasPayload
  | setBits _ => inferInstanceAs (Decidable (_ ∧ _))
  | setBit _ | resetBit _ | invertBit _ | writeBit .. | writeByte .. | writeWord .. | writeDWord ..
  | writeInt .. | writeReal .. | writeValue .. => .isTrue trivial

theorem encode_command {c : WriteCall} (h : c.HasPayload) :
    ∃ values, c.command.encode = .ok values := by
  cases c with
  | setBits as =>
    obtain ⟨hpos, hmax⟩ := h
    exact ⟨_, Command.encode_setBits_of_fits (List.length_pos_iff.mp hpos) hmax⟩
  | writeBit a b => cases b <;> exact ⟨_, rfl⟩
  | writeValue a v =>
    cases v with
    | bit b => cases b <;> exact ⟨_, rfl⟩
    | byte v | word v | dword v | int v | real v => exact ⟨_, rfl⟩
  | _ => exact ⟨_, rfl⟩

end WriteCall

namespace Host

/-- A send that is answered by the next cycle of server `i`. -/
def sendPolled (h : Host) (path : String) (i k : Nat) (command : Command) :
    Except Fault Int32 × Host :=
  let (r, _, h) := h.send path k command fun h =>
    match h.pollServer i false with
    | some (outcome, h) => (some outcome, h)
    | none => (none, h)
  (r, h)

/-- Server `i` and client `k` share the segment of a path, and nobody has a lock of it. The server
owes no reply. -/
structure Served (path : String) (id i k : Nat) (h : Host) (b : Mailbox) (n : Signal)
    (v : ImageView) : Prop where
  segment : Segment.Unlocked (h.memory id) b n v
  server : ∃ s, h.server? i = some s ∧ s.memory = id ∧ s.areaSize = v.areaSize ∧
    s.server.unposted = none
  client : ∃ c, h.clients[k]? = some c ∧ c.memory = id ∧ c.client.areaSize = v.areaSize
  seen : h.outside? path = some id

variable {path : String} {id i k : Nat} {h : Host} {b : Mailbox} {n : Signal} {v w : ImageView}
  {command : Command} {values : List Int32}

theorem Served.setMemory (hs : Served path id i k h b n v) {m : Segment.Memory} {b' : Mailbox}
    {n' : Signal} (hm : Segment.Unlocked m b' n' v) :
    Served path id i k (h.setMemory id m) b' n' v where
  segment := by
    rw [memory_setMemory (lt_size_of_segment hs.segment.toHolds)]
    exact hm
  server := hs.server
  client := hs.client
  seen := hs.seen

theorem Served.beginSend (hs : Served path id i k h b n v) (hidle : b.isBusy = false)
    (hprepare : ∀ c : Client, c.areaSize = v.areaSize → c.prepare command = .ok values) :
    ∃ h', h.beginSend k command = (.ok ⟨command, n.sequence⟩, h') ∧
      Served path id i k h' (Mailbox.postRequest command.id values) n v := by
  obtain ⟨c, hc, rfl, hsize⟩ := hs.client
  have hpost := Client.post_of_clears (c := c.client) (.inl hidle) true command.id values
  rw [if_pos rfl] at hpost
  have hfree := hs.segment.free
  have hmailbox := hs.segment.mailbox
  have hsequence := hs.segment.sequence
  refine ⟨(h.modifyMemory c.memory (Segment.setMailbox ·
    (Mailbox.postRequest command.id values))).setClient k
      { c with client := { c.client with gate := none } }, ?_, ?_⟩
  · simp only [Host.beginSend, hc, hprepare c.client hsize, Host.acquire, hfree, Server.acquire,
      if_true, pure, Except.pure, hmailbox, hpost, hsequence]
  · have hwritten := hs.setMemory (Segment.unlocked_setMailbox hs.segment
      (Mailbox.postRequest command.id values))
    have hk : k < h.clients.size := (Array.getElem?_eq_some_iff.mp hc).1
    exact ⟨hwritten.segment, hwritten.server,
      ⟨_, Array.getElem?_setIfInBounds_self_of_lt hk, rfl, hsize⟩, hwritten.seen⟩

theorem Served.pollServer (hs : Served path id i k h (Mailbox.postRequest command.id values) n v)
    (hencode : command.encode = .ok values) (happly : command.apply v = .ok w)
    (hsize : w.areaSize = v.areaSize) :
    ∃ h', h.pollServer i false = some (.ok (.served command.id), h') ∧
      Served path id i k h' (Mailbox.postReply command.id command.success) n.raise w := by
  obtain ⟨s, hserver, rfl, harea, hunposted⟩ := hs.server
  have hcheck := Command.check_eq_ok_iff.mpr ⟨w, happly⟩
  obtain ⟨after, hafter, hcycle⟩ := Server.poll_of_requests hunposted rfl rfl
    (Mailbox.requests_postRequest hencode hcheck)
  obtain rfl : w = after := Except.ok.inj (happly.symm.trans hafter)
  obtain ⟨s', hunposted', hpoll⟩ : ∃ s' : Server, s'.unposted = none ∧
      s.server.poll (Mailbox.postRequest command.id values) v ⟨true, true, true⟩ =
        ⟨s', Mailbox.postReply command.id command.success, w, true, .ok (.served command.id)⟩ :=
    ⟨_, rfl, hcycle⟩
  have hfree := hs.segment.free
  have hdata : Segment.data (h.memory s.memory) s.areaSize = .ok v := by
    rw [harea]
    exact hs.segment.data
  have hi : i < h.servers.size := lt_size_of_server hserver
  have hwritten := Segment.unlocked_raiseSignal (Segment.unlocked_setData
    (Segment.unlocked_setMailbox hs.segment (Mailbox.postReply command.id command.success)) hsize)
  simp only [Host.pollServer, hserver, hs.segment.mailbox, hfree, hdata, Bool.false_and,
    Bool.not_false, Bool.and_true, Bool.false_eq_true, if_false, if_true, hpoll]
  refine ⟨_, rfl, ?_, ?_, ?_, hs.seen⟩
  · show Segment.Unlocked ((h.setMemory s.memory _).memory s.memory) _ _ _
    rw [memory_setMemory (lt_size_of_segment hs.segment.toHolds)]
    exact hwritten
  · refine ⟨{ s with server := s' }, ?_, rfl, harea.trans hsize.symm, hunposted'⟩
    show (h.servers.setIfInBounds i _)[i]?.join = _
    rw [Array.getElem?_setIfInBounds_self_of_lt hi]
    rfl
  · obtain ⟨c, hc, hmemory, hclient⟩ := hs.client
    exact ⟨c, hc, hmemory, hclient.trans hsize.symm⟩

theorem Served.endSend (hs : Served path id i k h (Mailbox.postReply command.id command.success)
    n.raise v) :
    ∃ h' b', h.endSend k ⟨command, n.sequence⟩ = (.ok command.success, h') ∧ b'.isBusy = false ∧
      Served path id i k h' b' n.raise v := by
  obtain ⟨c, hc, rfl, hsize⟩ := hs.client
  have hwakes : (Signal.mk n.raise.sequence).wakes n.sequence = true := by
    simp [Signal.wakes, Signal.raise]
  have hcollect := Client.collect_reply (m := Mailbox.postReply command.id command.success) rfl rfl
  have hjudge : Client.judge command command.id (some [command.success]) = .ok command.success := by
    rw [Client.judge_echo, if_pos rfl]
  have htaken := hs.setMemory (Segment.unlocked_setMailbox hs.segment
    { Mailbox.postReply command.id command.success with reply := 0 })
  refine ⟨_, _, ?_, ?_, htaken⟩
  · simp only [Host.endSend, hc, hs.segment.sequence, hwakes, if_true, Host.acquire,
      hs.segment.free, Server.acquire, pure, Except.pure, hs.segment.mailbox, hcollect,
      Mailbox.payload?_postReply]
    exact Prod.ext hjudge rfl
  · rw [Mailbox.isBusy_taken]
    rfl

/-- Between sends the mailbox is idle. -/
def Serving (path : String) (id i k : Nat) (h : Host) (v : ImageView) : Prop :=
  ∃ b n, Served path id i k h b n v ∧ b.isBusy = false

theorem Serving.sendPolled (hs : Serving path id i k h v)
    (hprepare : ∀ c : Client, c.areaSize = v.areaSize → c.prepare command = .ok values)
    (happly : command.apply v = .ok w) :
    ∃ h', h.sendPolled path i k command = (.ok command.success, h') ∧
      Serving path id i k h' w := by
  obtain ⟨b, n, hserved, hidle⟩ := hs
  obtain ⟨h₁, hbegin, hposted⟩ := hserved.beginSend hidle hprepare
  have hencode := Client.encode_of_prepare
    (hprepare ⟨v.areaSize, Client.defaultLimits, none⟩ rfl)
  have hsize := ImageView.areaSize_apply happly
  obtain ⟨h₂, hpoll, hreplied⟩ := hposted.pollServer hencode happly hsize
  obtain ⟨h₃, b', hend, hidle', htaken⟩ := hreplied.endSend
  obtain ⟨c, hc, hmemory, -⟩ := hposted.client
  have hseen : (h₁.clients[k]?.map (·.memory) == h₁.outside? path) = true := by
    rw [hc, hposted.seen, ← hmemory]
    exact beq_self_eq_true _
  refine ⟨h₃, ?_, b', _, htaken, hidle'⟩
  simp only [Host.sendPolled, Host.send, hbegin, hseen, if_true, hpoll, hend]

/-- A write does to the process data of the segment what it does to an image, and gives the same
result. -/
theorem Serving.write (hs : Serving path id i k h v) {c : WriteCall} (hc : c.HasPayload) :
    ((h.sendPolled path i k c.command).1.map fun _ => Answer.done) = ((Call.write c).run v).1 ∧
      Serving path id i k (h.sendPolled path i k c.command).2 ((Call.write c).run v).2 := by
  obtain ⟨values, hencode⟩ := WriteCall.encode_command hc
  have hprepare (d : Client) (hd : d.areaSize = v.areaSize) :
      d.prepare c.command = c.toWrite.check v >>= fun _ => .ok values := by
    rw [Client.prepare, hencode, WriteCall.command_toWrite, Client.prevalidate_eq hd,
      Write.check_command]
  have happly : c.command.apply v = c.toWrite.check v >>= fun _ => .ok (c.toWrite.perform v) := by
    rw [WriteCall.command_toWrite, Write.apply_command, Write.apply_eq]
    rfl
  rw [Call.run_write]
  cases hcheck : c.toWrite.check v with
  | error f =>
    -- the client refuses the call itself, and posts nothing
    obtain ⟨b, n, hserved, hidle⟩ := hs
    obtain ⟨d, hd, -, hsize⟩ := hserved.client
    have hrefused := hprepare d.client hsize
    rw [hcheck] at hrefused
    have hsend : h.sendPolled path i k c.command = (.error f, h) := by
      simp only [Host.sendPolled, Host.send, Host.beginSend, hd, hrefused]
      rfl
    rw [hsend]
    exact ⟨rfl, b, n, hserved, hidle⟩
  | ok u =>
    simp only [hcheck] at hprepare happly
    obtain ⟨h', hsend, hserving⟩ := hs.sendPolled hprepare happly
    rw [hsend]
    exact ⟨rfl, hserving⟩

theorem Serving.readData (hs : Serving path id i k h v) {target : Image}
    (hsize : target.areaSize = v.areaSize) :
    ∃ h', h.readData k target = (.ok v.toImage, h') ∧ Serving path id i k h' v := by
  obtain ⟨b, n, hserved, hidle⟩ := hs
  obtain ⟨c, hc, rfl, harea⟩ := hserved.client
  have hcopy : v.copyTo target = .ok v.toImage := by
    rw [ImageView.copyTo, checkGeometry, if_pos hsize]
    rfl
  have hwritten := hserved.setMemory (Segment.unlocked_setData hserved.segment rfl)
  refine ⟨h.modifyMemory c.memory (Segment.setData · v), ?_, b, n, hwritten, hidle⟩
  simp only [Host.readData, hc, Host.withData, Host.acquire, hserved.segment.free, Server.acquire,
    if_true, pure, Except.pure, harea, hserved.segment.data, hcopy]
  rfl

/-- Server `i` serves the segment of a path; nothing is under way, and nobody has a lock. -/
structure Offers (path : String) (id i : Nat) (h : Host) (v : ImageView) : Prop where
  segment : ∃ b n, Segment.Unlocked (h.memory id) b n v ∧ b.isBusy = false
  server : ∃ s, h.server? i = some s ∧ s.memory = id ∧ s.areaSize = v.areaSize ∧
    s.server.unposted = none
  file : h.tree.node? path = some (.file id)

/-- A machine with a server that has just made its segment, of four bytes per area. -/
def plant : Host := (Host.new.createServer "plant" 4 (.ofSecs 1)).2

theorem memory_plant : plant.memory 0 = Segment.fresh 4 (UInt64.ofNat Host.new.clock) := by
  have hmemories : plant.memories = #[Segment.fresh 4 (UInt64.ofNat Host.new.clock)] := by rfl
  have hfirst (m : Segment.Memory) : (#[m] : Array Segment.Memory)[0]?.getD #[] = m := rfl
  rw [memory, hmemories]
  exact hfirst _

theorem offers_plant : Offers "plant" 0 0 plant ⟨4, Vector.replicate 12 0⟩ where
  segment := by
    rw [memory_plant]
    exact ⟨_, _, Segment.unlocked_fresh 4 _, rfl⟩
  server := ⟨⟨Server.new (.ofSecs 1), "plant", 4, 0⟩, by rfl, rfl, rfl, rfl⟩
  file := by decide +kernel

theorem Offers.attachClient (ho : Offers path id i h v) {limits : ClientLimits} {h' : Host}
    (hattach : h.attachClient path limits = .ok (k, h')) :
    Serving path id i k h' v ∧
      (h'.clients[k]?.map (·.client.areaSize)) = some v.areaSize := by
  obtain ⟨⟨memory, areaSize⟩, hsegment, hclient⟩ := bind_eq_ok.mp hattach
  cases hclient
  simp only [attachSegment, ho.file] at hsegment
  obtain ⟨n, hn, hpair⟩ := bind_eq_ok.mp hsegment
  cases hpair
  obtain ⟨b, m, hunlocked, hidle⟩ := ho.segment
  have hsize : areaSize = v.areaSize := by
    have hlength := (Segment.attach_eq_ok_iff.mp hn).size
    rw [hunlocked.size, Segment.Layout.segmentSize] at hlength
    omega
  subst hsize
  have hlast : (h.clients.push ⟨⟨v.areaSize, limits, none⟩, id⟩)[h.clients.size]? =
      some ⟨⟨v.areaSize, limits, none⟩, id⟩ := Array.getElem?_push_size
  have hseen : h.tree.file? path = some id := by
    rw [FileTree.file?, ho.file]
  refine ⟨⟨b, m, ⟨hunlocked, ho.server, ⟨_, hlast, rfl, rfl⟩, ?_⟩, hidle⟩, ?_⟩
  · show (h.tree.file? path).or h.latest = some id
    rw [hseen]
    rfl
  · show (h.clients.push ⟨⟨v.areaSize, limits, none⟩, id⟩)[h.clients.size]?.map _ = _
    rw [hlast]
    rfl

end Host

namespace MailboxDriver

/-- A call as the writer of the driver makes it, answered by the next cycle of server `i`. -/
def write (path : String) (i : Nat) (d : MailboxDriver) (h : Host) (c : WriteCall) :
    Except Fault Unit × Host :=
  let (r, h) := h.sendPolled path i d.client c.command
  (r.map fun _ => (), h)

theorem snapshots_attach {path : String} {h h' : Host} {limits : ClientLimits} {d : MailboxDriver}
    (hattach : attach h path limits = .ok (d, h')) :
    d.snapshots = Snapshots.new (Image.zero d.areaSize) (Image.zero d.areaSize) := by
  obtain ⟨⟨client, host⟩, hclient, hdriver⟩ := bind_eq_ok.mp hattach
  cases hdriver
  rfl

theorem attach_offered {path : String} {id i : Nat} {h h' : Host} {v : ImageView}
    {limits : ClientLimits} {d : MailboxDriver} (ho : Host.Offers path id i h v)
    (hattach : attach h path limits = .ok (d, h')) :
    Host.Serving path id i d.client h' v ∧ d.areaSize = v.areaSize := by
  obtain ⟨⟨client, host⟩, hclient, hdriver⟩ := bind_eq_ok.mp hattach
  cases hdriver
  obtain ⟨hserving, hsize⟩ := ho.attachClient hclient
  refine ⟨hserving, ?_⟩
  simp only [hsize, Option.getD_some]

theorem attach_plant (limits : ClientLimits) :
    ∃ d h, attach Host.plant "plant" limits = .ok (d, h) := by
  have hlayout : (Segment.attach "plant"
      (Segment.fresh 4 (UInt64.ofNat Host.new.clock))).isOk = true := by
    decide +kernel
  cases hattach : Segment.attach "plant" (Segment.fresh 4 (UInt64.ofNat Host.new.clock)) with
  | error f =>
    rw [hattach] at hlayout
    cases hlayout
  | ok areaSize =>
    simp only [attach, Host.attachClient, Host.attachSegment, Host.offers_plant.file,
      Host.memory_plant, hattach]
    exact ⟨_, _, rfl⟩

end MailboxDriver

end FieldImage
