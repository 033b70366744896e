import FieldImage.Proofs.Command.RoundTrip
import FieldImage.Proofs.Fault
import Mathlib.Tactic.ByContra

/-! Each payload that decodes is the payload of the command it decodes to: there is one spelling of
each command, and decoding accepts nothing else. A value is read from its 32 bits and written back
to the same ones, so the bits of a REAL and the offsets of an address pass unchanged. -/

namespace FieldImage

theorem Area.code_of_ofCode? {code : Int32} {a : Area} (h : Area.ofCode? code = some a) :
    a.code = code := by
  simp only [ofCode?] at h
  split at h
  · cases h
    exact Eq.symm ‹_›
  · split at h
    · cases h
      exact Eq.symm ‹_›
    · split at h
      · cases h
        exact Eq.symm ‹_›
      · cases h

namespace Command

theorem encodeAddress_of_decode {area byte bit : Int32} {a : Address}
    (h : decodeAddress area byte bit = .ok a) : encodeAddress a = [area, byte, bit] := by
  simp only [decodeAddress] at h
  split at h
  · rename_i known harea
    cases h
    rw [encodeAddress, Area.code_of_ofCode? harea, Int32.toInt32_toUInt32, Int32.toInt32_toUInt32]
  · cases h

/-- Addresses in a row use up their values when these come in threes. -/
theorem encodeAddresses_of_decode {values : List Int32} {as : List Address}
    (hthrees : values.length % addressLength = 0) (h : decodeAddresses values = .ok as) :
    as.flatMap encodeAddress = values := by
  fun_induction decodeAddresses values generalizing as with
  | case1 area byte bit r ih =>
    obtain ⟨a, ha, h⟩ := bind_eq_ok.mp h
    obtain ⟨rest, hrest, h⟩ := bind_eq_ok.mp h
    cases h
    have hr : r.length % addressLength = 0 := by
      simp only [List.length_cons, addressLength] at hthrees ⊢
      omega
    rw [List.flatMap_cons, encodeAddress_of_decode ha, ih hr hrest]
    rfl
  | case2 values hshort =>
    cases h
    obtain _ | ⟨area, _ | ⟨byte, _ | ⟨bit, r⟩⟩⟩ := values
    · rfl
    · simp [addressLength] at hthrees
    · simp [addressLength] at hthrees
    · exact absurd rfl (hshort area byte bit r)

/-- What narrows was widened from the number that it gives. -/
theorem narrow_eq_ok {id : Int32} {bound n : Nat} {v : Int32} (h : narrow id bound v = .ok n) :
    n < bound ∧ Int32.ofNat n = v := by
  simp only [narrow] at h
  split at h
  · rename_i hrange
    obtain ⟨hnonneg, hlt⟩ := hrange
    have hzero : 0 ≤ v.toInt := Int32.le_iff_toInt_le.mp hnonneg
    cases h
    refine ⟨by omega, ?_⟩
    rw [← Int32.ofInt_eq_ofNat, Int.toNat_of_nonneg hzero, Int32.ofInt_toInt]
  · cases h

theorem decodePoint_eq_ok (id : Int32) (make : Address → Command) {values : List Int32}
    {c : Command} (h : decodePoint id make values = .ok c) :
    ∃ a, c = make a ∧ encodeAddress a = values := by
  simp only [decodePoint] at h
  split at h
  · obtain ⟨a, ha, h⟩ := bind_eq_ok.mp h
    cases h
    exact ⟨a, rfl, encodeAddress_of_decode ha⟩
  · cases h

theorem decodeWrite_eq_ok (id : Int32) {make : Address → Int32 → Except Fault Command}
    {values : List Int32} {c : Command} (h : decodeWrite id make values = .ok c) :
    ∃ a v, make a v = .ok c ∧ encodeAddress a ++ [v] = values := by
  simp only [decodeWrite] at h
  split at h
  · rename_i area byte bit v
    obtain ⟨a, ha, h⟩ := bind_eq_ok.mp h
    exact ⟨a, v, h, by rw [encodeAddress_of_decode ha]; rfl⟩
  · cases h

theorem decodeNarrow_eq_ok (id : Int32) {bound : Nat} (make : Address → Nat → Command)
    {values : List Int32} {c : Command}
    (h : decodeWrite id (fun a v => do pure (make a (← narrow id bound v))) values = .ok c) :
    ∃ a n, c = make a n ∧ n < bound ∧ encodeAddress a ++ [Int32.ofNat n] = values := by
  obtain ⟨a, v, hv, hvalues⟩ := decodeWrite_eq_ok id h
  obtain ⟨n, hn, hmade⟩ := bind_eq_ok.mp hv
  obtain ⟨hlt, rfl⟩ := narrow_eq_ok hn
  cases hmade
  exact ⟨a, n, rfl, hlt, hvalues⟩

/-- The addresses that fit are those whose payload has a length that decoding takes. -/
theorem encode_setBits_of_length {as : List Address} {values : List Int32}
    (hlength : ¬(values = [] ∨ values.length % addressLength ≠ 0 ∨
      maxAddresses * addressLength < values.length))
    (h : as.flatMap encodeAddress = values) : (setBits as).encode = .ok values := by
  subst h
  simp only [not_or, Nat.not_lt, length_encodeAddresses] at hlength
  obtain ⟨hsome, -, hle⟩ := hlength
  have hne : as ≠ [] := by
    rintro rfl
    exact hsome rfl
  exact encode_setBits_of_fits hne (Nat.le_of_mul_le_mul_right hle (by decide))

theorem known_of_decode {id : Int32} {values : List Int32} {c : Command}
    (h : decode id values = .ok c) :
    id = 1 ∨ id = 2 ∨ id = 3 ∨ id = 4 ∨ id = 5 ∨ id = 6 ∨ id = 7 ∨ id = 8 ∨ id = 9 ∨ id = 10 ∨
      id = 11 := by
  by_contra hunknown
  simp only [not_or] at hunknown
  obtain ⟨h1, h2, h3, h4, h5, h6, h7, h8, h9, h10, h11⟩ := hunknown
  rw [decode, if_neg h1, if_neg h2, if_neg h3, if_neg h4, if_neg h5, if_neg h6, if_neg h7,
    if_neg h8, if_neg h9, if_neg h10, if_neg h11] at h
  cases h

theorem decodeEmpty_eq_ok {id : Int32} {values : List Int32} {c d : Command}
    (h : (if values = [] then pure d else wrongLength id "0" values) = .ok c) :
    c = d ∧ values = [] := by
  by_cases hempty : values = []
  · rw [if_pos hempty] at h
    cases h
    exact ⟨rfl, hempty⟩
  · rw [if_neg hempty] at h
    cases h

theorem decodeList_eq_ok {values : List Int32} {c : Command} (h : decode 6 values = .ok c) :
    ∃ as, c = setBits as ∧ c.encode = .ok values := by
  have hlist : (if values = [] ∨ values.length % addressLength ≠ 0 ∨
      maxAddresses * addressLength < values.length then
        wrongLength 6 "multiple of 3 in 3..=99" values
      else (decodeAddresses values).map setBits) = .ok c := h
  by_cases hlength : values = [] ∨ values.length % addressLength ≠ 0 ∨
      maxAddresses * addressLength < values.length
  · rw [if_pos hlength] at hlist
    cases hlist
  · rw [if_neg hlength] at hlist
    cases has : decodeAddresses values with
    | error f =>
      rw [has] at hlist
      cases hlist
    | ok as =>
      rw [has] at hlist
      cases hlist
      have hthrees : values.length % addressLength = 0 := by
        simp only [not_or, ne_eq, Decidable.not_not] at hlength
        exact hlength.2.1
      exact ⟨as, rfl, encode_setBits_of_length hlength (encodeAddresses_of_decode hthrees has)⟩

/-- A payload that decodes is the payload of its command. -/
theorem encode_of_decode {id : Int32} {values : List Int32} {c : Command}
    (h : decode id values = .ok c) : c.id = id ∧ c.encode = .ok values := by
  rcases known_of_decode h with rfl | rfl | rfl | rfl | rfl | rfl | rfl | rfl | rfl | rfl | rfl
  · obtain ⟨rfl, rfl⟩ := decodeEmpty_eq_ok (d := exit) h
    exact ⟨rfl, rfl⟩
  · obtain ⟨rfl, rfl⟩ := decodeEmpty_eq_ok (d := ping) h
    exact ⟨rfl, rfl⟩
  · obtain ⟨a, rfl, rfl⟩ := decodePoint_eq_ok 3 setBit h
    exact ⟨rfl, rfl⟩
  · obtain ⟨a, rfl, rfl⟩ := decodePoint_eq_ok 4 resetBit h
    exact ⟨rfl, rfl⟩
  · obtain ⟨a, rfl, rfl⟩ := decodePoint_eq_ok 5 invertBit h
    exact ⟨rfl, rfl⟩
  · obtain ⟨as, rfl, hencode⟩ := decodeList_eq_ok h
    exact ⟨rfl, hencode⟩
  · obtain ⟨a, n, rfl, hlt, rfl⟩ := decodeNarrow_eq_ok 7 (fun a n => writeByte a (UInt8.ofNat n)) h
    refine ⟨rfl, ?_⟩
    rw [encode, UInt8.toNat_ofNat_of_lt' hlt]
    rfl
  · obtain ⟨a, n, rfl, hlt, rfl⟩ := decodeNarrow_eq_ok 8 (fun a n => writeWord a (UInt16.ofNat n)) h
    refine ⟨rfl, ?_⟩
    rw [encode, UInt16.toNat_ofNat_of_lt' hlt]
    rfl
  · obtain ⟨a, v, hv, rfl⟩ := decodeWrite_eq_ok 9 h
    cases hv
    refine ⟨rfl, ?_⟩
    rw [encode, Int32.toInt32_toUInt32]
    rfl
  · obtain ⟨a, v, hv, rfl⟩ := decodeWrite_eq_ok 10 h
    cases hv
    exact ⟨rfl, rfl⟩
  · obtain ⟨a, v, hv, rfl⟩ := decodeWrite_eq_ok 11 h
    cases hv
    refine ⟨rfl, ?_⟩
    rw [encode, Int32.toInt32_toUInt32]
    rfl

theorem encode_eq_error_iff {c : Command} :
    (∃ f, c.encode = .error f) ↔ ∃ as, c = setBits as ∧ (as = [] ∨ maxAddresses < as.length) := by
  constructor
  · rintro ⟨f, h⟩
    cases c with
    | setBits as =>
      refine ⟨as, rfl, Decidable.or_iff_not_imp_left.mpr fun hne => Nat.lt_of_not_le fun hle => ?_⟩
      rw [encode_setBits_of_fits hne hle] at h
      cases h
    | _ => cases h
  · rintro ⟨as, rfl, hunfit⟩
    cases hencode : (setBits as).encode with
    | error f => exact ⟨f, rfl⟩
    | ok values =>
      obtain ⟨hne, hle, -⟩ := encode_setBits hencode
      rcases hunfit with hempty | hlong
      · exact absurd hempty hne
      · simp only [maxAddresses, capacity, addressLength] at hlong hle
        omega

/-- A payload decodes to a command exactly when it is the payload of this command. Only a list of
bits can lack a payload, when it is empty or has more than 33 addresses. -/
theorem payload_exact (c : Command) (id : Int32) (values : List Int32) :
    (decode id values = .ok c ↔ c.id = id ∧ c.encode = .ok values) ∧
      ((∃ f, c.encode = .error f) ↔ ∃ as, c = setBits as ∧ (as = [] ∨ 33 < as.length)) := by
  refine ⟨⟨encode_of_decode, ?_⟩, encode_eq_error_iff⟩
  rintro ⟨rfl, hencode⟩
  exact decode_encode hencode

/-- The bits of a REAL that is no number pass unchanged. -/
example : decode 11 [1, 8, 0, 0x7FA00001] = .ok (writeReal ⟨.output, 8, 0⟩ ⟨0x7FA00001⟩) :=
  rfl

end Command

end FieldImage
