import FieldImage.Command

/-! A payload decodes to the command that was encoded, and it fits into a mailbox. -/

namespace FieldImage

theorem Area.ofCode?_code (a : Area) : Area.ofCode? a.code = some a := by
  cases a <;> decide

namespace Command

theorem decodeAddress_encode (a : Address) :
    decodeAddress a.area.code a.byte.toInt32 a.bit.toInt32 = .ok a := by
  simp [decodeAddress, Area.ofCode?_code, pure, Except.pure]

theorem decodeAddresses_encode (as : List Address) :
    decodeAddresses (as.flatMap encodeAddress) = .ok as := by
  induction as with
  | nil => rfl
  | cons a as ih =>
    simp only [List.flatMap_cons, encodeAddress, List.cons_append, List.nil_append,
      decodeAddresses, decodeAddress_encode, ih]
    rfl

theorem length_encodeAddresses (as : List Address) :
    (as.flatMap encodeAddress).length = as.length * addressLength := by
  induction as with
  | nil => rfl
  | cons a as ih =>
    simp only [List.flatMap_cons, List.length_append, ih, encodeAddress, List.length_cons,
      List.length_nil, addressLength]
    omega

/-- Only a list of addresses can fail to have a payload: when it is empty or too long. -/
theorem encode_eq_error {c : Command} {f : Fault} (h : c.encode = .error f) :
    f = .protocol (.lengthMismatch 6 "at least one address" 0) ∨
      ∃ n, f = .protocol (.payloadTooLarge n capacity) := by
  cases c with
  | setBits as =>
    simp only [encode] at h
    split at h
    · cases h
      exact .inl rfl
    · split at h
      · cases h
        exact .inr ⟨_, rfl⟩
      · cases h
  | _ => cases h

/-- The list of addresses of a payload may be as long as the mailbox allows. -/
theorem encode_setBits {as : List Address} {values : List Int32}
    (h : (setBits as).encode = .ok values) :
    as ≠ [] ∧ as.length * addressLength ≤ capacity ∧ values = as.flatMap encodeAddress := by
  simp only [encode] at h
  split at h
  · cases h
  · rename_i hne
    split at h
    · cases h
    · rename_i hle
      cases h
      exact ⟨hne, Nat.le_of_not_lt hle, rfl⟩

theorem encode_setBits_of_fits {as : List Address} (hne : as ≠ [])
    (hle : as.length ≤ maxAddresses) : (setBits as).encode = .ok (as.flatMap encodeAddress) := by
  have hcapacity : ¬capacity < as.length * addressLength := by
    simp only [maxAddresses, capacity, addressLength] at hle ⊢
    omega
  simp only [encode, if_neg hne, if_neg hcapacity]
  rfl

/-- Widening keeps a small number, and narrowing gives it back. -/
theorem narrow_ofNat (id : Int32) {bound n : Nat} (h : n < bound) (hb : bound ≤ 65536) :
    narrow id bound (Int32.ofNat n) = .ok n := by
  have hn : (Int32.ofNat n).toInt = n := Int32.toInt_ofNat_of_lt (by omega)
  have h0 : (0 : Int32) ≤ Int32.ofNat n := by
    rw [Int32.le_iff_toInt_le, hn]
    simp
  simp [narrow, h0, hn, h, pure, Except.pure]

theorem decode_encode {c : Command} {values : List Int32} (h : c.encode = .ok values) :
    decode c.id values = .ok c := by
  cases c with
  | exit | ping =>
    cases h
    rfl
  | setBit a | resetBit a | invertBit a =>
    cases h
    simp only [id, decode, encodeAddress, decodePoint, decodeAddress_encode]
    rfl
  | setBits as =>
    obtain ⟨hne, hle, rfl⟩ := encode_setBits h
    have hlen := length_encodeAddresses as
    have hpos : 0 < as.length := List.length_pos_iff.mpr hne
    have hfit : ¬(as.flatMap encodeAddress = [] ∨
        (as.flatMap encodeAddress).length % addressLength ≠ 0 ∨
        maxAddresses * addressLength < (as.flatMap encodeAddress).length) := by
      rw [← List.length_eq_zero_iff, hlen]
      simp only [addressLength, maxAddresses, capacity] at hle ⊢
      omega
    simp only [id, decode, if_neg hfit, decodeAddresses_encode]
    rfl
  | writeByte a v =>
    cases h
    have hv := narrow_ofNat 7 v.toNat_lt (by decide)
    simp only [id, decode, encodeAddress, List.cons_append, List.nil_append, decodeWrite,
      decodeAddress_encode]
    simp [hv, bind, Except.bind, pure, Except.pure]
  | writeWord a v =>
    cases h
    have hv := narrow_ofNat 8 v.toNat_lt (by decide)
    simp only [id, decode, encodeAddress, List.cons_append, List.nil_append, decodeWrite,
      decodeAddress_encode]
    simp [hv, bind, Except.bind, pure, Except.pure]
  | writeDWord a v | writeInt a v | writeReal a v =>
    cases h
    simp only [id, decode, encodeAddress, List.cons_append, List.nil_append, decodeWrite,
      decodeAddress_encode]
    rfl

theorem length_encode {c : Command} {values : List Int32} (h : c.encode = .ok values) :
    values.length ≤ capacity := by
  cases c with
  | setBits as =>
    obtain ⟨-, hle, rfl⟩ := encode_setBits h
    rw [length_encodeAddresses]
    exact hle
  | _ =>
    cases h
    simp [encodeAddress, capacity]

end Command

end FieldImage
