import FieldImage.Address.Parser
import FieldImage.Proofs.Text.Blank
import FieldImage.Proofs.Text.Numeral

/-! The notation of addresses. A text is read as an address exactly when its trimmed capitals are a
writing of one whose bit is a bit of a byte; a text that is a writing of another bit is told apart
from a text that is no writing at all. -/

namespace FieldImage

theorem Area.ofLetter?_eq_some {c : Char} {area : Area} :
    Area.ofLetter? c = some area ↔ c = area.letter := by
  rw [Area.ofLetter?]
  cases area <;> simp only [Area.letter] <;> grind

namespace Address

open Text

/-- The capitals that stand for an address. A size letter leaves no room for a bit. -/
inductive Written : List Char → Address → Prop
  | sized {area : Area} {size : Char} {digits : List Char} {byte : UInt32}
      (hsize : size = 'B' ∨ size = 'W' ∨ size = 'D') (hbyte : Numeral 10 digits byte.toNat) :
      Written (area.letter :: size :: digits) ⟨area, byte, 0⟩
  | whole {area : Area} {digits : List Char} {byte : UInt32}
      (hbyte : Numeral 10 digits byte.toNat) : Written (area.letter :: digits) ⟨area, byte, 0⟩
  | withBit {area : Area} {digits bits : List Char} {byte bit : UInt32}
      (hbyte : Numeral 10 digits byte.toNat) (hbit : Numeral 10 bits bit.toNat) :
      Written (area.letter :: (digits ++ '.' :: bits)) ⟨area, byte, bit⟩

/-! ### The parts of a notation -/

theorem number?_eq_some {cs : List Char} {n : UInt32} :
    number? cs = some n ↔ Numeral 10 cs n.toNat := by
  have hread (m : Nat) : readUnsigned 10 (UInt32.size - 1) cs = .ok m ↔
      Numeral 10 cs m ∧ m ≤ UInt32.size - 1 := readUnsigned_eq_ok (by decide)
  rw [number?]
  constructor
  · intro h
    split at h
    · rename_i m hm
      obtain ⟨hnumeral, hle⟩ := (hread m).mp hm
      cases h
      rwa [UInt32.toNat_ofNat_of_lt' (Nat.lt_of_le_pred (by decide) hle)]
    · cases h
  · intro h
    rw [(hread n.toNat).mpr ⟨h, Nat.le_pred_of_lt n.toNat_lt⟩]
    exact congrArg some UInt32.ofNat_toNat

theorem isSize_iff {c : Char} : isSize c = true ↔ c = 'B' ∨ c = 'W' ∨ c = 'D' := by
  simp [isSize, or_assoc]

theorem not_isSize_of_numeral {c : Char} {r : List Char} {n : Nat} (h : Numeral 10 (c :: r) n) :
    isSize c = false := by
  rw [Bool.eq_false_iff, ne_eq, isSize_iff]
  rintro (rfl | rfl | rfl) <;> exact absurd (h.plus_or_isDigit _ (.head r)) (by decide)

theorem not_point_of_numeral {cs : List Char} {n : Nat} (h : Numeral 10 cs n) :
    ∀ c ∈ cs, (c == '.') = false := by
  intro c hc
  rw [beq_eq_false_iff_ne]
  rintro rfl
  exact absurd (h.plus_or_isDigit _ hc) (by decide)

theorem sized?_eq_some {area : Area} {cs : List Char} {a : Address} :
    sized? area cs = some a ↔
      ∃ byte : UInt32, Numeral 10 cs byte.toNat ∧ a = ⟨area, byte, 0⟩ := by
  rw [sized?, Option.map_eq_some_iff]
  simp only [number?_eq_some, ofByte]
  exact exists_congr fun _ => and_congr_right' eq_comm

/-- A numeral has no point in it, so the first point is the one in front of the bit. -/
theorem unsized?_eq_some {area : Area} {cs : List Char} {a : Address} :
    unsized? area cs = some a ↔
      (∃ byte : UInt32, Numeral 10 cs byte.toNat ∧ a = ⟨area, byte, 0⟩) ∨
        ∃ (digits bits : List Char) (byte bit : UInt32), cs = digits ++ '.' :: bits ∧
          Numeral 10 digits byte.toNat ∧ Numeral 10 bits bit.toNat ∧ a = ⟨area, byte, bit⟩ := by
  constructor
  · intro h
    rw [unsized?] at h
    split at h
    · exact .inl (sized?_eq_some.mp h)
    · rename_i digits bits hsplit
      obtain ⟨c, rfl, hc⟩ := eq_append_of_splitAt? hsplit
      obtain rfl : c = '.' := by simpa using hc
      obtain ⟨byte, hbyte, h⟩ := Option.bind_eq_some_iff.mp h
      obtain ⟨bit, hbit, h⟩ := Option.bind_eq_some_iff.mp h
      exact .inr ⟨digits, bits, byte, bit, rfl, number?_eq_some.mp hbyte, number?_eq_some.mp hbit,
        (Option.some.inj h).symm⟩
  · rintro (⟨byte, hbyte, rfl⟩ | ⟨digits, bits, byte, bit, rfl, hbyte, hbit, rfl⟩)
    · rw [unsized?, splitAt?_eq_none.mpr (not_point_of_numeral hbyte)]
      exact sized?_eq_some.mpr ⟨byte, hbyte, rfl⟩
    · rw [unsized?, splitAt?_append (not_point_of_numeral hbyte) (by decide)]
      simp [number?_eq_some.mpr hbyte, number?_eq_some.mpr hbit]

/-! ### The notation -/

theorem ofCapitals?_letter {area : Area} {c : Char} {r : List Char} :
    ofCapitals? (area.letter :: c :: r) =
      if isSize c then sized? area r else unsized? area (c :: r) := by
  rw [ofCapitals?, Area.ofLetter?_eq_some.mpr rfl]

theorem ofCapitals?_of_numeral {area : Area} {c : Char} {r rest : List Char} {n : Nat}
    (h : Numeral 10 (c :: r) n) :
    ofCapitals? (area.letter :: ((c :: r) ++ rest)) = unsized? area ((c :: r) ++ rest) := by
  rw [List.cons_append, ofCapitals?_letter, not_isSize_of_numeral h]
  rfl

theorem ofCapitals?_eq_some {cs : List Char} {a : Address} :
    ofCapitals? cs = some a ↔ Written cs a := by
  constructor
  · intro h
    match cs with
    | [] => cases h
    | c :: r =>
      rw [ofCapitals?] at h
      split at h
      · cases h
      · rename_i area harea
        obtain rfl := Area.ofLetter?_eq_some.mp harea
        split at h
        · rename_i size r
          split at h
          · rename_i hsize
            obtain ⟨byte, hbyte, rfl⟩ := sized?_eq_some.mp h
            exact .sized (isSize_iff.mp hsize) hbyte
          · obtain ⟨byte, hbyte, rfl⟩ | ⟨digits, bits, byte, bit, hr, hbyte, hbit, rfl⟩ :=
              unsized?_eq_some.mp h
            · exact .whole hbyte
            · rw [hr]
              exact .withBit hbyte hbit
        · cases h
  · intro h
    cases h with
    | sized hsize hbyte =>
      rw [ofCapitals?_letter, if_pos (isSize_iff.mpr hsize)]
      exact sized?_eq_some.mpr ⟨_, hbyte, rfl⟩
    | @whole area digits byte hbyte =>
      obtain ⟨c, r, rfl⟩ := List.exists_cons_of_ne_nil hbyte.ne_nil
      have hread : ofCapitals? (area.letter :: (c :: r ++ [])) = unsized? area (c :: r ++ []) :=
        ofCapitals?_of_numeral hbyte
      rw [List.append_nil] at hread
      exact hread.trans (unsized?_eq_some.mpr (.inl ⟨byte, hbyte, rfl⟩))
    | @withBit area digits bits byte bit hbyte hbit =>
      obtain ⟨c, r, rfl⟩ := List.exists_cons_of_ne_nil hbyte.ne_nil
      exact (ofCapitals?_of_numeral hbyte).trans
        (unsized?_eq_some.mpr (.inr ⟨c :: r, bits, byte, bit, rfl, hbyte, hbit, rfl⟩))

/-- The notation is not ambiguous. -/
theorem Written.unique {cs : List Char} {a b : Address} (ha : Written cs a) (hb : Written cs b) :
    a = b :=
  Option.some.inj ((ofCapitals?_eq_some.mpr ha).symm.trans (ofCapitals?_eq_some.mpr hb))

theorem parse_of_written {s : String} {a : Address}
    (h : Written ((trimChars s.toList).map Char.toUpper) a) :
    parse s = if 7 < a.bit.toNat then .error (.address (.bitOutOfRange a.bit)) else .ok a := by
  rw [parse, ofCapitals?_eq_some.mpr h]
  show (a.checkBit >>= fun _ => pure a) =
    if 7 < a.bit then .error (.address (.bitOutOfRange a.bit)) else .ok a
  rw [checkBit]
  split <;> rfl

theorem parse_of_not_written {s : String}
    (h : ∀ a, ¬ Written ((trimChars s.toList).map Char.toUpper) a) :
    parse s = .error (.address (.unreadable s)) := by
  have hnone : ofCapitals? ((trimChars s.toList).map Char.toUpper) = none :=
    Option.eq_none_iff_forall_ne_some.mpr fun a ha => h a (ofCapitals?_eq_some.mp ha)
  rw [parse, hnone]
  rfl

/-- Any answer but that nothing can be read is the answer to a writing. -/
theorem parse_eq_iff {s : String} {r : Except Fault Address}
    (hr : r ≠ .error (.address (.unreadable s))) :
    parse s = r ↔ ∃ a, Written ((trimChars s.toList).map Char.toUpper) a ∧
      (if 7 < a.bit.toNat then .error (.address (.bitOutOfRange a.bit)) else .ok a) = r := by
  constructor
  · rintro rfl
    by_contra hnone
    exact hr (parse_of_not_written fun a ha => hnone ⟨a, ha, (parse_of_written ha).symm⟩)
  · rintro ⟨a, ha, rfl⟩
    exact parse_of_written ha

theorem parse_eq_ok {s : String} {a : Address} :
    parse s = .ok a ↔ Written ((trimChars s.toList).map Char.toUpper) a ∧ a.bit.toNat ≤ 7 := by
  refine (parse_eq_iff (by nofun)).trans ?_
  constructor
  · rintro ⟨b, hb, h⟩
    split at h
    · cases h
    · rename_i hbit
      cases h
      exact ⟨hb, Nat.le_of_not_lt hbit⟩
  · rintro ⟨ha, hbit⟩
    exact ⟨a, ha, if_neg (Nat.not_lt_of_le hbit)⟩

theorem parse_eq_bitOutOfRange {s : String} {bit : UInt32} :
    parse s = .error (.address (.bitOutOfRange bit)) ↔
      ∃ a, Written ((trimChars s.toList).map Char.toUpper) a ∧ a.bit = bit ∧ 8 ≤ bit.toNat := by
  refine (parse_eq_iff (by nofun)).trans (exists_congr fun a => and_congr_right' ?_)
  constructor
  · intro h
    split at h
    · rename_i hbit
      cases h
      exact ⟨rfl, hbit⟩
    · cases h
  · rintro ⟨rfl, hbit⟩
    exact if_pos hbit

theorem parse_eq_unreadable {s : String} :
    parse s = .error (.address (.unreadable s)) ↔
      ∀ a, ¬ Written ((trimChars s.toList).map Char.toUpper) a := by
  refine ⟨fun h a ha => ?_, parse_of_not_written⟩
  rw [parse_of_written ha] at h
  split at h <;> cases h

/-! ### Written addresses -/

theorem written_text (a : Address) : Written (a.text.toList.map Char.toUpper) a := by
  have hdecimal (n : Nat) : Numeral 10 ((Nat.toDigits 10 n).map Char.toUpper) n :=
    ⟨_, .inl rfl, (denotes_toDigits (by decide) n).toUpper⟩
  have hletter : a.area.letter.toUpper = a.area.letter := by cases a.area <;> rfl
  rw [text, String.toList_ofList, List.map_cons, List.map_append, List.map_cons, hletter]
  exact .withBit (hdecimal _) (hdecimal _)

theorem trimChars_text (a : Address) : trimChars a.text.toList = a.text.toList := by
  have hdecimal (n : Nat) : ∀ c ∈ Nat.toDigits 10 n, isBlank c = false :=
    (denotes_toDigits (by decide) n).forall_mem fun _ _ => IsDigit.not_isBlank
  have hletter : isBlank a.area.letter = false := by cases a.area <;> rfl
  apply trimChars_of_not_blank
  rw [text, String.toList_ofList]
  refine List.forall_mem_cons.mpr ⟨hletter, List.forall_mem_append.mpr ⟨hdecimal _, ?_⟩⟩
  exact List.forall_mem_cons.mpr ⟨rfl, hdecimal _⟩

/-- Every text is either a writing of one address, which is read when its bit is one of eight and
faulted for its bit otherwise, or no writing, which is faulted with the text as it was given. The
written form of an address is read back unless its bit is too high. -/
theorem parse_exact :
    (∀ s : String, ∃ ts, (∀ us, Trimmed s.toList us ↔ us = ts) ∧
      (∀ a, parse s = .ok a ↔ Written (ts.map Char.toUpper) a ∧ a.bit.toNat ≤ 7) ∧
      (∀ bit, parse s = .error (.address (.bitOutOfRange bit)) ↔
        ∃ a, Written (ts.map Char.toUpper) a ∧ a.bit = bit ∧ 8 ≤ bit.toNat) ∧
      (parse s = .error (.address (.unreadable s)) ↔
        ∀ a, ¬ Written (ts.map Char.toUpper) a)) ∧
    ∀ a : Address, parse a.text = .ok a ↔ a.bit.toNat ≤ 7 := by
  refine ⟨fun s => ⟨trimChars s.toList, fun _ => trimmed_iff, fun _ => parse_eq_ok,
    fun _ => parse_eq_bitOutOfRange, parse_eq_unreadable⟩, fun a => ?_⟩
  rw [parse_eq_ok, trimChars_text]
  exact and_iff_right (written_text a)

end Address

end FieldImage
