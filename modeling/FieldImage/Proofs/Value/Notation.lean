import FieldImage.Proofs.Text.Blank
import FieldImage.Proofs.Text.Numeral
import FieldImage.Value.Text

/-! The notation of whole-number values. A text is read as a value of a type exactly when the trimmed
text is a numeral within the range of the type, and the value is the number itself; what is printed
for a value is read back as it. -/

namespace FieldImage.Value

open Text

/-- A decimal numeral, or a hexadecimal one after its mark. -/
def Number (cs : List Char) (n : Nat) : Prop :=
  Numeral 10 cs n ∨ ∃ hex, (cs = '0' :: 'x' :: hex ∨ cs = '0' :: 'X' :: hex) ∧ Numeral 16 hex n

theorem hexDigits?_eq_some {cs hex : List Char} :
    hexDigits? cs = some hex ↔ cs = '0' :: 'x' :: hex ∨ cs = '0' :: 'X' :: hex := by
  constructor
  · intro h
    rw [hexDigits?.eq_def] at h
    split at h <;> cases h
    · exact .inl rfl
    · exact .inr rfl
  · rintro (rfl | rfl) <;> rfl

theorem number_of_hexDigits? {cs hex : List Char} {n : Nat} (h : hexDigits? cs = some hex) :
    Number cs n ↔ Numeral 16 hex n := by
  constructor
  · rintro (hn | ⟨hex', hcs, hn⟩)
    · rcases hexDigits?_eq_some.mp h with rfl | rfl
      · exact absurd (hn.plus_or_isDigit 'x' (by simp)) (by decide)
      · exact absurd (hn.plus_or_isDigit 'X' (by simp)) (by decide)
    · obtain rfl := Option.some.inj (h.symm.trans (hexDigits?_eq_some.mpr hcs))
      exact hn
  · exact fun hn => .inr ⟨hex, hexDigits?_eq_some.mp h, hn⟩

theorem number_of_not_hexDigits? {cs : List Char} {n : Nat} (h : hexDigits? cs = none) :
    Number cs n ↔ Numeral 10 cs n := by
  refine ⟨?_, .inl⟩
  rintro (hn | ⟨hex, hcs, -⟩)
  · exact hn
  · rw [hexDigits?_eq_some.mpr hcs] at h
    cases h

theorem readNumber_eq_ok {cs : List Char} {n : Nat} :
    readNumber cs = .ok n ↔ Number cs n ∧ n ≤ UInt64.size - 1 := by
  rw [readNumber]
  split
  · rename_i hex hhex
    rw [number_of_hexDigits? hhex]
    exact readUnsigned_eq_ok (by decide)
  · rename_i hnone
    rw [number_of_not_hexDigits? hnone]
    exact readUnsigned_eq_ok (by decide)

/-- A number that fits is below the limit of the reader, so no second limit remains. -/
theorem readUnsigned_eq_ok {width : Nat} (hwidth : width ≤ 64) {cs : List Char} {n : Nat} :
    readUnsigned width cs = .ok n ↔ Number cs n ∧ n < 2 ^ width := by
  have hlimit : 2 ^ width ≤ UInt64.size := Nat.pow_le_pow_right (by decide) hwidth
  rw [readUnsigned]
  constructor
  · intro h
    split at h
    · cases h
    · rename_i m hm
      split at h
      · rename_i hlt
        cases h
        exact ⟨(readNumber_eq_ok.mp hm).1, hlt⟩
      · cases h
  · rintro ⟨hn, hlt⟩
    rw [readNumber_eq_ok.mpr ⟨hn, by omega⟩]
    exact if_pos hlt

theorem readInt_eq_ok {cs : List Char} {i : Int32} :
    readInt cs = .ok i ↔
      ∃ j : Int, SignedNumeral cs j ∧ -2 ^ 31 ≤ j ∧ j ≤ 2 ^ 31 - 1 ∧ i = .ofInt j := by
  have hread (j : Int) : readSigned (Nat.pow 2 31) (Nat.pow 2 31 - 1) cs = .ok j ↔
      SignedNumeral cs j ∧ -2 ^ 31 ≤ j ∧ j ≤ 2 ^ 31 - 1 := readSigned_eq_ok
  rw [readInt]
  constructor
  · intro h
    split at h
    · cases h
    · rename_i j hj
      cases h
      obtain ⟨hsigned, hlow, hhigh⟩ := (hread j).mp hj
      exact ⟨j, hsigned, hlow, hhigh, rfl⟩
  · rintro ⟨j, hsigned, hlow, hhigh, rfl⟩
    rw [(hread j).mpr ⟨hsigned, hlow, hhigh⟩]

/-! ### Texts -/

theorem parse_eq_ok {type : DataType} {text : String} {v : Value} :
    parse type text = .ok v ↔ readTrimmed type (trimChars text.toList) = .ok v := by
  rw [parse]
  cases readTrimmed type (trimChars text.toList) with
  | error e => exact iff_of_false nofun nofun
  | ok w =>
    show Except.ok w = Except.ok v ↔ _
    rw [Except.ok.injEq, Except.ok.injEq]

theorem parse_unsigned_eq_ok {type : DataType} {width : Nat} {make : Nat → Value} {text : String}
    {v : Value} (hwidth : width ≤ 64)
    (htype : ∀ cs, readTrimmed type cs = (readUnsigned width cs).map make) :
    parse type text = .ok v ↔
      ∃ n, Number (trimChars text.toList) n ∧ n < 2 ^ width ∧ v = make n := by
  rw [parse_eq_ok, htype, map_eq_ok]
  simp only [readUnsigned_eq_ok hwidth, and_assoc]

theorem parse_byte_eq_ok {text : String} {v : Value} : parse .byte text = .ok v ↔
    ∃ n, Number (trimChars text.toList) n ∧ n < 2 ^ 8 ∧ v = .byte (.ofNat n) :=
  parse_unsigned_eq_ok (by decide) fun _ => rfl

theorem parse_word_eq_ok {text : String} {v : Value} : parse .word text = .ok v ↔
    ∃ n, Number (trimChars text.toList) n ∧ n < 2 ^ 16 ∧ v = .word (.ofNat n) :=
  parse_unsigned_eq_ok (by decide) fun _ => rfl

theorem parse_dword_eq_ok {text : String} {v : Value} : parse .dword text = .ok v ↔
    ∃ n, Number (trimChars text.toList) n ∧ n < 2 ^ 32 ∧ v = .dword (.ofNat n) :=
  parse_unsigned_eq_ok (by decide) fun _ => rfl

theorem parse_int_eq_ok {text : String} {v : Value} : parse .int text = .ok v ↔
    ∃ i, SignedNumeral (trimChars text.toList) i ∧ -2 ^ 31 ≤ i ∧ i ≤ 2 ^ 31 - 1 ∧
      v = .int (.ofInt i) := by
  rw [parse_eq_ok, readTrimmed, map_eq_ok]
  simp only [readInt_eq_ok]
  constructor
  · rintro ⟨_, ⟨j, hj, hlow, hhigh, rfl⟩, rfl⟩
    exact ⟨j, hj, hlow, hhigh, rfl⟩
  · rintro ⟨j, hj, hlow, hhigh, rfl⟩
    exact ⟨_, ⟨j, hj, hlow, hhigh, rfl⟩, rfl⟩

/-! ### Printed values -/

/-- The number and the hexadecimal number in the text of a value are each read back as the value. -/
def PartsReadBack (v : Value) : Prop :=
  ∃ decimal hex : List Char,
    v.text = String.ofList decimal ++ " (0x" ++ String.ofList hex ++ ")" ∧
    (∀ c ∈ decimal, c.isDigit = true) ∧ (∀ c ∈ hex, ∃ d, IsDigit 16 c d) ∧
    parse v.type (String.ofList decimal) = .ok v ∧
    parse v.type (String.ofList ('0' :: 'x' :: hex)) = .ok v

theorem number_of_denotes_hex {hex : List Char} {n : Nat} (h : Denotes 16 hex n) :
    Number ('0' :: 'x' :: hex) n :=
  .inr ⟨hex, .inl rfl, hex, .inl rfl, h⟩

/-- It is enough that a numeral of a number is read as the value. -/
theorem partsReadBack_of_reads {v : Value} {width n : Nat} (hwidth : 0 < width)
    (htext : v.text = textWithHex width n)
    (hreads : ∀ text : String, Number (trimChars text.toList) n → parse v.type text = .ok v) :
    PartsReadBack v := by
  have hdecimal : Denotes 10 (Nat.toDigits 10 n) n := denotes_toDigits (by decide) n
  have hhex := denotes_hexUpper hwidth n
  refine ⟨Nat.toDigits 10 n, (hexUpper width n).toList, ?_,
    hdecimal.forall_mem fun _ _ => IsDigit.isDigit, hhex.forall_mem fun _ d hd => ⟨d, hd⟩,
    hreads _ ?_, hreads _ ?_⟩
  · rw [htext, textWithHex, String.ofList_toList]
  · rw [String.toList_ofList, trimChars_of_not_blank]
    · exact .inl ⟨_, .inl rfl, hdecimal⟩
    · exact hdecimal.forall_mem fun _ _ => IsDigit.not_isBlank
  · rw [String.toList_ofList, trimChars_of_not_blank]
    · exact number_of_denotes_hex hhex
    · refine List.forall_mem_cons.mpr ⟨rfl, List.forall_mem_cons.mpr ⟨rfl, ?_⟩⟩
      exact hhex.forall_mem fun _ _ => IsDigit.not_isBlank

theorem parse_text_bit (b : Bool) : parse .bit (Value.bit b).text = .ok (.bit b) := by
  cases b <;> rfl

theorem signedNumeral_repr (i : Int) : SignedNumeral i.repr.toList i := by
  cases i with
  | ofNat n =>
    refine .inl ⟨n, ⟨_, .inl rfl, ?_⟩, rfl⟩
    show Denotes 10 n.repr.toList n
    rw [Nat.toList_repr]
    exact denotes_toDigits (by decide) n
  | negSucc n =>
    refine .inr ⟨Nat.toDigits 10 (n + 1), n + 1, ?_, denotes_toDigits (by decide) _,
      Int.negSucc_eq n⟩
    show ("-" ++ (n + 1).repr).toList = _
    rw [String.toList_append, Nat.toList_repr]
    rfl

theorem parse_text_int (i : Int32) : parse .int (Value.int i).text = .ok (.int i) := by
  have hsigned : SignedNumeral (Value.int i).text.toList i.toInt := signedNumeral_repr i.toInt
  refine parse_int_eq_ok.mpr ⟨i.toInt, ?_, i.le_toInt, Int.le_sub_one_of_lt i.toInt_lt, ?_⟩
  · rwa [trimChars_of_not_blank hsigned.not_isBlank]
  · rw [Int32.ofInt_toInt]

/-- A byte, a word or a double word is read from a text exactly when the text is a number below two to
its width, and an integer exactly when it is a signed numeral in its range. Both numbers in the text
of an unsigned value are read back as it, and the whole text of a bit or an integer is. -/
theorem integers_parse_exactly :
    (∀ text : String, ∃ ts, (∀ us, Trimmed text.toList us ↔ us = ts) ∧
      (∀ v, parse .byte text = .ok v ↔
        ∃ n, Number ts n ∧ n < 2 ^ 8 ∧ v = .byte (.ofNat n)) ∧
      (∀ v, parse .word text = .ok v ↔
        ∃ n, Number ts n ∧ n < 2 ^ 16 ∧ v = .word (.ofNat n)) ∧
      (∀ v, parse .dword text = .ok v ↔
        ∃ n, Number ts n ∧ n < 2 ^ 32 ∧ v = .dword (.ofNat n)) ∧
      ∀ v, parse .int text = .ok v ↔
        ∃ i, SignedNumeral ts i ∧ -2 ^ 31 ≤ i ∧ i ≤ 2 ^ 31 - 1 ∧ v = .int (.ofInt i)) ∧
    (∀ b : UInt8, PartsReadBack (.byte b)) ∧ (∀ w : UInt16, PartsReadBack (.word w)) ∧
    (∀ d : UInt32, PartsReadBack (.dword d)) ∧
    (∀ b : Bool, parse .bit (Value.bit b).text = .ok (.bit b)) ∧
    ∀ i : Int32, parse .int (Value.int i).text = .ok (.int i) := by
  refine ⟨fun text => ⟨trimChars text.toList, fun _ => trimmed_iff, fun _ => parse_byte_eq_ok,
    fun _ => parse_word_eq_ok, fun _ => parse_dword_eq_ok, fun _ => parse_int_eq_ok⟩,
    fun b => ?_, fun w => ?_, fun d => ?_, parse_text_bit, parse_text_int⟩
  · refine partsReadBack_of_reads (by decide) rfl fun text h => parse_byte_eq_ok.mpr ?_
    exact ⟨b.toNat, h, b.toNat_lt, by rw [UInt8.ofNat_toNat]⟩
  · refine partsReadBack_of_reads (by decide) rfl fun text h => parse_word_eq_ok.mpr ?_
    exact ⟨w.toNat, h, w.toNat_lt, by rw [UInt16.ofNat_toNat]⟩
  · refine partsReadBack_of_reads (by decide) rfl fun text h => parse_dword_eq_ok.mpr ?_
    exact ⟨d.toNat, h, d.toNat_lt, by rw [UInt32.ofNat_toNat]⟩

end FieldImage.Value
