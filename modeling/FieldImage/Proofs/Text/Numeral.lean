import FieldImage.Text.Blank
import FieldImage.Text.Numeral
import Mathlib.Data.List.Forall2
import Mathlib.Data.Nat.Digits.Defs
import Mathlib.Tactic.IntervalCases

/-! Texts that denote whole numbers. A reader accepts a text exactly when it denotes a number within
the reader's limit, and gives that number; a number that is printed denotes itself. -/

namespace FieldImage.Text

def figures : List Char :=
  ['0', '1', '2', '3', '4', '5', '6', '7', '8', '9', 'a', 'b', 'c', 'd', 'e', 'f']

/-- A digit of a base up to sixteen, a letter in either case. -/
def IsDigit (base : Nat) (c : Char) (d : Nat) : Prop :=
  d < base ∧ (figures[d]? = some c ∨ (figures.map Char.toUpper)[d]? = some c)

/-- At least one digit, the highest first. -/
def Denotes (base : Nat) (cs : List Char) (n : Nat) : Prop :=
  cs ≠ [] ∧ ∃ ds, List.Forall₂ (IsDigit base) cs ds ∧ n = Nat.ofDigits base ds.reverse

/-- Digits after an optional plus sign. -/
def Numeral (base : Nat) (cs : List Char) (n : Nat) : Prop :=
  ∃ ds, (cs = ds ∨ cs = '+' :: ds) ∧ Denotes base ds n

/-- A decimal numeral, or decimal digits after a minus sign. -/
def SignedNumeral (cs : List Char) (i : Int) : Prop :=
  (∃ n : Nat, Numeral 10 cs n ∧ i = n) ∨ ∃ ds, ∃ n : Nat, cs = '-' :: ds ∧ Denotes 10 ds n ∧ i = -n

/-! ### Digits -/

theorem figures_eq_some {d : Nat} (hd : d < 16) (c : Char) :
    figures[d]? = some c ↔ c.toNat = if d < 10 then 0x30 + d else 0x57 + d := by
  interval_cases d <;> simp [figures, ← Char.toNat_inj, eq_comm]

theorem capitals_eq_some {d : Nat} (hd : d < 16) (c : Char) :
    (figures.map Char.toUpper)[d]? = some c ↔
      c.toNat = if d < 10 then 0x30 + d else 0x37 + d := by
  interval_cases d <;> simp [figures, ← Char.toNat_inj, eq_comm]

theorem digit?_eq_some {base : Nat} (hbase : base ≤ 16) {c : Char} {d : Nat} :
    digit? base c = some d ↔ IsDigit base c d := by
  by_cases hd : d < base
  · rw [IsDigit, figures_eq_some (by omega), capitals_eq_some (by omega), digit?]
    simp only [hd, true_and]
    grind
  · simp only [IsDigit, hd, false_and, iff_false, digit?]
    grind

namespace IsDigit

variable {base : Nat} {c : Char} {d : Nat}

theorem toUpper (h : IsDigit base c d) : IsDigit base c.toUpper d := by
  obtain ⟨hd, h⟩ := h
  have hidempotent : ∀ c ∈ figures, c.toUpper.toUpper = c.toUpper := by simp [figures]
  refine ⟨hd, .inr ?_⟩
  rw [List.getElem?_map]
  rcases h with h | h
  · rw [h]
    rfl
  · rw [List.getElem?_map, Option.map_eq_some_iff] at h
    obtain ⟨b, hb, rfl⟩ := h
    rw [hb, Option.map_some, hidempotent b (List.mem_of_getElem? hb)]

theorem mem_figures (h : IsDigit base c d) : c ∈ figures ++ figures.map Char.toUpper :=
  List.mem_append.mpr (h.2.imp List.mem_of_getElem? List.mem_of_getElem?)

theorem isAlphanum (h : IsDigit base c d) : c.isAlphanum = true := by
  have hall : ∀ c ∈ figures ++ figures.map Char.toUpper, c.isAlphanum = true := by
    simp [figures]
  exact hall c h.mem_figures

theorem not_isBlank (h : IsDigit base c d) : isBlank c = false := by
  have hall : ∀ c ∈ figures ++ figures.map Char.toUpper, isBlank c = false := by
    simp [figures, isBlank]
  exact hall c h.mem_figures

theorem isDigit (h : IsDigit 10 c d) : c.isDigit = true := by
  obtain ⟨hd, h⟩ := h
  rw [figures_eq_some (by omega), capitals_eq_some (by omega), if_pos hd, if_pos hd, or_self] at h
  have hzero : '0'.toNat = 0x30 := rfl
  have hnine : '9'.toNat = 0x39 := rfl
  rw [Char.isDigit_iff_toNat]
  omega

end IsDigit

/-! ### Denotation -/

namespace Denotes

variable {base n : Nat} {cs : List Char}

theorem concat {c : Char} {d : Nat} (h : Denotes base cs n) (hc : IsDigit base c d) :
    Denotes base (cs ++ [c]) (n * base + d) := by
  obtain ⟨-, ds, hds, rfl⟩ := h
  refine ⟨by simp, ds ++ [d], List.rel_append hds (.cons hc .nil), ?_⟩
  rw [List.reverse_concat, Nat.ofDigits_cons]
  ring

theorem single {c : Char} {d : Nat} (hc : IsDigit base c d) : Denotes base [c] d :=
  ⟨by simp, [d], .cons hc .nil, by simp⟩

theorem toUpper (h : Denotes base cs n) : Denotes base (cs.map Char.toUpper) n := by
  obtain ⟨hne, ds, hds, rfl⟩ := h
  refine ⟨by simpa using hne, ds, ?_, rfl⟩
  exact List.forall₂_map_left_iff.mpr (hds.imp fun _ _ => IsDigit.toUpper)

theorem forall_mem {p : Char → Prop} (h : Denotes base cs n)
    (hp : ∀ c d, IsDigit base c d → p c) : ∀ c ∈ cs, p c := by
  obtain ⟨-, ds, hds, -⟩ := h
  induction hds with
  | nil => exact List.forall_mem_nil p
  | cons hd _ ih => exact List.forall_mem_cons.mpr ⟨hp _ _ hd, ih⟩

end Denotes

/-! ### Readers -/

/-- What the digits to come add to the number read so far. The number only grows, so the limit is
passed somewhere exactly when it is passed in the end. -/
theorem readDigits_eq_ok {base limit : Nat} (hbase : 0 < base ∧ base ≤ 16) (fault : NumeralFault)
    {cs : List Char} {acc n : Nat} (hacc : acc ≤ limit) :
    readDigits base limit fault cs acc = .ok n ↔
      ∃ ds, List.Forall₂ (IsDigit base) cs ds ∧
        n = acc * base ^ ds.length + Nat.ofDigits base ds.reverse ∧ n ≤ limit := by
  induction cs generalizing acc with
  | nil =>
    simp only [readDigits, Except.ok.injEq, List.forall₂_nil_left_iff, exists_eq_left,
      List.length_nil, pow_zero, mul_one, List.reverse_nil, Nat.ofDigits_nil, add_zero]
    constructor
    · rintro rfl
      exact ⟨rfl, hacc⟩
    · exact fun h => h.1.symm
  | cons c r ih =>
    have hnext (d : Nat) (ds : List Nat) :
        acc * base ^ (d :: ds).length + Nat.ofDigits base (d :: ds).reverse =
          (acc * base + d) * base ^ ds.length + Nat.ofDigits base ds.reverse := by
      rw [Nat.ofDigits_reverse_cons, List.length_cons]
      ring
    cases hc : digit? base c with
    | none =>
      simp only [readDigits, hc, reduceCtorEq, false_iff]
      rintro ⟨ds, hds, -⟩
      obtain ⟨d, -, hd, -, -⟩ := List.forall₂_cons_left_iff.mp hds
      rw [(digit?_eq_some hbase.2).mpr hd] at hc
      cases hc
    | some d =>
      have hd := (digit?_eq_some hbase.2).mp hc
      by_cases hlimit : limit < acc * base + d
      · simp only [readDigits, hc, hlimit, if_true, reduceCtorEq, false_iff]
        rintro ⟨ds, hds, rfl, hn⟩
        obtain ⟨e, ds, he, -, rfl⟩ := List.forall₂_cons_left_iff.mp hds
        obtain rfl : d = e := Option.some.inj (hc.symm.trans ((digit?_eq_some hbase.2).mpr he))
        have hgrows := Nat.le_mul_of_pos_right (acc * base + d) (Nat.pow_pos (n := ds.length) hbase.1)
        rw [hnext] at hn
        omega
      · simp only [readDigits, hc, hlimit, if_false]
        rw [ih (Nat.le_of_not_lt hlimit)]
        constructor
        · rintro ⟨ds, hds, hn, hle⟩
          exact ⟨d :: ds, .cons hd hds, (hnext d ds).symm ▸ hn, hle⟩
        · rintro ⟨ds, hds, hn, hle⟩
          obtain ⟨e, ds, he, hrest, rfl⟩ := List.forall₂_cons_left_iff.mp hds
          obtain rfl : d = e := Option.some.inj (hc.symm.trans ((digit?_eq_some hbase.2).mpr he))
          exact ⟨ds, hrest, (hnext d ds) ▸ hn, hle⟩

theorem readDigits_zero_eq_ok {base limit : Nat} (hbase : 0 < base ∧ base ≤ 16)
    (fault : NumeralFault) {cs : List Char} (hcs : cs ≠ []) {n : Nat} :
    readDigits base limit fault cs 0 = .ok n ↔ Denotes base cs n ∧ n ≤ limit := by
  rw [readDigits_eq_ok hbase fault (Nat.zero_le limit)]
  simp only [Nat.zero_mul, Nat.zero_add]
  constructor
  · rintro ⟨ds, hds, hn, hle⟩
    exact ⟨⟨hcs, ds, hds, hn⟩, hle⟩
  · rintro ⟨⟨-, ds, hds, hn⟩, hle⟩
    exact ⟨ds, hds, hn, hle⟩

theorem Denotes.isAlphanum_head {base n : Nat} {c : Char} {r : List Char}
    (h : Denotes base (c :: r) n) : c.isAlphanum = true :=
  h.forall_mem (fun _ _ => IsDigit.isAlphanum) c (.head r)

theorem numeral_plus {base n : Nat} {ds : List Char} :
    Numeral base ('+' :: ds) n ↔ Denotes base ds n := by
  constructor
  · rintro ⟨es, h | h, hes⟩
    · subst h
      exact absurd hes.isAlphanum_head (by decide)
    · cases h
      exact hes
  · exact fun h => ⟨ds, .inr rfl, h⟩

theorem numeral_of_ne_plus {base n : Nat} {cs : List Char} (h : ∀ ds, cs ≠ '+' :: ds) :
    Numeral base cs n ↔ Denotes base cs n := by
  constructor
  · rintro ⟨ds, rfl | hds, hn⟩
    · exact hn
    · exact absurd hds (h ds)
  · exact fun hn => ⟨cs, .inl rfl, hn⟩

theorem Numeral.ne_nil {base n : Nat} {cs : List Char} (h : Numeral base cs n) : cs ≠ [] := by
  obtain ⟨ds, rfl | rfl, hds⟩ := h
  · exact hds.1
  · exact List.cons_ne_nil _ _

theorem Numeral.plus_or_isDigit {n : Nat} {cs : List Char} (h : Numeral 10 cs n) :
    ∀ c ∈ cs, c = '+' ∨ c.isDigit = true := by
  obtain ⟨ds, hcs, hds⟩ := h
  have hdigits := hds.forall_mem fun _ _ => IsDigit.isDigit
  rcases hcs with rfl | rfl
  · exact fun c hc => .inr (hdigits c hc)
  · exact List.forall_mem_cons.mpr ⟨.inl rfl, fun c hc => .inr (hdigits c hc)⟩

theorem Numeral.not_isBlank {base n : Nat} {cs : List Char} (h : Numeral base cs n) :
    ∀ c ∈ cs, isBlank c = false := by
  obtain ⟨ds, hcs, hds⟩ := h
  have hdigits := hds.forall_mem fun _ _ => IsDigit.not_isBlank
  rcases hcs with rfl | rfl
  · exact hdigits
  · exact List.forall_mem_cons.mpr ⟨rfl, hdigits⟩

theorem SignedNumeral.not_isBlank {cs : List Char} {i : Int} (h : SignedNumeral cs i) :
    ∀ c ∈ cs, isBlank c = false := by
  obtain ⟨n, hn, -⟩ | ⟨ds, n, rfl, hds, -⟩ := h
  · exact hn.not_isBlank
  · exact List.forall_mem_cons.mpr ⟨rfl, hds.forall_mem fun _ _ => IsDigit.not_isBlank⟩

theorem readUnsigned_eq_ok {base limit : Nat} (hbase : 0 < base ∧ base ≤ 16) {cs : List Char}
    {n : Nat} : readUnsigned base limit cs = .ok n ↔ Numeral base cs n ∧ n ≤ limit := by
  rw [readUnsigned.eq_def]
  split
  · simp [Numeral, Denotes]
  · simp [numeral_plus, Denotes]
  · rename_i r hr
    rw [readDigits_zero_eq_ok hbase _ (by simpa using hr), numeral_plus]
  · rename_i hnil _ hplus
    rw [readDigits_zero_eq_ok hbase _ (by simpa using hnil), numeral_of_ne_plus hplus]

theorem signedNumeral_minus {ds : List Char} {i : Int} :
    SignedNumeral ('-' :: ds) i ↔ ∃ n : Nat, Denotes 10 ds n ∧ i = -n := by
  constructor
  · rintro (⟨n, hn, -⟩ | ⟨es, n, hes, hn⟩)
    · rw [numeral_of_ne_plus (by simp)] at hn
      exact absurd hn.isAlphanum_head (by decide)
    · cases hes
      exact ⟨n, hn⟩
  · rintro ⟨n, hn⟩
    exact .inr ⟨ds, n, rfl, hn⟩

theorem signedNumeral_of_ne_minus {cs : List Char} (h : ∀ ds, cs ≠ '-' :: ds) {i : Int} :
    SignedNumeral cs i ↔ ∃ n : Nat, Numeral 10 cs n ∧ i = n := by
  constructor
  · rintro (hn | ⟨ds, -, hds, -⟩)
    · exact hn
    · exact absurd hds (h ds)
  · exact .inl

theorem map_eq_ok {ε α β : Type} {x : Except ε α} {f : α → β} {b : β} :
    x.map f = .ok b ↔ ∃ a, x = .ok a ∧ b = f a := by
  cases x with
  | error e => simp [Except.map]
  | ok a => simp [Except.map, eq_comm]

theorem readSigned_eq_ok {low high : Nat} {cs : List Char} {i : Int} :
    readSigned low high cs = .ok i ↔ SignedNumeral cs i ∧ -low ≤ i ∧ i ≤ high := by
  have hbase : 0 < 10 ∧ 10 ≤ 16 := by decide
  have hpositive (p : Nat → Prop) : (∃ n, (p n ∧ n ≤ high) ∧ i = Int.ofNat n) ↔
      (∃ n : Nat, p n ∧ i = n) ∧ -low ≤ i ∧ i ≤ high := by
    constructor
    · rintro ⟨n, ⟨hn, hle⟩, rfl⟩
      exact ⟨⟨n, hn, rfl⟩, by simp only [Int.ofNat_eq_natCast]; omega⟩
    · rintro ⟨⟨n, hn, rfl⟩, -, hle⟩
      exact ⟨n, ⟨hn, by omega⟩, rfl⟩
  have hnegative (p : Nat → Prop) : (∃ n, (p n ∧ n ≤ low) ∧ i = -Int.ofNat n) ↔
      (∃ n : Nat, p n ∧ i = -n) ∧ -low ≤ i ∧ i ≤ high := by
    constructor
    · rintro ⟨n, ⟨hn, hle⟩, rfl⟩
      exact ⟨⟨n, hn, rfl⟩, by simp only [Int.ofNat_eq_natCast]; omega⟩
    · rintro ⟨⟨n, hn, rfl⟩, hle, -⟩
      exact ⟨n, ⟨hn, by omega⟩, rfl⟩
  rw [readSigned.eq_def]
  split
  · simp [SignedNumeral, Numeral, Denotes]
  · simp [SignedNumeral, numeral_plus, Denotes]
  · simp [signedNumeral_minus, Denotes]
  · rename_i r hr
    rw [map_eq_ok, signedNumeral_of_ne_minus (by simp)]
    simp only [readDigits_zero_eq_ok hbase _ (by simpa using hr), numeral_plus, hpositive]
  · rename_i r hr
    rw [map_eq_ok, signedNumeral_minus]
    simp only [readDigits_zero_eq_ok hbase _ (by simpa using hr), hnegative]
  · rename_i hnil _ _ hplus hminus
    rw [map_eq_ok, signedNumeral_of_ne_minus hminus]
    simp only [readDigits_zero_eq_ok hbase _ (by simpa using hnil), numeral_of_ne_plus hplus,
      hpositive]

/-! ### Printed numbers -/

theorem isDigit_digitChar {base d : Nat} (hbase : base ≤ 16) (hd : d < base) :
    IsDigit base (Nat.digitChar d) d := by
  have hall : ∀ d < 16, figures[d]? = some (Nat.digitChar d) := by decide
  exact ⟨hd, .inl (hall d (by omega))⟩

theorem digitChar_eq {d : Nat} (hd : d < 16) : digitChar d = Nat.digitChar d := by
  have hall : ∀ d < 16, digitChar d = Nat.digitChar d := by decide
  exact hall d hd

theorem denotes_toDigits {base : Nat} (hbase : 1 < base ∧ base ≤ 16) (n : Nat) :
    Denotes base (Nat.toDigits base n) n := by
  induction n using Nat.strong_induction_on with
  | _ n ih =>
    rw [Nat.toDigits_eq_if hbase.1]
    split
    · rename_i hlt
      exact .single (isDigit_digitChar hbase.2 hlt)
    · rename_i hge
      have hsmaller : n / base < n := Nat.div_lt_self (by omega) hbase.1
      have hlast := isDigit_digitChar hbase.2 (Nat.mod_lt n (Nat.zero_lt_of_lt hbase.1))
      have hall := (ih _ hsmaller).concat hlast
      rwa [Nat.div_add_mod'] at hall

/-- The digits that are printed in front of others add what they stand for at their places. -/
theorem forall₂_digits (width n : Nat) {tail : List Char} {es : List Nat}
    (htail : List.Forall₂ (IsDigit 16) tail es) :
    ∃ ds, List.Forall₂ (IsDigit 16) (digits 16 width n tail) ds ∧ width + es.length ≤ ds.length ∧
      Nat.ofDigits 16 ds.reverse = n * 16 ^ es.length + Nat.ofDigits 16 es.reverse := by
  induction width generalizing n tail es with
  | zero =>
    rw [digits]
    split
    · rename_i hn
      exact ⟨es, htail, by simp, by simp [hn]⟩
    · obtain ⟨-, ds, hds, hn⟩ := denotes_toDigits (by decide : 1 < 16 ∧ 16 ≤ 16) n
      refine ⟨ds ++ es, List.rel_append hds htail, by simp, ?_⟩
      rw [List.reverse_append, Nat.ofDigits_append, List.length_reverse, ← hn]
      ring
  | succ width ih =>
    have hlt : n % 16 < 16 := Nat.mod_lt n (by decide)
    have hlast : IsDigit 16 (digitChar (n % 16)) (n % 16) := by
      rw [digitChar_eq hlt]
      exact isDigit_digitChar (le_refl 16) hlt
    obtain ⟨ds, hds, hlength, hn⟩ := ih (n / 16) (.cons hlast htail)
    rw [List.length_cons] at hlength
    refine ⟨ds, hds, by omega, hn.trans ?_⟩
    rw [Nat.ofDigits_reverse_cons, List.length_cons, pow_succ]
    nth_rewrite 3 [← Nat.div_add_mod' n 16]
    ring

/-- Padded digits in capitals denote their number, when there is at least one. -/
theorem denotes_hexUpper {width : Nat} (hwidth : 0 < width) (n : Nat) :
    Denotes 16 (hexUpper width n).toList n := by
  obtain ⟨ds, hds, hlength, hn⟩ := forall₂_digits width n .nil
  rw [hexUpper, String.toList_ofList]
  refine Denotes.toUpper ⟨?_, ds, hds, by simpa using hn.symm⟩
  rintro hnil
  rw [hnil, List.forall₂_nil_left_iff] at hds
  simp [hds] at hlength
  omega

end FieldImage.Text
