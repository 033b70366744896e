import FieldImage.Text.Blank
import Mathlib.Data.List.TakeWhile

/-! A text without the blanks around it, and the first of several points: each as what the text looks
like, and as what the functions find. -/

namespace FieldImage.Text

/-- The rest of a text when the blanks at both ends are taken away. -/
structure Trimmed (cs ts : List Char) : Prop where
  around : ∃ before after, cs = before ++ ts ++ after ∧ (∀ c ∈ before, isBlank c = true) ∧
    ∀ c ∈ after, isBlank c = true
  first : ∀ c, ts.head? = some c → isBlank c = false
  last : ∀ c, ts.getLast? = some c → isBlank c = false

theorem isBlank_of_head?_dropWhile {cs : List Char} {c : Char}
    (h : (cs.dropWhile isBlank).head? = some c) : isBlank c = false := by
  have hnot := List.head?_dropWhile_not isBlank cs
  rwa [h] at hnot

theorem dropWhile_of_head? {cs : List Char} (h : ∀ c, cs.head? = some c → isBlank c = false) :
    cs.dropWhile isBlank = cs := by
  cases cs with
  | nil => rfl
  | cons c r => rw [List.dropWhile_cons, h c rfl]; rfl

theorem trimChars_append_blanks (cs : List Char) :
    trimChars cs ++ ((cs.dropWhile isBlank).reverse.takeWhile isBlank).reverse =
      cs.dropWhile isBlank := by
  rw [trimChars, ← List.reverse_append, List.takeWhile_append_dropWhile, List.reverse_reverse]

theorem trimmed_trimChars (cs : List Char) : Trimmed cs (trimChars cs) where
  around := by
    refine ⟨cs.takeWhile isBlank, ((cs.dropWhile isBlank).reverse.takeWhile isBlank).reverse, ?_,
      fun c hc => List.mem_takeWhile_imp hc, fun c hc => ?_⟩
    · rw [List.append_assoc, trimChars_append_blanks, List.takeWhile_append_dropWhile]
    · exact List.mem_takeWhile_imp (List.mem_reverse.mp hc)
  first c hc := by
    have hfront : (cs.dropWhile isBlank).head? = some c := by
      rw [← trimChars_append_blanks, List.head?_append, hc, Option.some_or]
    exact isBlank_of_head?_dropWhile hfront
  last c hc := by
    rw [trimChars, List.getLast?_reverse] at hc
    exact isBlank_of_head?_dropWhile hc

theorem Trimmed.eq_trimChars {cs ts : List Char} (h : Trimmed cs ts) : ts = trimChars cs := by
  obtain ⟨⟨before, after, rfl, hbefore, hafter⟩, hfirst, hlast⟩ := h
  cases ts with
  | nil =>
    have hall : (before ++ [] ++ after).dropWhile isBlank = [] := by
      rw [List.dropWhile_eq_nil_iff, List.append_nil]
      exact fun c hc => (List.mem_append.mp hc).elim (hbefore c) (hafter c)
    rw [trimChars, hall]
    rfl
  | cons t r =>
    have hfront : (before ++ (t :: r) ++ after).dropWhile isBlank = t :: r ++ after := by
      rw [List.append_assoc, List.dropWhile_append_of_pos hbefore]
      exact dropWhile_of_head? fun c hc => hfirst c hc
    rw [trimChars, hfront, List.reverse_append, List.dropWhile_append_of_pos, dropWhile_of_head?,
      List.reverse_reverse]
    · exact fun c hc => hlast c (by rwa [List.head?_reverse] at hc)
    · exact fun c hc => hafter c (List.mem_reverse.mp hc)

/-- The trimmed text is the only one. -/
theorem trimmed_iff {cs ts : List Char} : Trimmed cs ts ↔ ts = trimChars cs :=
  ⟨Trimmed.eq_trimChars, fun h => h ▸ trimmed_trimChars cs⟩

theorem trimChars_of_not_blank {cs : List Char} (h : ∀ c ∈ cs, isBlank c = false) :
    trimChars cs = cs := by
  refine (trimmed_iff.mp ⟨⟨[], [], by simp, by simp, by simp⟩, fun c hc => ?_, fun c hc => ?_⟩).symm
  · exact h c (List.mem_of_mem_head? hc)
  · exact h c (List.mem_of_getLast? hc)

theorem splitAt?_eq_none {p : Char → Bool} {cs : List Char} :
    splitAt? p cs = none ↔ ∀ c ∈ cs, p c = false := by
  induction cs with
  | nil => simp [splitAt?]
  | cons c r ih =>
    cases hc : p c with
    | true => simp [splitAt?, hc]
    | false => simp [splitAt?, hc, ih]

theorem splitAt?_append {p : Char → Bool} {a b : List Char} {c : Char}
    (ha : ∀ x ∈ a, p x = false) (hc : p c = true) : splitAt? p (a ++ c :: b) = some (a, b) := by
  induction a with
  | nil => simp [splitAt?, hc]
  | cons x a ih =>
    obtain ⟨hx, ha⟩ := List.forall_mem_cons.mp ha
    simp [splitAt?, hx, ih ha]

theorem eq_append_of_splitAt? {p : Char → Bool} {cs a b : List Char}
    (h : splitAt? p cs = some (a, b)) : ∃ c, cs = a ++ c :: b ∧ p c = true := by
  induction cs generalizing a with
  | nil => cases h
  | cons x r ih =>
    rw [splitAt?] at h
    split at h
    · rename_i hx
      cases h
      exact ⟨x, rfl, hx⟩
    · obtain ⟨⟨a', b'⟩, hr, hab⟩ := Option.map_eq_some_iff.mp h
      cases hab
      obtain ⟨c, rfl, hc⟩ := ih hr
      exact ⟨c, rfl, hc⟩

end FieldImage.Text
