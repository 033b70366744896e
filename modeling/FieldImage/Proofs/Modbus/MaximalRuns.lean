import FieldImage.Proofs.Modbus.Footprint
import Mathlib.Data.Finset.Sort

/-! The runs of a finite set of registers are as long as they can be: between any two of them a
register is missing, and every register of the set is in one of them. A set has only one such list
of runs, and a loop over the set that makes the last run longer or begins another one ends with
it. -/

namespace FieldImage

/-! ### Covers -/

namespace Covers

variable {runs runs' : List (Nat × Nat)} {p : Nat → Prop} {r r' : Nat × Nat} {n : Nat}

theorem not_nil (hn : p n) : ¬Covers [] p := by
  intro h
  obtain ⟨q, hq, -⟩ := (h.mem_iff n).mp hn
  cases hq

/-- The ranges behind the first one cover what is behind it. -/
theorem tail (h : Covers (r :: runs) p) : Covers runs fun n => p n ∧ r.2 < n := by
  obtain ⟨-, hnonempty⟩ := List.forall_mem_cons.mp h.nonempty
  obtain ⟨hbehind, hapart⟩ := List.pairwise_cons.mp h.apart
  refine ⟨hnonempty, hapart, fun n => ?_⟩
  constructor
  · rintro ⟨hp, hlt⟩
    obtain ⟨q, hq, hin⟩ := (h.mem_iff n).mp hp
    rcases List.mem_cons.mp hq with rfl | hq
    · omega
    · exact ⟨q, hq, hin⟩
  · rintro ⟨q, hq, hin⟩
    have hgap : r.2 < q.1 := hbehind q hq
    exact ⟨(h.mem_iff n).mpr ⟨q, List.mem_cons_of_mem r hq, hin⟩, by omega⟩

theorem start_mem (h : Covers (r :: runs) p) : p r.1 :=
  (h.mem_iff r.1).mpr ⟨r, .head _, Nat.le_refl _, h.nonempty r (.head _)⟩

/-- The first range begins with the least number. -/
theorem start_le (h : Covers (r :: runs) p) (hn : p n) : r.1 ≤ n := by
  obtain ⟨q, hq, hin⟩ := (h.mem_iff n).mp hn
  rcases List.mem_cons.mp hq with rfl | hq
  · exact hin.1
  · have hlt : r.1 < r.2 := h.nonempty r (.head _)
    have hgap : r.2 < q.1 := (List.pairwise_cons.mp h.apart).1 q hq
    omega

/-- The first range ends before the first number that is missing. -/
theorem stop_le (h : Covers (r :: runs) p) (hle : r.1 ≤ n) (hn : ¬p n) : r.2 ≤ n := by
  by_contra hlt
  exact hn ((h.mem_iff n).mpr ⟨r, .head _, hle, Nat.lt_of_not_le hlt⟩)

theorem stop_le_of_forall_lt {bound : Nat} (h : Covers runs p) (hbound : ∀ n, p n → n < bound)
    (hr : r ∈ runs) : r.2 ≤ bound := by
  have hlt : r.1 < r.2 := h.nonempty r hr
  have hlast : p (r.2 - 1) := (h.mem_iff _).mpr ⟨r, hr, by omega, by omega⟩
  have hbelow := hbound _ hlast
  omega

theorem head_eq (h : Covers (r :: runs) p) (h' : Covers (r' :: runs') p) : r = r' := by
  have hstart : r.1 = r'.1 := Nat.le_antisymm (h.start_le h'.start_mem) (h'.start_le h.start_mem)
  have hlt : r.1 < r.2 := h.nonempty r (.head _)
  have hlt' : r'.1 < r'.2 := h'.nonempty r' (.head _)
  have hle : r.2 ≤ r'.2 := h.stop_le (by omega) (h'.stop_not_mem (.head _))
  have hge : r'.2 ≤ r.2 := h'.stop_le (by omega) (h.stop_not_mem (.head _))
  exact Prod.ext hstart (Nat.le_antisymm hle hge)

/-- Numbers have one cover. -/
theorem unique (h : Covers runs p) (h' : Covers runs' p) : runs = runs' := by
  induction runs generalizing runs' p with
  | nil =>
    cases runs' with
    | nil => rfl
    | cons r' runs' => exact absurd h (not_nil h'.start_mem)
  | cons r runs ih =>
    cases runs' with
    | nil => exact absurd h' (not_nil h.start_mem)
    | cons r' runs' =>
      obtain rfl := h.head_eq h'
      rw [ih h.tail h'.tail]

open Backend in
/-- A number that is covered is in one range. -/
theorem countP_eq_one (h : Covers runs p) (hn : p n) : runs.countP (inRun · n) = 1 := by
  induction runs generalizing p with
  | nil => exact absurd h (not_nil hn)
  | cons r runs ih =>
    obtain ⟨hbehind, -⟩ := List.pairwise_cons.mp h.apart
    by_cases hin : inRun r n = true
    · have hnone : runs.countP (inRun · n) = 0 := by
        rw [List.countP_eq_zero]
        intro q hq hboth
        have hgap : r.2 < q.1 := hbehind q hq
        rw [inRun_eq_true] at hin hboth
        omega
      rw [List.countP_cons_of_pos (p := (inRun · n)) hin, hnone]
    · have hstart : r.1 ≤ n := h.start_le hn
      have hstop : n ≠ r.2 := by
        rintro rfl
        exact h.stop_not_mem (.head _) hn
      have hafter : r.2 < n := by
        rw [inRun_eq_true] at hin
        omega
      rw [List.countP_cons_of_neg (p := (inRun · n)) hin]
      exact ih h.tail ⟨hn, hafter⟩

end Covers

/-- The maximal runs of a finite set, in ascending order. -/
structure MaximalRuns (s : Finset Nat) (runs : List (Nat × Nat)) : Prop where
  nonempty : ∀ r ∈ runs, r.1 < r.2
  /-- A range ends at or before a number that is not in the set, and later ones begin behind it. -/
  separated : runs.Pairwise fun r q => ∃ n, n ∉ s ∧ r.2 ≤ n ∧ n < q.1
  mem_iff (n : Nat) : n ∈ s ↔ ∃ r ∈ runs, r.1 ≤ n ∧ n < r.2
  /-- A number of the set is in one range only. -/
  once : ∀ n ∈ s, runs.countP (Backend.inRun · n) = 1

theorem maximalRuns_iff_covers {s : Finset Nat} {runs : List (Nat × Nat)} :
    MaximalRuns s runs ↔ Covers runs (· ∈ s) := by
  constructor
  · intro h
    refine ⟨h.nonempty, h.separated.imp ?_, h.mem_iff⟩
    rintro r q ⟨n, -, hafter, hbefore⟩
    omega
  · intro h
    refine ⟨h.nonempty, h.apart.imp_of_mem ?_, h.mem_iff, fun n => h.countP_eq_one⟩
    intro r q hr _ hgap
    exact ⟨r.2, h.stop_not_mem hr, Nat.le_refl _, hgap⟩

namespace Backend

/-! ### The loop over a set -/

/-- One turn of the loop: the number right behind the last range makes it longer, and any other one
begins a range. -/
def extendOrOpen (runs : List (Nat × Nat)) (n : Nat) : List (Nat × Nat) :=
  match runs.getLast? with
  | some (start, stop) =>
    if stop = n then runs.dropLast ++ [(start, stop + 1)] else runs ++ [(n, n + 1)]
  | none => [(n, n + 1)]

theorem extendOrOpen_cons (r q : Nat × Nat) (runs : List (Nat × Nat)) (n : Nat) :
    extendOrOpen (r :: q :: runs) n = r :: extendOrOpen (q :: runs) n := by
  have hlast : (r :: q :: runs).getLast? = (q :: runs).getLast? := List.getLast?_cons_cons
  rw [extendOrOpen, extendOrOpen, hlast]
  split
  · split <;> rfl
  · rename_i hnone
    cases List.getLast?_eq_none_iff.mp hnone

theorem extendOrOpen_singleton (start stop n : Nat) :
    extendOrOpen [(start, stop)] n =
      if stop = n then [(start, stop + 1)] else [(start, stop), (n, n + 1)] := rfl

/-- A number at the end of a list is one more turn of the loop. -/
theorem contiguousRuns_concat (ns : List Nat) (n : Nat) :
    contiguousRuns (ns ++ [n]) = extendOrOpen (contiguousRuns ns) n := by
  induction ns with
  | nil => rfl
  | cons m ns ih =>
    rw [List.cons_append, contiguousRuns, ih, contiguousRuns]
    cases contiguousRuns ns with
    | nil =>
      show (if m + 1 = n then [(m, n + 1)] else [(m, m + 1), (n, n + 1)]) = _
      rw [extendOrOpen_singleton]
      split
      · rename_i hnext
        rw [hnext]
      · rfl
    | cons r runs =>
      obtain ⟨start, stop⟩ := r
      cases runs with
      | nil =>
        -- the only range is both the first one, which `m` may join, and the last one
        rw [extendOrOpen_singleton]
        by_cases hlast : stop = n <;> by_cases hfirst : m + 1 = start <;>
          simp [extendOrOpen, hlast, hfirst]
      | cons q runs =>
        rw [extendOrOpen_cons]
        dsimp only
        split
        · rw [extendOrOpen_cons]
        · rw [extendOrOpen_cons, extendOrOpen_cons]

theorem contiguousRuns_eq_foldl (ns : List Nat) : contiguousRuns ns = ns.foldl extendOrOpen [] := by
  induction ns using List.reverseRecOn with
  | nil => rfl
  | append_singleton ns n ih =>
    rw [contiguousRuns_concat, ih, List.foldl_append]
    rfl

/-- Numbers in ascending order are the set of them, sorted. -/
theorem ascending_eq_sort (ns : List Nat) : ascending ns = ns.toFinset.sort := by
  have hset : (ascending ns).toFinset = ns.toFinset := by
    ext n
    rw [List.mem_toFinset, List.mem_toFinset, mem_ascending]
  have hascends := pairwise_ascending ns
  have hnodup : (ascending ns).Nodup := hascends.imp Nat.ne_of_lt
  rw [← hset]
  exact ((List.toFinset_sort (· ≤ ·) hnodup).mpr (hascends.imp Nat.le_of_lt)).symm

/-- The runs of a finite set are its maximal runs, and there is no other list of such runs. The loop
over the set in ascending order ends with them, and numbers in any order have the runs of their
set. The registers of addresses have runs that end far below the bound of a machine's words. -/
theorem contiguousRuns_exact (s : Finset Nat) :
    MaximalRuns s (contiguousRuns s.sort) ∧
      (∀ runs, MaximalRuns s runs → runs = contiguousRuns s.sort) ∧
      s.sort.foldl extendOrOpen [] = contiguousRuns s.sort ∧
      (∀ ns : List Nat, ns.toFinset = s → contiguousRuns (ascending ns) = contiguousRuns s.sort) ∧
      ∀ as : List Address, (as.map fun a => a.offset / 2).toFinset = s →
        ∀ r ∈ contiguousRuns s.sort, r.2 ≤ 2 ^ 31 := by
  have hcovers : Covers (contiguousRuns s.sort) (· ∈ s) := by
    have hsorted := covers_contiguousRuns s.sort
    rw [ascending_eq_sort, Finset.sort_toFinset] at hsorted
    exact hsorted.congr fun n => (Finset.mem_sort _).symm
  refine ⟨maximalRuns_iff_covers.mpr hcovers, ?_, (contiguousRuns_eq_foldl _).symm, ?_, ?_⟩
  · intro runs hruns
    exact (maximalRuns_iff_covers.mp hruns).unique hcovers
  · rintro ns rfl
    rw [ascending_eq_sort]
  · rintro as rfl r hr
    refine hcovers.stop_le_of_forall_lt (fun n hn => ?_) hr
    obtain ⟨a, -, rfl⟩ := List.mem_map.mp (List.mem_toFinset.mp hn)
    have hoffset : a.offset < 2 ^ 32 := a.byte.toNat_lt
    omega

example : contiguousRuns (ascending [8, 5, 0, 2, 7, 1, 0]) = [(0, 3), (5, 6), (7, 9)] := by decide

end Backend

end FieldImage
