import FieldImage.Modbus.Backend
import Mathlib.Data.List.Perm.Basic

/-! The runs of registers that a list of numbers makes: they are not empty, they have between them
the numbers of the list and no others, and those of an ascending list stand apart. So every number
is in one run only, and numbers gathered run by run are the numbers of the list. -/

namespace FieldImage.Backend

variable {n m : Nat} {ns : List Nat}

theorem mem_insertAscending : m ∈ insertAscending n ns ↔ m = n ∨ m ∈ ns := by
  induction ns with
  | nil => simp [insertAscending]
  | cons k ns ih =>
    rw [insertAscending]
    split
    · exact List.mem_cons
    · split
      · rename_i heq
        subst heq
        simp
      · rw [List.mem_cons, ih, List.mem_cons, or_left_comm]

theorem pairwise_insertAscending (h : ns.Pairwise (· < ·)) :
    (insertAscending n ns).Pairwise (· < ·) := by
  induction ns with
  | nil => exact List.pairwise_singleton _ n
  | cons k ns ih =>
    obtain ⟨hk, hns⟩ := List.pairwise_cons.mp h
    rw [insertAscending]
    split
    · rename_i hlt
      have hall : ∀ m ∈ k :: ns, n < m := List.forall_mem_cons.mpr
        ⟨hlt, fun m hm => Nat.lt_trans hlt (hk m hm)⟩
      exact List.pairwise_cons.mpr ⟨hall, h⟩
    · split
      · exact h
      · have hafter : ∀ m ∈ insertAscending n ns, k < m := by
          intro m hm
          rcases mem_insertAscending.mp hm with rfl | hm
          · omega
          · exact hk m hm
        exact List.pairwise_cons.mpr ⟨hafter, ih hns⟩

theorem mem_ascending : m ∈ ascending ns ↔ m ∈ ns := by
  induction ns with
  | nil => exact Iff.rfl
  | cons n ns ih =>
    have hstep : ascending (n :: ns) = insertAscending n (ascending ns) := rfl
    rw [hstep, mem_insertAscending, ih, List.mem_cons]

theorem pairwise_ascending (ns : List Nat) : (ascending ns).Pairwise (· < ·) := by
  induction ns with
  | nil => exact .nil
  | cons n ns ih => exact pairwise_insertAscending ih

def inRun (r : Nat × Nat) (n : Nat) : Bool := r.1 ≤ n && n < r.2

theorem inRun_eq_true {r : Nat × Nat} : inRun r n = true ↔ r.1 ≤ n ∧ n < r.2 := by
  simp [inRun]

theorem contiguousRuns_cons (n : Nat) (ns : List Nat) :
    ∃ stop runs, contiguousRuns (n :: ns) = (n, stop) :: runs := by
  rw [contiguousRuns]
  split
  · split
    · exact ⟨_, _, rfl⟩
    · exact ⟨_, _, rfl⟩
  · exact ⟨_, _, rfl⟩

theorem contiguousRuns_nonempty (ns : List Nat) : ∀ r ∈ contiguousRuns ns, r.1 < r.2 := by
  induction ns with
  | nil => exact List.forall_mem_nil _
  | cons n ns ih =>
    rw [contiguousRuns]
    split
    · rename_i start stop runs heq
      rw [heq] at ih
      obtain ⟨hfirst, hruns⟩ := List.forall_mem_cons.mp ih
      split
      · exact List.forall_mem_cons.mpr ⟨by dsimp only at hfirst ⊢; omega, hruns⟩
      · exact List.forall_mem_cons.mpr ⟨Nat.lt_succ_self n, ih⟩
    · exact List.forall_mem_singleton.mpr (Nat.lt_succ_self n)

/-- The runs have the numbers of the list, and no others. -/
theorem mem_iff_inRun : m ∈ ns ↔ ∃ r ∈ contiguousRuns ns, inRun r m := by
  induction ns with
  | nil => simp [contiguousRuns]
  | cons n ns ih =>
    have hnonempty := contiguousRuns_nonempty ns
    rw [List.mem_cons, ih, contiguousRuns]
    split
    · rename_i start stop runs heq
      rw [heq] at hnonempty ⊢
      have hfirst : start < stop := (List.forall_mem_cons.mp hnonempty).1
      split
      · -- `n` joins the first run, which began behind it
        rename_i hnext
        simp only [List.exists_mem_cons_iff, inRun_eq_true, ← or_assoc]
        apply or_congr_left
        omega
      · simp only [List.exists_mem_cons_iff, inRun_eq_true, ← or_assoc]
        apply or_congr_left
        apply or_congr_left
        omega
    · rename_i heq
      simp only [heq, List.exists_mem_cons_iff, inRun_eq_true, List.not_mem_nil, false_and,
        exists_false, or_false]
      omega

/-- The runs of an ascending list stand apart, in the order of the list. -/
theorem pairwise_contiguousRuns (h : ns.Pairwise (· < ·)) :
    (contiguousRuns ns).Pairwise fun r s => r.2 < s.1 := by
  induction ns with
  | nil => exact .nil
  | cons n ns ih =>
    obtain ⟨hn, hns⟩ := List.pairwise_cons.mp h
    cases ns with
    | nil => exact List.pairwise_singleton _ _
    | cons k ns =>
      obtain ⟨stop, runs, heq⟩ := contiguousRuns_cons k ns
      have hlt : n < k := hn k List.mem_cons_self
      have hnonempty : k < stop := contiguousRuns_nonempty (k :: ns) (k, stop) (by simp [heq])
      have ih := ih hns
      rw [contiguousRuns, heq]
      rw [heq] at ih
      obtain ⟨hafter, hruns⟩ := List.pairwise_cons.mp ih
      dsimp only
      split
      · exact List.pairwise_cons.mpr ⟨hafter, hruns⟩
      · -- `n` is a run of its own, and a number is missing between it and `k`
        have hgap : n + 1 < k := by omega
        have hall : ∀ s ∈ (k, stop) :: runs, n + 1 < s.1 := by
          intro s hs
          rcases List.mem_cons.mp hs with rfl | hs
          · exact hgap
          · have hstart : stop < s.1 := hafter s hs
            omega
        exact List.pairwise_cons.mpr ⟨hall, ih⟩

variable {α : Type}

/-- Members gathered run by run are those that are in some run, each as often as the list has it. -/
theorem perm_gather (as : List α) (f : α → Nat) {runs : List (Nat × Nat)}
    (hruns : runs.Pairwise fun r s => r.2 < s.1) :
    List.Perm (runs.flatMap fun r => as.filter fun a => inRun r (f a))
      (as.filter fun a => runs.any fun r => inRun r (f a)) := by
  induction runs with
  | nil => simp
  | cons r runs ih =>
    obtain ⟨hr, hruns⟩ := List.pairwise_cons.mp hruns
    -- the members in some run are those in the first and, since runs stand apart, the others
    have hsplit := List.filter_append_perm (fun a => inRun r (f a))
      (as.filter fun a => (r :: runs).any fun r => inRun r (f a))
    have hfirst : (as.filter fun a => (r :: runs).any fun r => inRun r (f a)).filter
        (fun a => inRun r (f a)) = as.filter fun a => inRun r (f a) := by
      rw [List.filter_filter]
      apply List.filter_congr
      intro a _
      simp +contextual
    have hothers : (as.filter fun a => (r :: runs).any fun r => inRun r (f a)).filter
        (fun a => !inRun r (f a)) = as.filter fun a => runs.any fun r => inRun r (f a) := by
      rw [List.filter_filter]
      apply List.filter_congr
      intro a _
      by_cases hany : runs.any (fun r => inRun r (f a)) = true
      · obtain ⟨s, hs, hin⟩ := List.any_eq_true.mp hany
        have hgap := hr s hs
        have hout : inRun r (f a) = false := by
          rw [Bool.eq_false_iff]
          intro hboth
          rw [inRun_eq_true] at hin hboth
          omega
        simp [hany, hout]
      · simp [hany]
    rw [hfirst, hothers] at hsplit
    rw [List.flatMap_cons]
    exact (ih hruns).append_left _ |>.trans hsplit

/-- The runs of the places of a list's members have each member, once for each time it is in the
list. -/
theorem perm_gather_ascending (as : List α) (f : α → Nat) :
    List.Perm ((contiguousRuns (ascending (as.map f))).flatMap fun r =>
      as.filter fun a => inRun r (f a)) as := by
  have hall : (as.filter fun a =>
      (contiguousRuns (ascending (as.map f))).any fun r => inRun r (f a)) = as := by
    rw [List.filter_eq_self]
    intro a ha
    have hmem : f a ∈ ascending (as.map f) := mem_ascending.mpr (List.mem_map_of_mem ha)
    exact List.any_eq_true.mpr (mem_iff_inRun.mp hmem)
  have hapart := pairwise_contiguousRuns (pairwise_ascending (as.map f))
  have hgather := perm_gather as f hapart
  rwa [hall] at hgather

end FieldImage.Backend
