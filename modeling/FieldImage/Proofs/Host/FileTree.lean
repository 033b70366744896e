import FieldImage.Host.FileTree
import FieldImage.Proofs.Fault

/-! What is done to a tree adds to it, a removal apart. The file that was opened under a path is the
one that is found under it. -/

namespace FieldImage.FileTree

variable {t t' : FileTree} {here way : List String} {name path : String} {n : FileNode}
  {id fresh : Nat}

theorem lookup_insert (t : FileTree) (way : List String) (n : FileNode) (other : List String) :
    (t.insert way n).lookup other = (t.lookup other).or (if way = other then some n else none) := by
  rw [lookup, lookup]
  split
  · rfl
  · rw [insert, List.find?_append]
    cases t.nodes.find? (·.1 == other) with
    | some found => rfl
    | none => by_cases h : way = other <;> simp [h]

/-- All that is found in a tree is found in the other. -/
def Within (t t' : FileTree) : Prop := ∀ way n, t.lookup way = some n → t'.lookup way = some n

theorem within_insert (t : FileTree) (way : List String) (n : FileNode) :
    Within t (t.insert way n) := by
  intro other m hfound
  rw [lookup_insert, hfound]
  rfl

theorem child?_eq_ok {found : Option FileNode} :
    t.child? here name = .ok found ↔
      name.utf8ByteSize ≤ Path.maxName ∧ t.lookup (here ++ [name]) = found := by
  rw [child?]
  split
  · rename_i hlong
    exact ⟨nofun, fun h => absurd h.1 (Nat.not_le_of_lt hlong)⟩
  · rename_i hshort
    exact ⟨fun h => ⟨Nat.le_of_not_lt hshort, Except.ok.inj h⟩, fun h => congrArg Except.ok h.2⟩

/-! ### Ways -/

theorem Within.enter (h : Within t t') (henter : t.enter here name = .ok way) :
    t'.enter here name = .ok way := by
  rw [FileTree.enter] at henter ⊢
  split
  · rename_i hstay
    rw [if_pos hstay] at henter
    exact henter
  · rename_i hgo
    rw [if_neg hgo] at henter
    split
    · rename_i hup
      rw [if_pos hup] at henter
      exact henter
    · rename_i hdown
      rw [if_neg hdown] at henter
      obtain ⟨found, hfound, hway⟩ := bind_eq_ok.mp henter
      obtain ⟨hshort, hlookup⟩ := child?_eq_ok.mp hfound
      cases found with
      | none => cases hway
      | some n =>
        have hkept := child?_eq_ok.mpr ⟨hshort, h _ _ hlookup⟩
        rw [hkept]
        exact hway

theorem Within.foldlM_enter (h : Within t t') {names : List String}
    (hway : names.foldlM t.enter here = .ok way) : names.foldlM t'.enter here = .ok way := by
  induction names generalizing here with
  | nil => exact hway
  | cons name names ih =>
    rw [List.foldlM_cons] at hway ⊢
    obtain ⟨next, hnext, hrest⟩ := bind_eq_ok.mp hway
    exact bind_eq_ok.mpr ⟨next, h.enter hnext, ih hrest⟩

theorem Within.goal (h : Within t t') {g : Goal} (hgoal : t.goal path = .ok g) :
    t'.goal path = .ok g := by
  obtain ⟨p, hp, hgoal⟩ := bind_eq_ok.mp hgoal
  refine bind_eq_ok.mpr ⟨p, hp, ?_⟩
  cases hnames : p.names.reverse with
  | nil =>
    simp only [hnames] at hgoal ⊢
    exact hgoal
  | cons last back =>
    simp only [hnames] at hgoal ⊢
    obtain ⟨directory, hdirectory, hgoal⟩ := bind_eq_ok.mp hgoal
    refine bind_eq_ok.mpr ⟨directory, h.foldlM_enter hdirectory, ?_⟩
    split
    · rename_i hstep
      rw [if_pos hstep] at hgoal
      obtain ⟨inner, hinner, hgoal⟩ := bind_eq_ok.mp hgoal
      exact bind_eq_ok.mpr ⟨inner, h.enter hinner, hgoal⟩
    · rename_i hname
      rw [if_neg hname] at hgoal
      exact hgoal

/-! ### Files -/

/-- What an opening does: the file was there, or it is made. -/
inductive Opened (t : FileTree) (g : Goal) (name : String) (fresh : Nat) :
    FileTree → Nat → Prop where
  | there {id : Nat} (h : t.lookup (g.directory ++ [name]) = some (.file id)) :
    Opened t g name fresh t id
  | made (h : t.lookup (g.directory ++ [name]) = none) :
    Opened t g name fresh (t.insert (g.directory ++ [name]) (.file fresh)) fresh

theorem opened_of_openFile (h : t.openFile path fresh = .ok (t', id)) :
    ∃ g name, t.goal path = .ok g ∧ g.name = some name ∧ g.endsInSlash = false ∧
      name.utf8ByteSize ≤ Path.maxName ∧ Opened t g name fresh t' id := by
  obtain ⟨g, hgoal, h⟩ := bind_eq_ok.mp h
  cases hname : g.name with
  | none =>
    simp only [hname] at h
    cases h
  | some name =>
    simp only [hname] at h
    split at h
    · cases h
    · rename_i hend
      obtain ⟨found, hfound, h⟩ := bind_eq_ok.mp h
      obtain ⟨hshort, hlookup⟩ := child?_eq_ok.mp hfound
      refine ⟨g, name, hgoal, hname, Bool.eq_false_iff.mpr hend, hshort, ?_⟩
      cases found with
      | none =>
        cases h
        exact .made hlookup
      | some n =>
        cases n with
        | directory | device => cases h
        | file id =>
          cases h
          exact .there hlookup

theorem node_openFile (h : t.openFile path fresh = .ok (t', id)) :
    t'.node? path = some (.file id) := by
  obtain ⟨g, name, hgoal, hname, hend, hshort, hopened⟩ := opened_of_openFile h
  obtain ⟨hgoal', hlookup⟩ : t'.goal path = .ok g ∧
      t'.lookup (g.directory ++ [name]) = some (.file id) := by
    cases hopened with
    | there hthere => exact ⟨hgoal, hthere⟩
    | made hfree =>
      refine ⟨(within_insert t _ _).goal hgoal, ?_⟩
      rw [lookup_insert, hfree, if_pos rfl]
      rfl
  have hnode : t'.node path = .ok (.file id) := by
    refine bind_eq_ok.mpr ⟨g, hgoal', ?_⟩
    simp only [hname, hend]
    exact bind_eq_ok.mpr ⟨some (.file id), child?_eq_ok.mpr ⟨hshort, hlookup⟩, rfl⟩
  rw [node?, hnode]
  rfl

/-- The files of a tree have numbers below a bound. -/
def FilesBelow (t : FileTree) (bound : Nat) : Prop :=
  ∀ way id, (way, .file id) ∈ t.nodes → id < bound

theorem FilesBelow.mono {bound more : Nat} (h : FilesBelow t bound) (hle : bound ≤ more) :
    FilesBelow t more := fun way id hid => Nat.lt_of_lt_of_le (h way id hid) hle

theorem FilesBelow.lookup {bound : Nat} (h : FilesBelow t bound)
    (hfound : t.lookup way = some (.file id)) : id < bound := by
  rw [FileTree.lookup] at hfound
  split at hfound
  · cases hfound
  · obtain ⟨⟨other, n⟩, hfind, hn⟩ := Option.map_eq_some_iff.mp hfound
    obtain rfl : n = .file id := hn
    exact h other id (List.mem_of_find?_eq_some hfind)

theorem FilesBelow.node? {bound : Nat} (h : FilesBelow t bound)
    (hnode : t.node? path = some (.file id)) : id < bound := by
  have hnode : t.node path = .ok (.file id) := by
    rw [FileTree.node?] at hnode
    cases hn : t.node path with
    | error e =>
      rw [hn] at hnode
      cases hnode
    | ok n =>
      rw [hn] at hnode
      exact congrArg Except.ok (Option.some.inj hnode)
  obtain ⟨g, -, hnode⟩ := bind_eq_ok.mp hnode
  cases hname : g.name with
  | none =>
    simp only [hname] at hnode
    cases hnode
  | some name =>
    simp only [hname] at hnode
    obtain ⟨found, hfound, hnode⟩ := bind_eq_ok.mp hnode
    obtain ⟨-, hlookup⟩ := child?_eq_ok.mp hfound
    cases found with
    | none => cases hnode
    | some n =>
      cases n with
      | directory => cases hnode
      | file other =>
        simp only at hnode
        split at hnode
        · cases hnode
        · cases hnode
          exact h.lookup hlookup
      | device =>
        simp only at hnode
        split at hnode <;> cases hnode

theorem FilesBelow.insert {bound : Nat} (h : FilesBelow t bound)
    (hn : ∀ id, n = .file id → id < bound) : FilesBelow (t.insert way n) bound := by
  intro other id hid
  rcases List.mem_append.mp hid with hid | hid
  · exact h other id hid
  · cases List.mem_singleton.mp hid
    exact hn id rfl

theorem FilesBelow.openFile {bound : Nat} (h : FilesBelow t bound)
    (hopen : t.openFile path bound = .ok (t', id)) :
    id ≤ bound ∧ FilesBelow t' (max bound (id + 1)) := by
  obtain ⟨g, name, -, -, -, -, hopened⟩ := opened_of_openFile hopen
  cases hopened with
  | there hthere => exact ⟨Nat.le_of_lt (h.lookup hthere), h.mono (Nat.le_max_left ..)⟩
  | made hfree =>
    refine ⟨Nat.le_refl _, (h.mono (Nat.le_max_left ..)).insert ?_⟩
    rintro id ⟨⟩
    omega

theorem FilesBelow.makeDirectory {bound : Nat} (h : FilesBelow t bound)
    (hmake : t.makeDirectory path = .ok t') : FilesBelow t' bound := by
  obtain ⟨g, -, hmake⟩ := bind_eq_ok.mp hmake
  cases hname : g.name with
  | none =>
    simp only [hname] at hmake
    cases hmake
  | some name =>
    simp only [hname] at hmake
    obtain ⟨found, -, hmake⟩ := bind_eq_ok.mp hmake
    cases found with
    | some n => cases hmake
    | none =>
      cases hmake
      exact h.insert nofun

theorem FilesBelow.settle {bound : Nat} {made : Except PathFault FileTree} (h : FilesBelow t bound)
    (hmade : ∀ t', made = .ok t' → FilesBelow t' bound) :
    FilesBelow (FileTree.settle path made t).2 bound := by
  cases made with
  | error e => exact h
  | ok t' => exact hmade t' rfl

theorem FilesBelow.makeDirectoriesWithin {bound fuel : Nat} (h : FilesBelow t bound) :
    FilesBelow (FileTree.makeDirectoriesWithin path fuel t).2 bound := by
  induction fuel generalizing path t with
  | zero => exact h
  | succ fuel ih =>
    rw [FileTree.makeDirectoriesWithin]
    split
    · exact h
    · split
      · split
        · exact h
        · rename_i parent hparent
          have houter : FilesBelow (FileTree.makeDirectoriesWithin parent fuel t).2 bound := ih h
          split
          · rename_i u outer hmade
            rw [hmade] at houter
            exact houter.settle fun t' ht' => houter.makeDirectory ht'
          · exact houter
      · exact h.settle fun t' ht' => h.makeDirectory ht'

theorem FilesBelow.remove {bound : Nat} (h : FilesBelow t bound) (path : String) :
    FilesBelow (t.remove path) bound := by
  rw [FileTree.remove]
  split
  · exact fun way id hid => h way id (List.mem_filter.mp hid).1
  · exact h

end FieldImage.FileTree
