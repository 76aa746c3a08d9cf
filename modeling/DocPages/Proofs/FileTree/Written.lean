import DocPages.Proofs.Keyed
import DocPages.Publish

/-! A file that was written is read back under the same path. Writing changes one node that is no
directory, and paths lead through directories only, so every path leads where it led before. -/

namespace DocPages.FileTree

variable {t t' : FileTree} {key names dir target : List String} {name text : String}
  {node : FileNode} {p : Path}

theorem nodes_put :
    (t.put key node).nodes = t.nodes.filter (fun x => x.1 != key) ++ [(key, node)] := rfl

theorem get?_put_self (hkey : key ≠ []) : (t.put key node).get? key = some node := by
  have hempty : key.isEmpty = false := by simpa using hkey
  simp [get?, nodes_put, hempty, List.lookup_append, lookup_filter_self]

theorem get?_put_of_ne (hne : names ≠ key) : (t.put key node).get? names = t.get? names := by
  have hlast : [(key, node)].lookup names = none := by
    rw [List.lookup_cons, beq_eq_false_iff_ne.mpr hne]
    rfl
  simp only [get?, nodes_put, List.lookup_append, lookup_filter_ne hne, hlast, Option.or_none]

/-- Every directory of the first tree is one of the second. -/
def Deeper (t t' : FileTree) : Prop :=
  ∀ names, t.get? names = some .directory → t'.get? names = some .directory

theorem deeper_put (hkey : t.get? key ≠ some .directory) : t.Deeper (t.put key node) := by
  intro names hnames
  have hne : names ≠ key := fun heq => hkey (heq ▸ hnames)
  rw [get?_put_of_ne hne, hnames]

/-- A name leads to a directory. -/
theorem child?_eq_directory_iff : t.child? dir name = .ok (some .directory) ↔
    name.utf8ByteSize ≤ longestName ∧ t.get? (dir ++ [name]) = some .directory := by
  unfold child?
  split
  · rename_i hlong
    exact iff_of_false nofun fun hshort => absurd hlong (Nat.not_lt.mpr hshort.1)
  · rename_i hshort
    rw [Except.ok.injEq]
    exact ⟨fun hget => ⟨Nat.not_lt.mp hshort, hget⟩, fun h => h.2⟩

/-- A walk goes through directories, so it goes the same way where they are kept. -/
theorem Deeper.walk {steps : List PathStep} (hdeeper : t.Deeper t')
    (h : t.walk dir steps = .ok target) : t'.walk dir steps = .ok target := by
  induction steps generalizing dir with
  | nil => exact h
  | cons step steps ih =>
    cases step with
    | up =>
      rw [FileTree.walk] at h ⊢
      exact ih h
    | down name =>
      rw [FileTree.walk] at h ⊢
      cases hchild : t.child? dir name with
      | error e => simp [hchild] at h
      | ok found =>
        cases found with
        | none => simp [hchild] at h
        | some found =>
          cases found with
          | file text => simp [hchild] at h
          | directory =>
            obtain ⟨hshort, hget⟩ := child?_eq_directory_iff.mp hchild
            rw [child?_eq_directory_iff.mpr ⟨hshort, hdeeper _ hget⟩]
            rw [hchild] at h
            exact ih h

/-- All that the place of a path asks of a tree is the way to its directory. -/
theorem walk_of_locate (h : t.locate p = .ok (.entry dir name)) :
    t.walk [] p.steps.dropLast = .ok dir ∧
      ∀ u : FileTree, u.walk [] p.steps.dropLast = .ok dir →
        u.locate p = .ok (.entry dir name) := by
  unfold locate at h ⊢
  split at h
  · cases h
  split at h
  · cases h
  split at h
  · cases h
  rename_i hnul hempty hlong
  split at h
  · split at h
    · cases h
    · rename_i hwalk
      cases h
      refine ⟨hwalk, fun u hu => ?_⟩
      simp only [if_neg hnul, if_neg hempty, if_neg hlong, hu]
  · split at h
    · cases h
    · rename_i hwalk
      cases h
      refine ⟨hwalk, fun u hu => ?_⟩
      simp only [if_neg hnul, if_neg hempty, if_neg hlong, hu]
  · -- a path that ends otherwise names a directory
    split at h <;> cases h

/-- What a successful write has done. -/
theorem write_eq_ok (h : t.write p text = .ok t') : ∃ dir name,
    t.locate p = .ok (.entry dir name) ∧ p.ending ≠ .slash ∧ name.utf8ByteSize ≤ longestName ∧
      t.get? (dir ++ [name]) ≠ some .directory ∧ t' = t.put (dir ++ [name]) (.file text) := by
  unfold write at h
  split at h
  · cases h
  · cases h
  · rename_i dir name hlocate
    split at h
    · cases h
    · rename_i hending
      split at h
      · cases h
      · cases h
      · rename_i found hnot hchild
        rw [child?] at hchild
        split at hchild
        · cases hchild
        · rename_i hshort
          refine ⟨dir, name, hlocate, hending, Nat.not_lt.mp hshort, ?_, (Except.ok.inj h).symm⟩
          intro hdir
          rw [hdir] at hchild
          exact hnot (Except.ok.inj hchild).symm

theorem read_of_write (h : t.write p text = .ok t') : t'.read p = .ok text := by
  obtain ⟨dir, name, hlocate, hending, hshort, hget, rfl⟩ := write_eq_ok h
  obtain ⟨hwalk, hlocates⟩ := walk_of_locate hlocate
  have hplace : (t.put (dir ++ [name]) (.file text)).locate p = .ok (.entry dir name) :=
    hlocates _ ((deeper_put hget).walk hwalk)
  have hchild : (t.put (dir ++ [name]) (.file text)).child? dir name = .ok (some (.file text)) := by
    rw [child?, if_neg (Nat.not_lt.mpr hshort), get?_put_self (by simp)]
  simp only [read, hplace, hchild, if_neg hending]

theorem read_of_publish {dir file : String} (h : t.publish dir file text = (t', .ok ())) :
    t'.read (.ofText (Path.join dir file)) = .ok text := by
  unfold publish at h
  split at h
  · cases h
  · split at h
    · cases h
    · rename_i hwrite
      cases h
      exact read_of_write hwrite

end DocPages.FileTree
