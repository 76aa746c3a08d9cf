import DocPages.Proofs.FileTree.Written
import Mathlib.Data.List.Basic

/-! What publishing does to a tree of files. Directories are made from the top of the output path
downwards and only where nothing was, and the write that follows changes one place or fails before
it changes anything. So a publication that fails has touched no file, and after any number of
publications each file holds what the last successful one wrote to it. -/

namespace DocPages

namespace FileTree

/-- The text of the file that the names lead to. -/
def file? (t : FileTree) (names : List String) : Option String :=
  match t.get? names with
  | some (.file text) => some text
  | _ => none

/-- The names that a path leads to, if it leads to a place in a directory. -/
def place? (t : FileTree) (p : Path) : Option (List String) :=
  match t.locate p with
  | .ok (.entry dir name) => some (dir ++ [name])
  | _ => none

/-- The second tree has what the first has under these names, or a directory where nothing was, to
which the first steps of the path lead. -/
def SameOrMade (p : Path) (t t' : FileTree) (names : List String) : Prop :=
  t'.get? names = t.get? names ∨
    t.get? names = none ∧ t'.get? names = some .directory ∧
      ∃ n, t'.walk [] (p.steps.take n) = .ok names

/-- Some missing directories of the path were made, and that is all. -/
def Deepened (p : Path) (t t' : FileTree) : Prop := ∀ names, SameOrMade p t t' names

section Directories

variable {t t' t'' : FileTree} {p : Path} {names dir target : List String} {name : String}

theorem SameOrMade.file?_eq (h : SameOrMade p t t' names) : t'.file? names = t.file? names := by
  rcases h with hsame | ⟨hnone, hmade, -⟩
  · rw [file?, file?, hsame]
  · rw [file?, file?, hnone, hmade]

theorem SameOrMade.directory (h : SameOrMade p t t' names)
    (hdir : t.get? names = some .directory) : t'.get? names = some .directory := by
  rcases h with hsame | ⟨-, hmade, -⟩
  · rw [hsame, hdir]
  · exact hmade

theorem Deepened.deeper (h : Deepened p t t') : t.Deeper t' :=
  fun names hdir => (h names).directory hdir

theorem Deepened.refl (p : Path) (t : FileTree) : Deepened p t t := fun _ => .inl rfl

/-- A place that is kept, or made on the way, is still reached in a deeper tree. -/
theorem SameOrMade.trans (h : SameOrMade p t t' names) (hdeeper : t'.Deeper t'')
    (h' : SameOrMade p t' t'' names) : SameOrMade p t t'' names := by
  rcases h' with hsame' | ⟨hnone', hmade', hway'⟩
  · rcases h with hsame | ⟨hnone, hmade, n, hway⟩
    · exact .inl (hsame'.trans hsame)
    · exact .inr ⟨hnone, hsame'.trans hmade, n, hdeeper.walk hway⟩
  · rcases h with hsame | ⟨-, hmade, -⟩
    · exact .inr ⟨hsame.symm.trans hnone', hmade', hway'⟩
    · rw [hnone'] at hmade
      cases hmade

theorem Deepened.trans (h : Deepened p t t') (h' : Deepened p t' t'') : Deepened p t t'' :=
  fun names => (h names).trans h'.deeper (h' names)

theorem walk_append (t : FileTree) (dir : List String) (steps rest : List PathStep) :
    t.walk dir (steps ++ rest) = t.walk dir steps >>= fun reached => t.walk reached rest := by
  induction steps generalizing dir with
  | nil => rfl
  | cons step steps ih =>
    cases step with
    | up =>
      rw [List.cons_append, walk, walk]
      exact ih _
    | down name =>
      rw [List.cons_append, walk, walk]
      cases t.child? dir name with
      | error e => rfl
      | ok found =>
        cases found with
        | none => rfl
        | some node =>
          cases node with
          | file text => rfl
          | directory => exact ih _

/-- A place in a directory is named by the last step. -/
theorem getLast?_of_locate (h : t.locate p = .ok (.entry dir name)) :
    p.steps.getLast? = some (.down name) := by
  unfold locate at h
  split at h
  · cases h
  split at h
  · cases h
  split at h
  · cases h
  split at h
  · rename_i hlast _
    split at h <;> cases h
    exact hlast
  · rename_i hlast _
    split at h <;> cases h
    exact hlast
  · split at h <;> cases h

theorem makeDirectory_eq_ok (h : t.makeDirectory p = .ok t') : ∃ dir name,
    t.locate p = .ok (.entry dir name) ∧ name.utf8ByteSize ≤ longestName ∧
      t.get? (dir ++ [name]) = none ∧ t' = t.put (dir ++ [name]) .directory := by
  unfold makeDirectory at h
  split at h
  · cases h
  · cases h
  · rename_i dir name hlocate
    split at h
    · cases h
    · cases h
    · rename_i hchild
      unfold child? at hchild
      split at hchild
      · cases hchild
      · rename_i hshort
        exact ⟨dir, name, hlocate, Nat.not_lt.mp hshort, Except.ok.inj hchild,
          (Except.ok.inj h).symm⟩

/-- The directory that was made is where its path leads. -/
theorem exists_of_makeDirectory (h : t.makeDirectory p = .ok t') : ∃ place,
    t.get? place = none ∧ t' = t.put place .directory ∧ place ≠ [] ∧
      t'.walk [] p.steps = .ok place := by
  obtain ⟨dir, name, hlocate, hshort, hnone, rfl⟩ := makeDirectory_eq_ok h
  have hplace : dir ++ [name] ≠ [] := by simp
  refine ⟨dir ++ [name], hnone, rfl, hplace, ?_⟩
  have hdeeper : t.Deeper (t.put (dir ++ [name]) .directory) := by
    apply deeper_put
    rw [hnone]
    exact nofun
  have hwalk := hdeeper.walk (walk_of_locate hlocate).1
  have hchild : (t.put (dir ++ [name]) .directory).child? dir name = .ok (some .directory) :=
    child?_eq_directory_iff.mpr ⟨hshort, get?_put_self hplace⟩
  have hsteps : p.steps = p.steps.dropLast ++ [.down name] :=
    (List.dropLast_append_getLast? _ (getLast?_of_locate hlocate)).symm
  rw [hsteps, walk_append, hwalk]
  show walk _ dir [.down name] = _
  rw [walk, hchild]
  rfl

theorem steps_first (p : Path) (n : Nat) : (p.first n).steps = p.steps.take n := by
  unfold Path.first
  split
  · rename_i hshort
    exact (List.take_of_length_le hshort).symm
  · rfl

theorem deepened_makeDirectory {n : Nat} (h : t.makeDirectory (p.first n) = .ok t') :
    Deepened p t t' := by
  obtain ⟨place, hnone, rfl, hplace, hwalk⟩ := exists_of_makeDirectory h
  rw [steps_first] at hwalk
  intro names
  by_cases hnames : names = place
  · subst hnames
    exact .inr ⟨hnone, get?_put_self hplace, n, hwalk⟩
  · exact .inl (get?_put_of_ne hnames)

theorem deepened_ensureDirectory (t : FileTree) (p : Path) (n : Nat) :
    Deepened p t (t.ensureDirectory (p.first n)).1 := by
  unfold ensureDirectory
  split
  · rename_i hmade
    exact deepened_makeDirectory hmade
  · split <;> exact .refl p t

theorem deepened_makeSteps (t : FileTree) (p : Path) (n : Nat) :
    Deepened p t (t.makeSteps p n).1 := by
  induction n generalizing t with
  | zero => exact .refl p t
  | succ n ih =>
    have hfirst := ih t
    rw [makeSteps]
    split
    · split
      · rename_i hfailed
        rw [hfailed] at hfirst
        exact hfirst
      · rename_i hmade
        rw [hmade] at hfirst
        exact hfirst.trans (deepened_ensureDirectory _ p _)
    · exact deepened_ensureDirectory t p _

end Directories

section Publishing

variable {t t' : FileTree} {p : Path} {place : List String} {dir file text : String}

theorem place?_of_locate {names : List String} {name : String}
    (h : t.locate p = .ok (.entry names name)) : t.place? p = some (names ++ [name]) := by
  rw [place?, h]

/-- A path leads to the same place in a deeper tree. -/
theorem Deeper.place? (hdeeper : t.Deeper t') (h : t.place? p = some place) :
    t'.place? p = some place := by
  unfold FileTree.place? at h
  split at h
  · rename_i hlocate
    cases h
    obtain ⟨hwalk, hlocates⟩ := walk_of_locate hlocate
    exact place?_of_locate (hlocates t' (hdeeper.walk hwalk))
  · cases h

/-- A publication that fails makes directories at most. -/
theorem deepened_of_publish {e : FileError} (h : t.publish dir file text = (t', .error e)) :
    Deepened (.ofText dir) t t' := by
  have hmade : Deepened (.ofText dir) t (t.makeDirectories (.ofText dir)).1 :=
    deepened_makeSteps t _ _
  unfold publish at h
  split at h
  · rename_i heq
    cases h
    rw [heq] at hmade
    exact hmade
  · rename_i heq
    rw [heq] at hmade
    split at h
    · cases h
      exact hmade
    · cases h

/-- A publication that succeeds changes one more place, which is the one its path leads to. -/
theorem place_of_publish (h : t.publish dir file text = (t', .ok ())) :
    ∃ place, t'.place? (.ofText (Path.join dir file)) = some place ∧
      t'.get? place = some (.file text) ∧ t.get? place ≠ some .directory ∧
      ∀ names, names ≠ place → SameOrMade (.ofText dir) t t' names := by
  have hmade : Deepened (.ofText dir) t (t.makeDirectories (.ofText dir)).1 :=
    deepened_makeSteps t _ _
  unfold publish at h
  split at h
  · cases h
  · rename_i made heq
    rw [heq] at hmade
    split at h
    · cases h
    · rename_i hwrite
      cases h
      obtain ⟨names, name, hlocate, -, -, hfree, rfl⟩ := write_eq_ok hwrite
      have hdeeper : made.Deeper (made.put (names ++ [name]) (.file text)) := deeper_put hfree
      refine ⟨names ++ [name], hdeeper.place? (place?_of_locate hlocate), get?_put_self (by simp),
        fun hdir => hfree (hmade.deeper _ hdir), fun other hother => ?_⟩
      exact (hmade other).trans hdeeper (.inl (get?_put_of_ne hother))

end Publishing

end FileTree

/-- Something that is written below a directory. -/
inductive Publication where
  | index (dir : String) (content : Index)
  | page (dir file : String) (shell : PageShell)

namespace Publication

def dir : Publication → String
  | index dir _ => dir
  | page dir _ _ => dir

def file : Publication → String
  | index _ _ => indexFile
  | page _ file _ => file

def text : Publication → String
  | index _ content => content.toJson
  | page _ _ shell => shell.render

/-- Where it is written. -/
def target (p : Publication) : Path := .ofText (Path.join p.dir p.file)

def publish (t : FileTree) : Publication → FileTree × Except FileError Unit
  | index dir content => ((t.publishIndex dir content).1, (t.publishIndex dir content).2.1)
  | page dir file shell => t.publishPage dir file shell

theorem publish_eq (t : FileTree) (p : Publication) :
    p.publish t = t.publish p.dir p.file p.text := by
  cases p with
  | page dir file shell => rfl
  | index dir content =>
    simp only [publish, FileTree.publishIndex, Publication.dir, Publication.file, text]
    rcases t.publish dir indexFile content.toJson with ⟨t', e | ⟨⟩⟩ <;> rfl

end Publication

namespace FileTree

variable {t : FileTree}

/-- The tree after some publications, and those of them that were successful. -/
def publishAll (t : FileTree) : List Publication → FileTree × List Publication
  | [] => (t, [])
  | p :: ps =>
    match p.publish t with
    | (t', .ok ()) => ((t'.publishAll ps).1, p :: (t'.publishAll ps).2)
    | (t', .error _) => t'.publishAll ps

section Sequences

variable {t t' : FileTree} {p : Publication} {ps : List Publication}

theorem publishAll_ok (h : p.publish t = (t', .ok ())) (ps : List Publication) :
    t.publishAll (p :: ps) = ((t'.publishAll ps).1, p :: (t'.publishAll ps).2) := by
  rw [publishAll, h]

theorem publishAll_error {e : FileError} (h : p.publish t = (t', .error e))
    (ps : List Publication) : t.publishAll (p :: ps) = t'.publishAll ps := by
  rw [publishAll, h]

theorem deeper_publish (t : FileTree) (p : Publication) : t.Deeper (p.publish t).1 := by
  intro names hdir
  rcases hpublish : p.publish t with ⟨t', e | ⟨⟩⟩
  · rw [p.publish_eq] at hpublish
    exact (deepened_of_publish hpublish).deeper names hdir
  · rw [p.publish_eq] at hpublish
    obtain ⟨place, -, -, hfree, hothers⟩ := place_of_publish hpublish
    have hne : names ≠ place := fun heq => hfree (heq ▸ hdir)
    exact (hothers names hne).directory hdir

theorem deeper_publishAll (t : FileTree) (ps : List Publication) :
    t.Deeper (t.publishAll ps).1 := by
  induction ps generalizing t with
  | nil => exact fun _ => id
  | cons p ps ih =>
    have hfirst := deeper_publish t p
    rcases hpublish : p.publish t with ⟨t', e | ⟨⟩⟩
    · rw [hpublish] at hfirst
      rw [publishAll_error hpublish]
      exact fun names hdir => ih t' names (hfirst names hdir)
    · rw [hpublish] at hfirst
      rw [publishAll_ok hpublish]
      exact fun names hdir => ih t' names (hfirst names hdir)

theorem isSome_place?_publishAll (hp : p ∈ (t.publishAll ps).2) :
    ((t.publishAll ps).1.place? p.target).isSome = true := by
  induction ps generalizing t with
  | nil => cases hp
  | cons q ps ih =>
    rcases hpublish : q.publish t with ⟨t', e | ⟨⟩⟩
    · rw [publishAll_error hpublish] at hp ⊢
      exact ih hp
    · rw [publishAll_ok hpublish] at hp ⊢
      rcases List.mem_cons.mp hp with rfl | hrest
      · rw [p.publish_eq] at hpublish
        obtain ⟨place, hplace, -⟩ := place_of_publish hpublish
        have hstays := (deeper_publishAll t' ps).place? hplace
        exact Option.isSome_of_eq_some hstays
      · exact ih hrest

/-- Each file holds what the last successful publication to it wrote. -/
theorem file?_publishAll (t : FileTree) (ps : List Publication) (names : List String) :
    (t.publishAll ps).1.file? names =
      (((t.publishAll ps).2.filter fun p =>
        (t.publishAll ps).1.place? p.target = some names).getLast?.map Publication.text).or
          (t.file? names) := by
  induction ps generalizing t with
  | nil => rfl
  | cons p ps ih =>
    rcases hpublish : p.publish t with ⟨t', e | ⟨⟩⟩
    · rw [publishAll_error hpublish, ih]
      rw [p.publish_eq] at hpublish
      rw [(deepened_of_publish hpublish names).file?_eq]
    · rw [publishAll_ok hpublish]
      rw [p.publish_eq] at hpublish
      obtain ⟨place, hplace, hwritten, -, hothers⟩ := place_of_publish hpublish
      -- The path of the first publication leads to its file until the end.
      have hstays : (t'.publishAll ps).1.place? p.target = some place :=
        (deeper_publishAll t' ps).place? hplace
      dsimp only
      rw [ih t']
      by_cases hnames : place = names
      · have hfile : t'.file? names = some p.text := by rw [file?, ← hnames, hwritten]
        rw [List.filter_cons_of_pos (by simpa [hnames] using hstays), List.getLast?_cons, hfile]
        cases ((t'.publishAll ps).2.filter fun q =>
          (t'.publishAll ps).1.place? q.target = some names).getLast? <;> rfl
      · have hfile : t'.file? names = t.file? names := (hothers names (Ne.symm hnames)).file?_eq
        rw [List.filter_cons_of_neg (by simpa [hstays] using hnames), hfile]

end Sequences

end FileTree

open FileTree

/-- A publication that succeeds puts its text where its path leads and changes nothing else, except
that missing directories of the output path are made; one that fails can only have made such
directories. So after any publications each file holds what the last successful one wrote to it. -/
theorem publication_changes_one_file (t : FileTree) :
    (∀ (p : Publication) (t' : FileTree), p.publish t = (t', .ok ()) →
      t'.read p.target = .ok p.text ∧
      ∃ place, t'.place? p.target = some place ∧ t'.get? place = some (.file p.text) ∧
        t.get? place ≠ some .directory ∧
        ∀ names, names ≠ place → SameOrMade (.ofText p.dir) t t' names) ∧
    (∀ (p : Publication) (t' : FileTree) (e : FileError), p.publish t = (t', .error e) →
      ∀ names, SameOrMade (.ofText p.dir) t t' names ∧ t'.file? names = t.file? names) ∧
    ∀ ps : List Publication,
      (∀ p ∈ (t.publishAll ps).2, ((t.publishAll ps).1.place? p.target).isSome = true) ∧
      ∀ names, (t.publishAll ps).1.file? names =
        (((t.publishAll ps).2.filter fun p =>
          (t.publishAll ps).1.place? p.target = some names).getLast?.map Publication.text).or
            (t.file? names) := by
  refine ⟨?_, ?_, fun ps => ⟨fun p => isSome_place?_publishAll, file?_publishAll t ps⟩⟩
  · intro p t' hpublish
    rw [p.publish_eq] at hpublish
    exact ⟨read_of_publish hpublish, place_of_publish hpublish⟩
  · intro p t' e hpublish names
    rw [p.publish_eq] at hpublish
    have hsame := deepened_of_publish hpublish names
    exact ⟨hsame, hsame.file?_eq⟩

/-- A directory with one page in it. -/
def FileTree.withPage : FileTree :=
  (FileTree.empty.put ["docs"] .directory).put ["docs", "old.html"] (.file "old")

/-- The first output path leads through a file, which is found out when a directory was made; the
second one goes back and forth. -/
theorem publication_changes_one_file_winding :
    let failing := Publication.index "docs/new/../old.html/api" ⟨[]⟩
    let succeeding := Publication.index "docs/new/../api" ⟨[]⟩
    let t' := (failing.publish .withPage).1
    let t'' := (succeeding.publish .withPage).1
    failing.publish .withPage = (t', .error .alreadyExists) ∧
      t'.get? ["docs", "new"] = some .directory ∧ t'.file? ["docs", "old.html"] = some "old" ∧
      succeeding.publish .withPage = (t'', .ok ()) ∧
      t''.read succeeding.target = .ok succeeding.text ∧
      t''.file? ["docs", "old.html"] = some "old" := by
  intro failing succeeding t' t''
  have hfails : failing.publish .withPage = (t', .error .alreadyExists) := rfl
  have hsucceeds : succeeding.publish .withPage = (t'', .ok ()) := rfl
  obtain ⟨hok, herror, -⟩ := publication_changes_one_file .withPage
  obtain ⟨hread, place, hplace, -, -, hothers⟩ := hok _ _ hsucceeds
  have hne : ["docs", "old.html"] ≠ place := by
    have heq : t''.place? succeeding.target = some ["docs", "api", "search.json"] := by
      decide +kernel
    rw [← Option.some.inj (heq.symm.trans hplace)]
    decide
  exact ⟨hfails, rfl, (herror _ _ _ hfails _).2, hsucceeds, hread, (hothers _ hne).file?_eq⟩

end DocPages
