import DocPages.Catalog
import Mathlib.Data.List.Forall2
import Mathlib.Data.List.TakeWhile

/-! The entries of a catalog. Every call that is accepted adds one entry, in the order of the calls,
and the entry spells out the full name of what it documents. A link is a page up to the first number
sign and an anchor behind it, and both tell their kind up to the first dot, so entries with the same
link document the same thing. -/

namespace DocPages

/-- What an entry documents. -/
inductive Subject where
  | globalConstant (name : String)
  | typeItem (kind : EntryKind) (qualifiedName : String)
  | item (ownerKind : EntryKind) (owner : String) (kind : ItemKind) (name : String)
  deriving DecidableEq, Repr

namespace Subject

def kind : Subject → EntryKind
  | globalConstant _ => .constant
  | typeItem kind _ => kind
  | item _ _ kind _ => kind.kind

def fullName : Subject → String
  | globalConstant name => name
  | typeItem _ qualifiedName => qualifiedName
  | item _ owner _ name => owner ++ "." ++ name

/-- The qualified name of the type that the subject is or belongs to has no number sign. -/
def Dotted : Subject → Prop
  | globalConstant _ => True
  | typeItem _ qualifiedName => '#' ∉ qualifiedName.toList
  | item _ owner _ _ => '#' ∉ owner.toList

/-- The name that an entry shows on its own. -/
def ShownAs (name : String) : Subject → Prop
  | globalConstant own => name = own
  | typeItem _ _ => '.' ∉ name.toList
  | item _ _ _ own => name = own

/-- The entry tells what it documents. -/
structure DescribedBy (s : Subject) (summary : String) (e : Entry) : Prop where
  owner : e.owner = "" ∨ e.owner.toList.getLast? = some '.'
  fullName : e.owner ++ e.name = s.fullName
  name : s.ShownAs e.name
  kind : e.kind = s.kind
  summary : e.summary = summary

/-- The page on which the subject is documented. -/
def page : Subject → String
  | globalConstant _ => "index.html"
  | typeItem kind qualifiedName => kind.label ++ "." ++ qualifiedName ++ ".html"
  | item ownerKind owner _ _ => ownerKind.label ++ "." ++ owner ++ ".html"

/-- What stands for the subject on a page that it shares. -/
def anchored? : Subject → Option (EntryKind × String)
  | globalConstant name => some (.constant, name)
  | typeItem _ _ => none
  | item _ _ kind name => some (kind.kind, name)

def entry (summary : String) (s : Subject) : Entry where
  owner := match s with
    | globalConstant _ => ""
    | typeItem _ qualifiedName => (splitQualified qualifiedName).1
    | item _ owner _ _ => owner ++ "."
  name := match s with
    | globalConstant name => name
    | typeItem _ qualifiedName => (splitQualified qualifiedName).2
    | item _ _ _ name => name
  link := match s.anchored? with
    | none => s.page
    | some (kind, name) => anchor s.page kind name
  summary := summary
  kind := s.kind

end Subject

namespace Declaration

/-- A type of a kind that has no page is refused, and then nothing can be added to it. -/
def isAccepted : Declaration → Bool
  | globalConstant _ _ => true
  | typeItem kind _ _ _ => kind.isType

/-- The accepted calls of a declaration: what each documents, and its summary. -/
def calls : Declaration → List (Subject × String)
  | globalConstant name summary => [(.globalConstant name, summary)]
  | typeItem kind qualifiedName summary items =>
    if kind.isType then
      (.typeItem kind qualifiedName, summary) ::
        items.map fun item => (.item kind qualifiedName item.kind item.name, item.summary)
    else []

def Dotted : Declaration → Prop
  | globalConstant _ _ => True
  | typeItem _ qualifiedName _ _ => '#' ∉ qualifiedName.toList

end Declaration

section Names

theorem splitQualified_append (s : String) :
    (splitQualified s).1 ++ (splitQualified s).2 = s := by
  rw [← String.toList_inj]
  simp only [splitQualified, String.toList_append, String.toList_ofList]
  rw [← List.reverse_append, List.takeWhile_append_dropWhile, List.reverse_reverse]

theorem dot_not_mem_splitQualified (s : String) : '.' ∉ (splitQualified s).2.toList := by
  simp only [splitQualified, String.toList_ofList, List.mem_reverse]
  intro hmem
  have hdot := List.mem_takeWhile_imp hmem
  simp at hdot

theorem getLast?_splitQualified (s : String) :
    (splitQualified s).1 = "" ∨ (splitQualified s).1.toList.getLast? = some '.' := by
  simp only [splitQualified, String.toList_ofList, List.getLast?_reverse]
  -- What is dropped ends where the first dot from behind stands.
  cases hrest : s.toList.reverse.dropWhile (· != '.') with
  | nil => exact .inl rfl
  | cons c cs =>
    have hhead := List.head?_dropWhile_not (· != '.') s.toList.reverse
    rw [hrest] at hhead
    exact .inr (by simpa using hhead)

theorem append_cons_injective {c : Char} {xs xs' ys ys' : List Char} (hxs : c ∉ xs)
    (hxs' : c ∉ xs') (h : xs ++ c :: ys = xs' ++ c :: ys') : xs = xs' ∧ ys = ys' := by
  induction xs generalizing xs' with
  | nil =>
    cases xs' with
    | nil => exact ⟨rfl, (List.cons.inj h).2⟩
    | cons x' xs' =>
      have hc : c = x' := (List.cons.inj h).1
      exact absurd (hc ▸ List.mem_cons_self) hxs'
  | cons x xs ih =>
    rw [List.mem_cons, not_or] at hxs
    cases xs' with
    | nil => exact absurd (List.cons.inj h).1.symm hxs.1
    | cons x' xs' =>
      rw [List.mem_cons, not_or] at hxs'
      obtain ⟨rfl, hrest⟩ := List.cons.inj h
      obtain ⟨rfl, hys⟩ := ih hxs.2 hxs'.2 hrest
      exact ⟨rfl, hys⟩

end Names

namespace EntryKind

variable {kind kind' : EntryKind} {s s' : String}

theorem not_mem_label (kind : EntryKind) : '.' ∉ kind.label.toList ∧ '#' ∉ kind.label.toList := by
  cases kind <;> decide

theorem label_injective (h : kind.label = kind'.label) : kind = kind' := by
  cases kind <;> cases kind' <;> first | rfl | exact absurd h (by decide)

theorem label_ne_index (kind : EntryKind) : kind.label ≠ "index" := by
  cases kind <;> decide

/-- A label ends at the first dot. -/
theorem label_append_injective (h : kind.label ++ "." ++ s = kind'.label ++ "." ++ s') :
    kind = kind' ∧ s = s' := by
  have hchars : kind.label.toList ++ '.' :: s.toList = kind'.label.toList ++ '.' :: s'.toList := by
    simpa using congrArg String.toList h
  obtain ⟨hlabel, hrest⟩ :=
    append_cons_injective kind.not_mem_label.1 kind'.not_mem_label.1 hchars
  exact ⟨label_injective (String.toList_inj.mp hlabel), String.toList_inj.mp hrest⟩

theorem label_append_ne_index (h : kind.label ++ "." ++ s = "index.html") : False := by
  have hchars : kind.label.toList ++ '.' :: s.toList = "index".toList ++ '.' :: "html".toList := by
    simpa using congrArg String.toList h
  have hlabel := (append_cons_injective kind.not_mem_label.1 (by decide) hchars).1
  exact kind.label_ne_index (String.toList_inj.mp hlabel)

end EntryKind

theorem ItemKind.kind_injective {kind kind' : ItemKind} (h : kind.kind = kind'.kind) :
    kind = kind' := by
  cases kind <;> cases kind' <;> first | rfl | cases h

namespace Subject

variable {s s' : Subject} {summary summary' : String}

theorem not_mem_page (h : s.Dotted) : '#' ∉ s.page.toList := by
  cases s with
  | globalConstant name =>
    rw [page]
    decide
  | typeItem kind qualifiedName | item kind qualifiedName _ _ =>
    simp only [page, String.toList_append, List.mem_append, not_or]
    exact ⟨⟨⟨kind.not_mem_label.2, by decide⟩, h⟩, by decide⟩

theorem toList_anchor (page : String) (kind : EntryKind) (name : String) :
    (anchor page kind name).toList = page.toList ++ '#' :: (kind.label ++ "." ++ name).toList := by
  simp [anchor]

/-- A page without a number sign ends at the first one of the link. -/
theorem page_of_link (hs : s.Dotted) (hs' : s'.Dotted)
    (h : (s.entry summary).link = (s'.entry summary').link) :
    s.page = s'.page ∧ s.anchored? = s'.anchored? := by
  have hchars := congrArg String.toList h
  simp only [entry] at hchars
  cases hanchor : s.anchored? with
  | none =>
    cases hanchor' : s'.anchored? with
    | none =>
      simp only [hanchor, hanchor'] at hchars
      exact ⟨String.toList_inj.mp hchars, rfl⟩
    | some place' =>
      simp only [hanchor, hanchor', toList_anchor] at hchars
      have hmem : '#' ∈ s.page.toList := by simp [hchars]
      exact absurd hmem (not_mem_page hs)
  | some place =>
    cases hanchor' : s'.anchored? with
    | none =>
      simp only [hanchor, hanchor', toList_anchor] at hchars
      have hmem : '#' ∈ s'.page.toList := by simp [← hchars]
      exact absurd hmem (not_mem_page hs')
    | some place' =>
      simp only [hanchor, hanchor', toList_anchor] at hchars
      obtain ⟨hpage, hrest⟩ := append_cons_injective (not_mem_page hs) (not_mem_page hs') hchars
      obtain ⟨hkind, hname⟩ := EntryKind.label_append_injective (String.toList_inj.mp hrest)
      exact ⟨String.toList_inj.mp hpage, congrArg some (Prod.ext hkind hname)⟩

/-- Pages tell their types apart. -/
theorem page_injective {kind kind' : EntryKind} {name name' : String}
    (h : (typeItem kind name).page = (typeItem kind' name').page) :
    kind = kind' ∧ name = name' := by
  have hcut : kind.label ++ "." ++ (name ++ ".html") =
      kind'.label ++ "." ++ (name' ++ ".html") := by
    rw [← String.append_assoc, ← String.append_assoc]
    exact h
  obtain ⟨hkind, hname⟩ := EntryKind.label_append_injective hcut
  exact ⟨hkind, (String.append_left_inj _).mp hname⟩

theorem page_ne_index (kind : EntryKind) (name : String) :
    (typeItem kind name).page ≠ "index.html" := by
  intro h
  simp only [page] at h
  rw [String.append_assoc] at h
  exact EntryKind.label_append_ne_index h

theorem eq_of_page_of_anchored? (hpage : s.page = s'.page)
    (hanchored : s.anchored? = s'.anchored?) : s = s' := by
  cases s with
  | globalConstant name =>
    cases s' with
    | globalConstant name' =>
      obtain ⟨-, rfl⟩ := Prod.mk.inj (Option.some.inj hanchored)
      rfl
    | typeItem kind' name' => cases hanchored
    | item ownerKind' owner' kind' name' => exact absurd hpage.symm (page_ne_index _ _)
  | typeItem kind name =>
    cases s' with
    | globalConstant name' => cases hanchored
    | typeItem kind' name' =>
      obtain ⟨rfl, rfl⟩ := page_injective hpage
      rfl
    | item ownerKind' owner' kind' name' => cases hanchored
  | item ownerKind owner kind name =>
    cases s' with
    | globalConstant name' => exact absurd hpage (page_ne_index _ _)
    | typeItem kind' name' => cases hanchored
    | item ownerKind' owner' kind' name' =>
      obtain ⟨rfl, rfl⟩ := page_injective hpage
      obtain ⟨hkind, rfl⟩ := Prod.mk.inj (Option.some.inj hanchored)
      rw [ItemKind.kind_injective hkind]

theorem link_injective (hs : s.Dotted) (hs' : s'.Dotted)
    (h : (s.entry summary).link = (s'.entry summary').link) : s = s' := by
  obtain ⟨hpage, hanchored⟩ := page_of_link hs hs' h
  exact eq_of_page_of_anchored? hpage hanchored

theorem describedBy_entry (s : Subject) (summary : String) :
    s.DescribedBy summary (s.entry summary) := by
  cases s with
  | globalConstant name => exact ⟨.inl rfl, String.empty_append, rfl, rfl, rfl⟩
  | typeItem kind name =>
    exact ⟨getLast?_splitQualified name, splitQualified_append name,
      dot_not_mem_splitQualified name, rfl, rfl⟩
  | item ownerKind owner kind name =>
    exact ⟨.inr (by simp [entry]), rfl, rfl, rfl, rfl⟩

end Subject

namespace Declaration

variable {d : Declaration}

theorem entries?_eq (d : Declaration) : d.entries? =
    if d.isAccepted then some (d.calls.map fun call => call.1.entry call.2) else none := by
  cases d with
  | globalConstant name summary => rfl
  | typeItem kind qualifiedName summary items =>
    cases htype : kind.isType with
    | false => simp [entries?, isAccepted, EntryKind.page?, htype]
    | true =>
      simp only [entries?, isAccepted, calls, EntryKind.page?, htype, if_true, Option.map_some,
        List.map_cons, List.map_map]
      rfl

theorem calls_eq_nil_iff (d : Declaration) : d.calls = [] ↔ d.isAccepted = false := by
  cases d with
  | globalConstant name summary => simp [calls, isAccepted]
  | typeItem kind qualifiedName summary items =>
    cases h : kind.isType <;> simp [calls, isAccepted, h]

theorem dotted_of_mem_calls (h : d.Dotted) {call : Subject × String} (hcall : call ∈ d.calls) :
    call.1.Dotted := by
  cases d with
  | globalConstant name summary =>
    rw [List.mem_singleton.mp hcall]
    trivial
  | typeItem kind qualifiedName summary items =>
    simp only [calls] at hcall
    split at hcall
    · rcases List.mem_cons.mp hcall with rfl | hitem
      · exact h
      · obtain ⟨item, -, rfl⟩ := List.mem_map.mp hitem
        exact h
    · cases hcall

end Declaration

namespace Catalog

/-- The catalog after a sequence of declarations. -/
def ofDeclarations (ds : List Declaration) : Catalog :=
  ds.foldl (fun c d => (c.declare d).2) .empty

theorem declare_eq (c : Catalog) (d : Declaration) : c.declare d =
    (d.isAccepted, ⟨c.entries ++ d.calls.map fun call => call.1.entry call.2⟩) := by
  unfold declare
  rw [d.entries?_eq]
  cases haccepted : d.isAccepted with
  | true => rfl
  | false =>
    have hnone : d.calls = [] := d.calls_eq_nil_iff.mpr haccepted
    simp [hnone]

theorem entries_ofDeclarations (ds : List Declaration) :
    (ofDeclarations ds).entries =
      (ds.flatMap Declaration.calls).map fun call => call.1.entry call.2 := by
  have hrun (c : Catalog) : (ds.foldl (fun c d => (c.declare d).2) c).entries =
      c.entries ++ (ds.flatMap Declaration.calls).map fun call => call.1.entry call.2 := by
    induction ds generalizing c with
    | nil => simp
    | cons d ds ih => rw [List.foldl_cons, ih, declare_eq]; simp
  exact hrun .empty

theorem prefix_ofDeclarations {before ds : List Declaration} (h : before <+: ds) :
    (ofDeclarations before).entries <+: (ofDeclarations ds).entries := by
  obtain ⟨after, rfl⟩ := h
  rw [entries_ofDeclarations, entries_ofDeclarations, List.flatMap_append, List.map_append]
  exact List.prefix_append _ _

end Catalog

open Catalog

/-- A catalog holds one entry for each accepted call, in the order of the calls, each of which gives
the full name of what it documents, and a declaration that is refused leaves the catalog as it was.
If no qualified name has a number sign, then two entries have the same link exactly if they document
the same thing. -/
theorem catalog_links_lead_apart (ds : List Declaration) :
    List.Forall₂ (fun call e => call.1.DescribedBy call.2 e) (ds.flatMap Declaration.calls)
      (ofDeclarations ds).finish.entries ∧
    (∀ d, ((ofDeclarations ds).declare d).1 = d.isAccepted ∧
      (d.isAccepted = false → ((ofDeclarations ds).declare d).2 = ofDeclarations ds)) ∧
    (∀ before, before <+: ds →
      (ofDeclarations before).entries <+: (ofDeclarations ds).finish.entries ∧
      (ofDeclarations before).size = (before.flatMap Declaration.calls).length ∧
      ((ofDeclarations before).isEmpty = true ↔ (ofDeclarations before).size = 0)) ∧
    ((∀ d ∈ ds, d.Dotted) → ∀ (i j : Nat) (e e' : Entry),
      (ofDeclarations ds).finish.entries[i]? = some e →
      (ofDeclarations ds).finish.entries[j]? = some e' →
      (e.link = e'.link ↔ (ds.flatMap Declaration.calls)[i]?.map (·.1) =
        (ds.flatMap Declaration.calls)[j]?.map (·.1))) := by
  refine ⟨?_, ?_, ?_, ?_⟩
  · rw [finish, entries_ofDeclarations, List.forall₂_map_right_iff, List.forall₂_same]
    exact fun call _ => call.1.describedBy_entry call.2
  · intro d
    rw [declare_eq]
    refine ⟨rfl, fun hrefused => ?_⟩
    rw [d.calls_eq_nil_iff.mpr hrefused, List.map_nil, List.append_nil]
  · intro before hbefore
    refine ⟨prefix_ofDeclarations hbefore, ?_, ?_⟩
    · rw [size, entries_ofDeclarations, List.length_map]
    · rw [isEmpty, size, List.isEmpty_iff, List.length_eq_zero_iff]
  · intro hdotted i j e e' hi hj
    have hsubject {k : Nat} {e : Entry} (hk : (ofDeclarations ds).finish.entries[k]? = some e) :
        ∃ call, (ds.flatMap Declaration.calls)[k]? = some call ∧ call.1.Dotted ∧
          e = call.1.entry call.2 := by
      rw [finish, entries_ofDeclarations, List.getElem?_map] at hk
      obtain ⟨call, hcall, rfl⟩ := Option.map_eq_some_iff.mp hk
      obtain ⟨d, hd, hmem⟩ := List.mem_flatMap.mp (List.mem_of_getElem? hcall)
      exact ⟨call, hcall, Declaration.dotted_of_mem_calls (hdotted d hd) hmem, rfl⟩
    obtain ⟨call, hcall, hdot, rfl⟩ := hsubject hi
    obtain ⟨call', hcall', hdot', rfl⟩ := hsubject hj
    rw [hcall, hcall', Option.map_some, Option.map_some, Option.some_inj]
    refine ⟨Subject.link_injective hdot hdot', fun hsame => ?_⟩
    simp only [Subject.entry, hsame]

/-- Names that hold the signs of a link: a function called like the anchor of a member, and a class
called like the page of another. -/
def tangledDeclarations : List Declaration :=
  [.typeItem .classType "Actor" "" [⟨.function, "html#member.x", ""⟩, ⟨.member, "x", ""⟩],
    .typeItem .function "Actor" "" [], .typeItem .classType "Actor.html" "" [⟨.member, "x", ""⟩],
    .globalConstant "Actor.html#member.x" ""]

theorem catalog_links_lead_apart_tangled :
    (∀ d ∈ tangledDeclarations, d.Dotted) ∧ (ofDeclarations tangledDeclarations).size = 6 ∧
    ∀ i < 6, ∀ j < 6, ∀ e e' : Entry,
      (ofDeclarations tangledDeclarations).finish.entries[i]? = some e →
      (ofDeclarations tangledDeclarations).finish.entries[j]? = some e' →
      e.link = e'.link → i = j := by
  have hdotted : ∀ d ∈ tangledDeclarations, d.Dotted := by
    simp [tangledDeclarations, Declaration.Dotted]
  have hsubjects : ∀ i < 6, ∀ j < 6,
      (tangledDeclarations.flatMap Declaration.calls)[i]?.map (·.1) =
        (tangledDeclarations.flatMap Declaration.calls)[j]?.map (·.1) → i = j := by decide
  obtain ⟨-, -, hsize, hlinks⟩ := catalog_links_lead_apart tangledDeclarations
  refine ⟨hdotted, (hsize _ List.prefix_rfl).2.1, fun i hi j hj e e' he he' hlink => ?_⟩
  exact hsubjects i hi j hj ((hlinks hdotted i j e e' he he').mp hlink)

end DocPages
