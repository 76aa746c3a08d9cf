import DocPages.Index.Json
import DocPages.Proofs.Json.Filled

/-! Indexes whose entries are not all as expected. An entry of an unknown kind is kept as such, and
what an entry has beside its fields does not matter. An entry that lacks one of its fields, repeats
one or has no text where one is needed spoils the index. -/

namespace DocPages

open Json

/-- An entry as it is stored: its kind is any name. -/
structure NamedEntry where
  owner : String
  name : String
  link : String
  summary : String
  kind : String
  deriving DecidableEq, Repr

namespace NamedEntry

def fields (e : NamedEntry) : List (String × String) :=
  [("name_prelude", e.owner), ("name", e.name), ("link", e.link), ("desc", e.summary),
    ("kind", e.kind)]

/-- The object gives each field once, as a string. -/
def IsGiven (e : NamedEntry) (members : List (String × Datum)) : Prop :=
  ∀ p ∈ e.fields, valuesOf members p.1 = [.text p.2]

def entry (e : NamedEntry) : Entry := ⟨e.owner, e.name, e.link, e.summary, .ofName e.kind⟩

/-- Another kind for one entry changes the kind of that entry. -/
theorem map_modify_kind (entries : List NamedEntry) (i : Nat) (kind : String) :
    (entries.modify i fun e => { e with kind := kind }).map entry =
      (entries.map entry).modify i fun e => { e with kind := .ofName kind } := by
  induction entries generalizing i with
  | nil => simp
  | cons e entries ih =>
    cases i with
    | zero => rfl
    | succ i => simp [ih]

end NamedEntry

/-- A kind is named by a string, or by an object with that one key and a null. -/
def EntryKind.ofDatum? (v : Datum) : Option EntryKind := v.variant?.map ofName

theorem EntryKind.takes_reader (v : Datum) : Takes EntryKind.reader v (ofDatum? v) := by
  rw [ofDatum?, Option.map_eq_bind]
  exact takes_variant _ v

namespace Entry

def textNames : List String := ["name_prelude", "name", "link", "desc"]

/-- A field is missing or comes twice, or a text is something else. -/
def IsSpoilt (members : List (String × Datum)) : Prop :=
  (∃ name ∈ textNames ++ ["kind"],
    valuesOf members name = [] ∨ 2 ≤ (valuesOf members name).length) ∨
  ∃ name ∈ textNames, ∃ v ∈ valuesOf members name, v.text? = none

/-- What a field makes of its value. -/
def sense (key : String) (e : Entry) (v : Datum) : Option Entry :=
  match key with
  | "name_prelude" => v.text?.map fun s => { e with owner := s }
  | "name" => v.text?.map fun s => { e with name := s }
  | "link" => v.text?.map fun s => { e with link := s }
  | "desc" => v.text?.map fun s => { e with summary := s }
  | "kind" => (EntryKind.ofDatum? v).map fun k => { e with kind := k }
  | _ => none

/-- The entry that an object stands for. -/
def ofDatum? : Datum → Option Entry
  | .object members => shape.fill sense [] shape.blank members
  | _ => none

theorem takes_object (members : List (String × Datum)) :
    Takes shape.read (.object members) (ofDatum? (.object members)) := by
  refine Shape.takes_object fun field hfield v _ e => ?_
  simp only [shape, List.mem_cons, List.not_mem_nil, or_false] at hfield
  rcases hfield with rfl | rfl | rfl | rfl | rfl
  · exact takes_field (takes_text v) _ _ e
  · exact takes_field (takes_text v) _ _ e
  · exact takes_field (takes_text v) _ _ e
  · exact takes_field (takes_text v) _ _ e
  · exact takes_field (EntryKind.takes_reader v) _ _ e

/-- What the members say. -/
def overlay (members : List (String × Datum)) : Entry where
  owner := given members "name_prelude" Datum.text? ""
  name := given members "name" Datum.text? ""
  link := given members "link" Datum.text? ""
  summary := given members "desc" Datum.text? ""
  kind := given members "kind" EntryKind.ofDatum? .unknown

variable {members : List (String × Datum)}

theorem overlay_of_isGiven {e : NamedEntry} (h : e.IsGiven members) :
    overlay members = e.entry := by
  simp only [NamedEntry.IsGiven, NamedEntry.fields, List.forall_mem_cons] at h
  obtain ⟨howner, hname, hlink, hsummary, hkind, -⟩ := h
  simp [overlay, given, howner, hname, hlink, hsummary, hkind, Datum.text?, EntryKind.ofDatum?,
    Datum.variant?, NamedEntry.entry]

theorem ofDatum?_of_isGiven {e : NamedEntry} (h : e.IsGiven members) :
    ofDatum? (.object members) = some e.entry := by
  have hvalue : ∀ name ∈ shape.names, ∃ s, valuesOf members name = [.text s] := by
    intro name hname
    obtain ⟨p, hp, rfl⟩ := List.mem_map.mp (show name ∈ e.fields.map (·.1) from hname)
    exact ⟨p.2, h p hp⟩
  have hblank : shape.blank = overlay [] := rfl
  rw [ofDatum?, hblank, ← overlay_of_isGiven h]
  refine Shape.fill_eq_overlay ?_ ?_ ?_ ?_
  · intro done key v hkey
    simp only [Shape.names, shape, Field.of, List.map_cons, List.map_nil, List.mem_cons,
      List.not_mem_nil, or_false, not_or] at hkey
    simp [overlay, given_append_of_ne, hkey]
  · intro done key v hkey hmem hnew
    obtain ⟨s, hs⟩ := hvalue key hkey
    rw [← mem_valuesOf, hs, List.mem_singleton] at hmem
    subst hmem
    have htext : Datum.text? (.text s) = some s := rfl
    have hkind : EntryKind.ofDatum? (.text s) = some (.ofName s) := rfl
    simp only [Shape.names, shape, Field.of, List.map_cons, List.map_nil, List.mem_cons,
      List.not_mem_nil, or_false] at hkey
    rcases hkey with rfl | rfl | rfl | rfl | rfl
    · simp [sense, overlay, htext, given_append_self hnew htext, given_append_of_ne]
    · simp [sense, overlay, htext, given_append_self hnew htext, given_append_of_ne]
    · simp [sense, overlay, htext, given_append_self hnew htext, given_append_of_ne]
    · simp [sense, overlay, htext, given_append_self hnew htext, given_append_of_ne]
    · simp [sense, overlay, hkind, given_append_self hnew hkind, given_append_of_ne]
  · intro name hname
    obtain ⟨s, hs⟩ := hvalue name hname
    simp [hs]
  · intro _ name hname
    obtain ⟨s, hs⟩ := hvalue name hname
    simp [hs]

theorem ofDatum?_of_isSpoilt (h : IsSpoilt members) : ofDatum? (.object members) = none := by
  obtain ⟨name, hname, hmissing | htwice⟩ | ⟨name, hname, v, hv, htext⟩ := h
  · exact Shape.fill_eq_none_of_missing rfl hname List.not_mem_nil hmissing
  · exact Shape.fill_eq_none_of_repeat hname htwice
  · refine Shape.fill_eq_none_of_mem (List.mem_append_left _ hname) (mem_valuesOf.mp hv) fun e => ?_
    simp only [textNames, List.mem_cons, List.not_mem_nil, or_false] at hname
    rcases hname with rfl | rfl | rfl | rfl <;> simp [sense, htext]

theorem mapM_ofDatum?_of_isGiven {entries : List NamedEntry} {items : List (List (String × Datum))}
    (h : List.Forall₂ NamedEntry.IsGiven entries items) :
    (items.map Datum.object).mapM ofDatum? = some (entries.map NamedEntry.entry) := by
  induction h with
  | nil => rfl
  | cons hhead _ ih => simp [ofDatum?_of_isGiven hhead, ih]

theorem mapM_ofDatum?_of_isSpoilt {items : List (List (String × Datum))}
    (h : ∃ members ∈ items, IsSpoilt members) : (items.map Datum.object).mapM ofDatum? = none := by
  induction items with
  | nil => simp at h
  | cons members items ih =>
    obtain ⟨spoilt, hmem, hspoilt⟩ := h
    rw [List.map_cons, List.mapM_cons]
    rcases List.mem_cons.mp hmem with rfl | hmem
    · rw [ofDatum?_of_isSpoilt hspoilt]
      rfl
    · rw [ih ⟨spoilt, hmem, hspoilt⟩]
      cases ofDatum? (.object members) <;> rfl

end Entry

namespace Index

/-- The entries that a list of objects stands for. -/
def entriesOf? : Datum → Option (List Entry)
  | .list items => items.mapM Entry.ofDatum?
  | _ => none

def sense (key : String) (_ : Index) (v : Datum) : Option Index :=
  match key with
  | "results" => (entriesOf? v).map fun entries => ⟨entries⟩
  | _ => none

variable {top : List (String × Datum)} {items : List (List (String × Datum))} {text : String}

/-- What the members say. -/
def overlay (members : List (String × Datum)) : Index := ⟨given members "results" entriesOf? []⟩

theorem fill_eq (htop : valuesOf top "results" = [.list (items.map .object)]) :
    shape.fill sense [] shape.blank top =
      ((items.map Datum.object).mapM Entry.ofDatum?).map Index.mk := by
  have hname (name : String) : name ∈ shape.names ↔ name = "results" := List.mem_singleton
  have hmem : ("results", .list (items.map .object)) ∈ top :=
    mem_valuesOf.mp (htop ▸ List.mem_singleton_self _)
  cases hentries : (items.map Datum.object).mapM Entry.ofDatum? with
  | none =>
    refine Shape.fill_eq_none_of_mem ((hname _).mpr rfl) hmem fun index => ?_
    simp [sense, entriesOf?, hentries]
  | some entries =>
    have hvalue : entriesOf? (.list (items.map .object)) = some entries := hentries
    have htopEq : overlay top = ⟨entries⟩ := by simp [overlay, given, htop, hvalue]
    have hblank : shape.blank = overlay [] := rfl
    rw [hblank, Option.map_some, ← htopEq]
    refine Shape.fill_eq_overlay ?_ ?_ ?_ ?_
    · intro done key v hkey
      rw [hname] at hkey
      simp [overlay, given_append_of_ne hkey]
    · intro done key v hkey hv hnew
      obtain rfl := (hname key).mp hkey
      rw [← mem_valuesOf, htop, List.mem_singleton] at hv
      subst hv
      simp [sense, overlay, hvalue, given_append_self hnew hvalue]
    · intro name hin
      obtain rfl := (hname name).mp hin
      simp [htop]
    · intro _ name hin
      obtain rfl := (hname name).mp hin
      simp [htop]

theorem takes_object (htop : valuesOf top "results" = [.list (items.map .object)]) :
    Takes shape.read (.object top)
      (((items.map Datum.object).mapM Entry.ofDatum?).map Index.mk) := by
  rw [← fill_eq htop]
  refine Shape.takes_object fun field hfield v hv index => ?_
  simp only [shape, List.mem_singleton] at hfield
  subst hfield
  rw [← mem_valuesOf] at hv
  obtain rfl : v = .list (items.map .object) := List.mem_singleton.mp (htop ▸ hv)
  refine takes_field (takes_list fun v hv => ?_) _ _ index
  obtain ⟨members, -, rfl⟩ := List.mem_map.mp hv
  exact Entry.takes_object members

theorem ofJson_of_isGiven (htop : valuesOf top "results" = [.list (items.map .object)])
    (hdoc : HeldBy (.object top) text.toList) {entries : List NamedEntry}
    (h : List.Forall₂ NamedEntry.IsGiven entries items) :
    ofJson text = .ok ⟨entries.map NamedEntry.entry⟩ := by
  have htakes := takes_object htop
  rw [Entry.mapM_ofDatum?_of_isGiven h] at htakes
  exact parse_eq_ok htakes hdoc

end Index

/-- The order of the members, other keys and kinds that are not known spoil nothing: as long as
every entry gives its five fields once, as strings, the index has exactly these entries. So another
kind for one entry changes only that entry. An entry that lacks a field, repeats one or has
something else for a text spoils the whole index. -/
theorem index_keeps_odd_entries (top : List (String × Datum)) (items : List (List (String × Datum)))
    (text : String) (htop : valuesOf top "results" = [.list (items.map .object)])
    (hdoc : HeldBy (.object top) text.toList) :
    (∀ entries, List.Forall₂ NamedEntry.IsGiven entries items →
      Index.ofJson text = .ok ⟨entries.map NamedEntry.entry⟩ ∧
      ∀ i kind top' items' text', valuesOf top' "results" = [.list (items'.map .object)] →
        HeldBy (.object top') text'.toList →
        List.Forall₂ NamedEntry.IsGiven (entries.modify i fun e => { e with kind := kind }) items' →
        Index.ofJson text' = .ok ⟨(entries.map NamedEntry.entry).modify i fun e =>
          { e with kind := .ofName kind }⟩) ∧
    ((∃ members ∈ items, Entry.IsSpoilt members) → ∃ e, Index.ofJson text = .error e) ∧
    (∀ p ∈ [("Class", EntryKind.classType), ("Struct", .structType), ("Enum", .enumType),
      ("Builtin", .builtinType), ("Function", .function), ("Member", .member),
      ("Constant", .constant), ("Enumerator", .enumerator)], EntryKind.ofName p.1 = p.2) ∧
    ∀ name ∉ ["Class", "Struct", "Enum", "Builtin", "Function", "Member", "Constant",
      "Enumerator"], EntryKind.ofName name = .unknown := by
  refine ⟨fun entries h => ⟨Index.ofJson_of_isGiven htop hdoc h, ?_⟩, fun hspoilt => ?_, by decide,
    ?_⟩
  · intro i kind top' items' text' htop' hdoc' h'
    rw [Index.ofJson_of_isGiven htop' hdoc' h', NamedEntry.map_modify_kind]
  · have htakes := Index.takes_object htop
    rw [Entry.mapM_ofDatum?_of_isSpoilt hspoilt] at htakes
    exact parse_eq_error htakes hdoc
  · intro name hname
    have hknown : ∀ kind ∈ EntryKind.known, kind.name ∈ ["Class", "Struct", "Enum", "Builtin",
        "Function", "Member", "Constant", "Enumerator"] := by decide
    have hnone : (EntryKind.known.find? fun kind => kind.name == name) = none := by
      rw [List.find?_eq_none]
      exact fun kind hkind heq => hname (beq_iff_eq.mp heq ▸ hknown kind hkind)
    rw [EntryKind.ofName, hnone]
    rfl

/-- Entries of an unknown and of a known kind, the second one with a key that no entry has. -/
def mixedEntries : List NamedEntry :=
  [⟨"A.", "b", "a.html", "", "Widget"⟩, ⟨"", "c", "c.html", "<p>", "Struct"⟩]

def mixedItems : List (List (String × Datum)) :=
  [[("kind", .text "Widget"), ("name", .text "b"), ("desc", .text ""), ("link", .text "a.html"),
      ("name_prelude", .text "A.")],
    [("name_prelude", .text ""), ("name", .text "c"), ("tags", .list [.boolean true, .object []]),
      ("link", .text "c.html"), ("desc", .text "<p>"), ("kind", .text "Struct")]]

def mixedMembers : List (String × Datum) :=
  [("version", .number (.ofNat 2)), ("results", .list (mixedItems.map .object))]

def mixedText : String :=
  "\x7b\"version\":2,\"results\":[\x7b\"kind\":\"Widget\",\"name\":\"b\",\"desc\":\"\"," ++
    "\"link\":\"a.html\",\"name_prelude\":\"A.\"\x7d, \x7b\"name_prelude\":\"\",\"name\":\"c\"," ++
    "\"tags\":[true,\x7b\x7d],\"link\":\"c.html\",\"desc\":\"<p>\",\"kind\":\"Struct\"\x7d]\x7d\n"

theorem mixedText_spelled : HeldBy (.object mixedMembers) mixedText.toList := by
  have hnil : Blank [] := nofun
  have hspace : Blank [' '] := by simp [Blank]
  have hline : Blank ['\n'] := by simp [Blank]
  have htext {key s : String} (hkey : key.toList.all standsForItself)
      (hs : s.toList.all standsForItself) : Member Spells (key, .text s) _ :=
    .colon (quoted_self hkey) hnil hnil (.text (quoted_self hs))
  have htags : Member Spells ("tags", .list [.boolean true, .object []]) _ :=
    .colon (quoted_self (by decide)) hnil hnil
      (.list (.more hnil .yes hnil (.one hnil (.emptyObject hnil) hnil)))
  have hwidget : Spells (.object mixedItems[0]) _ :=
    .object (.more hnil (htext rfl rfl) hnil (.more hnil (htext rfl rfl) hnil
      (.more hnil (htext rfl rfl) hnil (.more hnil (htext rfl rfl) hnil
        (.one hnil (htext rfl rfl) hnil)))))
  have hstruct : Spells (.object mixedItems[1]) _ :=
    .object (.more hnil (htext rfl rfl) hnil (.more hnil (htext rfl rfl) hnil
      (.more hnil htags hnil (.more hnil (htext rfl rfl) hnil
        (.more hnil (htext rfl rfl) hnil (.one hnil (htext rfl rfl) hnil))))))
  have hmembers : Items (Member Spells) mixedMembers _ :=
    .more hnil (.colon (quoted_self (by decide)) hnil hnil (.number _)) hnil
      (.one hnil (.colon (quoted_self (by decide)) hnil hnil
        (.list (.more hnil hwidget hnil (.one hspace hstruct hnil)))) hnil)
  have hdoc : HeldBy (.object mixedMembers) _ := .value hnil (.object hmembers) hline
  unfold mixedText
  rw [String.toList_append, String.toList_append, String.toList_ofList, String.toList_ofList,
    String.toList_ofList]
  exact hdoc

theorem index_keeps_odd_entries_mixed :
    Index.ofJson mixedText = .ok ⟨[⟨"A.", "b", "a.html", "", .unknown⟩,
      ⟨"", "c", "c.html", "<p>", .structType⟩]⟩ := by
  have hgiven : List.Forall₂ NamedEntry.IsGiven mixedEntries mixedItems := by
    refine .cons ?_ (.cons ?_ .nil)
    · simp only [NamedEntry.IsGiven, NamedEntry.fields, List.forall_mem_cons]
      exact ⟨rfl, rfl, rfl, rfl, rfl, nofun⟩
    · simp only [NamedEntry.IsGiven, NamedEntry.fields, List.forall_mem_cons]
      exact ⟨rfl, rfl, rfl, rfl, rfl, nofun⟩
  exact ((index_keeps_odd_entries mixedMembers mixedItems mixedText rfl mixedText_spelled).1
    mixedEntries hgiven).1

end DocPages
