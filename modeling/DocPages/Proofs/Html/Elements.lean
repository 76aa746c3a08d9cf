import DocPages.Document.Flat
import DocPages.Proofs.Html.Tree
import Mathlib.Data.List.Nodup

/-! The elements of a forest in document order, with the attributes that a page looks at, and the
document they make up. -/

namespace DocPages.Html

structure Element where
  name : String
  attrs : Attrs
  content : List Char
  deriving DecidableEq, Repr

mutual

def Node.elements : Node → List Element
  | .char _ => []
  | .void name attrs => [⟨name, attrs, []⟩]
  | .element name attrs children =>
    ⟨name, attrs, Html.content children⟩ :: Node.elementsAll children

def Node.elementsAll : List Node → List Element
  | [] => []
  | n :: ns => n.elements ++ Node.elementsAll ns

end

def words (s : String) : List String :=
  ((s.toList.splitOnP isBlank).filter (!·.isEmpty)).map String.ofList

def trim (cs : List Char) : List Char :=
  ((cs.dropWhile isBlank).reverse.dropWhile isBlank).reverse

def declaration? (cs : List Char) : Option (String × String) :=
  match cs.dropWhile (· != ':') with
  | [] => none
  | _ :: value =>
    some (String.ofList (trim (cs.takeWhile (· != ':'))), String.ofList (trim value))

namespace Element

def attr? (e : Element) (name : String) : Option String := e.attrs.lookup name

def id (e : Element) : String := (e.attr? "id").getD ""

def classes (e : Element) : List String := words ((e.attr? "class").getD "")

def hasClass (e : Element) (c : String) : Bool := e.classes.contains c

def styles (e : Element) : List (String × String) :=
  (((e.attr? "style").getD "").toList.splitOnP (· == ';')).filterMap declaration?

def toFlat (e : Element) : FlatElement :=
  ⟨e.id, none, e.classes, String.ofList e.content, e.styles, none⟩

example : (Element.mk "p" [("class", " a\tb "), ("style", "top: 1px;color : red")] []).toFlat =
    ⟨"", none, ["a", "b"], "", [("top", "1px"), ("color", "red")], none⟩ := by
  decide +kernel

theorem classes_eq_nil {e : Element} (h : e.attr? "class" = none) : e.classes = [] := by
  rw [classes, h]
  decide +kernel

end Element

def document (ns : List Node) : FlatDocument := ⟨(Node.elementsAll ns).map Element.toFlat⟩

def select (p : Element → Bool) (ns : List Node) : List Element := (Node.elementsAll ns).filter p

def ids (ns : List Node) : List String := (select (!·.id.isEmpty) ns).map Element.id

section Select

open Node

theorem elementsAll_append (ms ns : List Node) :
    elementsAll (ms ++ ns) = elementsAll ms ++ elementsAll ns := by
  induction ms with
  | nil => rfl
  | cons m ms ih => simp [elementsAll, ih]

theorem elementsAll_element (name : String) (attrs : Attrs) (children ns : List Node) :
    elementsAll (.element name attrs children :: ns) =
      ⟨name, attrs, content children⟩ :: (elementsAll children ++ elementsAll ns) := by
  rw [elementsAll, elements, List.cons_append]

theorem elementsAll_text (s : String) : elementsAll (text s) = [] := by
  rw [text]
  induction s.toList with
  | nil => rfl
  | cons c cs ih => simpa [elementsAll, elements] using ih

@[simp] theorem select_append (p : Element → Bool) (ms ns : List Node) :
    select p (ms ++ ns) = select p ms ++ select p ns := by
  rw [select, elementsAll_append, List.filter_append]
  rfl

@[simp] theorem select_text (p : Element → Bool) (s : String) : select p (text s) = [] := by
  rw [select, elementsAll_text]
  rfl

theorem select_cons (p : Element → Bool) (n : Node) (ns : List Node) :
    select p (n :: ns) = select p [n] ++ select p ns := select_append p [n] ns

theorem select_void (p : Element → Bool) (name : String) (attrs : Attrs) :
    select p [.void name attrs] = [⟨name, attrs, []⟩].filter p := by
  simp [select, elementsAll, elements]

theorem select_element (p : Element → Bool) (name : String) (attrs : Attrs) (children : List Node) :
    select p [.element name attrs children] =
      [⟨name, attrs, content children⟩].filter p ++ select p children := by
  simp only [select, elementsAll, elements, List.append_nil]
  exact List.filter_append [_] (elementsAll children)

theorem ids_append (ms ns : List Node) : ids (ms ++ ns) = ids ms ++ ids ns := by
  rw [ids, select_append, List.map_append]
  rfl

theorem ids_element {x : String} (h : x ≠ "") (name : String) (attrs : Attrs)
    (children : List Node) :
    ids [.element name (("id", x) :: attrs) children] = x :: ids children := by
  have hid : (Element.mk name (("id", x) :: attrs) (content children)).id = x := rfl
  rw [ids, select_element, List.filter_cons_of_pos (by simpa [hid] using h)]
  rfl

theorem ids_void {x : String} (h : x ≠ "") (name : String) (attrs : Attrs) :
    ids [.void name (("id", x) :: attrs)] = [x] := by
  have hid : (Element.mk name (("id", x) :: attrs) []).id = x := rfl
  rw [ids, select_void, List.filter_cons_of_pos (by simpa [hid] using h)]
  rfl

theorem select_unclassed {attrs : Attrs} (h : attrs.lookup "class" = none) (name cls : String)
    (children : List Node) : select (·.hasClass cls) [.element name attrs children] =
      select (·.hasClass cls) children := by
  have hclasses : (Element.mk name attrs (content children)).classes = [] :=
    Element.classes_eq_nil h
  rw [select_element, List.filter_cons_of_neg (by simp [Element.hasClass, hclasses])]
  rfl

theorem select_unclassed_void {attrs : Attrs} (h : attrs.lookup "class" = none)
    (name cls : String) : select (·.hasClass cls) [.void name attrs] = [] := by
  have hclasses : (Element.mk name attrs []).classes = [] := Element.classes_eq_nil h
  rw [select_void, List.filter_cons_of_neg (by simp [Element.hasClass, hclasses])]
  rfl

end Select

section Document

open Node

variable {ns : List Node}

theorem length_select_id (h : (ids ns).Nodup) {x : String} (hx : x ∈ ids ns) :
    (select (·.id == x) ns).length = 1 := by
  have hne : x ≠ "" := by
    obtain ⟨e, he, rfl⟩ := List.mem_map.mp hx
    simpa using (List.mem_filter.mp he).2
  have hsame (e : Element) : (e.id == x && !e.id.isEmpty) = (e.id == x) := by
    by_cases hid : e.id = x
    · simp [hid, hne]
    · simp [hid]
  have hcount : (ids ns).count x = 1 := List.count_eq_one_of_mem h hx
  rw [ids, select, List.count, List.countP_map, List.countP_filter] at hcount
  rw [select, ← List.countP_eq_length_filter, ← hcount]
  exact List.countP_congr fun e _ => by simp [hsame]

theorem get?_document (h : (ids ns).Nodup) {e : Element} (he : e ∈ elementsAll ns)
    (hid : e.id ≠ "") : (document ns).get? e.id = some e.toFlat := by
  have hfind : (elementsAll ns).find? (·.id == e.id) = some e := by
    have hsome : ((elementsAll ns).find? (·.id == e.id)).isSome :=
      List.find?_isSome.mpr ⟨e, he, by simp⟩
    obtain ⟨e', hfind⟩ := Option.isSome_iff_exists.mp hsome
    have hsame : e'.id = e.id := by simpa using List.find?_some hfind
    have hnamed (x : Element) (hx : x ∈ elementsAll ns) (hxid : x.id = e.id) :
        x ∈ select (!·.id.isEmpty) ns :=
      List.mem_filter.mpr ⟨hx, by simpa [hxid] using hid⟩
    have heq := List.inj_on_of_nodup_map h (hnamed e' (List.mem_of_find?_eq_some hfind) hsame)
      (hnamed e he rfl) hsame
    rw [hfind, heq]
  rw [FlatDocument.get?, document, List.find?_map]
  exact (congrArg (Option.map Element.toFlat) hfind).trans rfl

theorem isSome_get?_document (h : (ids ns).Nodup) {x : String} (hx : x ∈ ids ns) :
    ((document ns).get? x).isSome := by
  obtain ⟨e, he, rfl⟩ := List.mem_map.mp hx
  obtain ⟨hmem, hnamed⟩ := List.mem_filter.mp he
  rw [get?_document h hmem (by simpa using hnamed)]
  rfl

theorem idsWithClass_document (ns : List Node) (c : String) :
    Document.idsWithClass (document ns) c =
      ((select (·.hasClass c) ns).filter (!·.id.isEmpty)).map Element.id := by
  simp only [Document.idsWithClass, document, select, List.filter_map, List.map_map,
    List.filter_filter]
  rfl

theorem hasClass_document_eq_false {c : String} (h : select (·.hasClass c) ns = []) (x : String) :
    Document.hasClass (document ns) x c = false := by
  simp only [Document.hasClass, FlatDocument.get?, document, List.find?_map]
  cases hfind : (elementsAll ns).find? ((fun e : FlatElement => e.id == x) ∘ Element.toFlat) with
  | none => rfl
  | some e =>
    have hnot := List.filter_eq_nil_iff.mp h e (List.mem_of_find?_eq_some hfind)
    have hflat : e.toFlat.hasClass c = e.hasClass c := rfl
    simpa [hflat] using hnot

end Document

end DocPages.Html
