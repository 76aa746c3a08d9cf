import DocPages.Document

/-! A document as a plain list of elements, for pages that run without a browser. Appended markup
is kept as it is; only the id of its root is known. -/

namespace DocPages

structure FlatElement where
  id : String
  parent : Option String
  classes : List String
  text : String
  styles : List (String × String)
  html : Option String
  deriving DecidableEq, Repr

structure FlatDocument where
  elements : List FlatElement
  deriving DecidableEq, Repr

namespace FlatElement

def plain (id : String) (classes : List String) (text : String) : FlatElement :=
  ⟨id, none, classes, text, [], none⟩

def hasClass (e : FlatElement) (c : String) : Bool := e.classes.contains c

def toggleClass (e : FlatElement) (c : String) : Bool × FlatElement :=
  if e.hasClass c then (false, { e with classes := e.classes.erase c })
  else (true, { e with classes := e.classes ++ [c] })

/-- A property that is set goes to the end. -/
def setStyle (e : FlatElement) (property value : String) : FlatElement :=
  let others := e.styles.filter fun (p, _) => p != property
  { e with styles := if value.isEmpty then others else others ++ [(property, value)] }

end FlatElement

/-- Changes the first element that satisfies `p`. -/
def modifyFirst {α : Type} (p : α → Bool) (f : α → α) : List α → Option (List α)
  | [] => none
  | x :: xs => if p x then some (f x :: xs) else (modifyFirst p f xs).map (x :: ·)

namespace FlatDocument

def empty : FlatDocument := ⟨[]⟩

def insert (d : FlatDocument) (id : String) (classes : List String) (text : String) :
    FlatDocument := ⟨d.elements ++ [.plain id classes text]⟩

def get? (d : FlatDocument) (id : String) : Option FlatElement := d.elements.find? (·.id == id)

def count (d : FlatDocument) (id : String) : Nat := d.elements.countP (·.id == id)

/-- The markup of an appended element. -/
def html (d : FlatDocument) (id : String) : Option String := (d.get? id).bind (·.html)

def modify? (d : FlatDocument) (id : String) (f : FlatElement → FlatElement) :
    Option FlatDocument := (modifyFirst (·.id == id) f d.elements).map FlatDocument.mk

/-- Removes the first element with the id and all elements that name it as their parent. -/
def remove? (d : FlatDocument) (id : String) : Option FlatDocument :=
  if (d.get? id).isSome then
    some ⟨(d.elements.eraseP (·.id == id)).filter fun e => e.parent != some id⟩
  else none

def append? (d : FlatDocument) (parent child html : String) : Option FlatDocument :=
  if (d.get? parent).isSome then
    some ⟨d.elements ++ [⟨child, some parent, [], "", [], some html⟩]⟩
  else none

instance : Document FlatDocument where
  hasElement d id := (d.get? id).isSome
  idsWithClass d c := (d.elements.filter fun e => !e.id.isEmpty && e.hasClass c).map (·.id)
  hasClass d id c := (d.get? id).any (·.hasClass c)
  toggleClass d id c :=
    match d.get? id, d.modify? id fun e => (e.toggleClass c).2 with
    | some e, some d => some ((e.toggleClass c).1, d)
    | _, _ => none
  text d id := (d.get? id).map (·.text)
  setText d id s := d.modify? id fun e => { e with text := s }
  style d id property := (d.get? id).bind fun e => e.styles.lookup property
  setStyle d id property value := d.modify? id (·.setStyle property value)
  remove := remove?
  append := append?

end FlatDocument

end DocPages
