/-! What a page asks of the document it lives in. Elements are addressed by id; an operation on an
element that is missing gives nothing. -/

namespace DocPages

class Document (δ : Type) where
  hasElement : δ → String → Bool
  /-- Ids of the elements with a class, in document order; elements without an id are left out. -/
  idsWithClass : δ → String → List String
  hasClass : δ → String → String → Bool
  /-- Adds or removes a class; tells whether it is there now. -/
  toggleClass : δ → String → String → Option (Bool × δ)
  text : δ → String → Option String
  setText : δ → String → String → Option δ
  /-- An inline style property, if it is set. -/
  style : δ → String → String → Option String
  /-- Sets an inline style property; the empty value clears it. -/
  setStyle : δ → String → String → String → Option δ
  /-- Removes the first element with the id. -/
  remove : δ → String → Option δ
  /-- Appends markup, whose root has the second id, to the element with the first. -/
  append : δ → String → String → String → Option δ

namespace Document

/-- A change of an inline style. -/
structure StyleEdit where
  property : String
  value : String
  deriving DecidableEq, Repr

variable {δ : Type} [Document δ]

/-- Changes styles of an element; if it is missing nothing happens. -/
def applyEdits (d : δ) (id : String) (edits : List StyleEdit) : δ :=
  edits.foldl (fun d e => (setStyle d id e.property e.value).getD d) d

end Document

end DocPages
