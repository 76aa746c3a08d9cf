import DocPages.Document
import DocPages.Text.Split

/-! The document of a browser: a tree of elements, listed in document order with their depths. An
element's parent is the nearest element in front of it that lies less deep. -/

namespace DocPages

structure TreeElement where
  /-- Identity; no two elements of a tree ever have the same. -/
  key : Nat
  depth : Nat
  tag : String
  id : String
  classes : List String
  /-- The text of the element itself, without that of the elements inside it. -/
  text : String
  styles : List (String × String)
  /-- The source of inserted markup, whose inside is not looked at. -/
  html : Option String
  /-- What was typed into an input field. -/
  value : String
  deriving DecidableEq, Repr

/-- An element as it is written down, with its children. -/
inductive Outline where
  | element (tag id : String) (classes : List String) (text : String) (children : List Outline)

structure ElementTree where
  elements : List TreeElement
  /-- What was taken out of the document, tree by tree: listeners can still hold on to it. -/
  detached : List (List TreeElement)
  nextKey : Nat
  deriving DecidableEq, Repr

namespace TreeElement

/-- The interface an element has in the browser. -/
def interface (e : TreeElement) : String :=
  match e.tag with
  | "div" => "HTMLDivElement"
  | "input" => "HTMLInputElement"
  | "button" => "HTMLButtonElement"
  | "a" => "HTMLAnchorElement"
  | "script" => "HTMLScriptElement"
  | "svg" => "SVGSVGElement"
  | _ => "HTMLElement"

/-- Elements with text and inline styles. -/
def isHtml (e : TreeElement) : Bool := e.tag != "svg"

def isInput (e : TreeElement) : Bool := e.tag == "input"

def hasClass (e : TreeElement) (c : String) : Bool := e.classes.contains c

def isTokenBreak (c : Char) : Bool := [' ', '\t', '\n', '\x0c', '\r'].contains c

/-- A class name: not empty and without white space. -/
def isToken (c : String) : Bool := !c.isEmpty && !c.toList.any isTokenBreak

def toggleClass (e : TreeElement) (c : String) : Bool × TreeElement :=
  if e.hasClass c then (false, { e with classes := e.classes.erase c })
  else (true, { e with classes := e.classes ++ [c] })

/-- A property that is set keeps its place; a new one goes to the end. -/
def setStyle (e : TreeElement) (property value : String) : TreeElement :=
  let styles :=
    if value.isEmpty then e.styles.filter fun (p, _) => p != property
    else if e.styles.any fun (p, _) => p == property then
      e.styles.map fun (p, v) => if p = property then (p, value) else (p, v)
    else e.styles ++ [(property, value)]
  { e with styles := styles }

end TreeElement

mutual

/-- The elements of an outline in document order; keys are given later. -/
def Outline.flatten (depth : Nat) : Outline → List TreeElement
  | .element tag id classes text children =>
    ⟨0, depth, tag, id, classes, text, [], none, ""⟩ :: Outline.flattenAll (depth + 1) children

def Outline.flattenAll (depth : Nat) : List Outline → List TreeElement
  | [] => []
  | o :: os => o.flatten depth ++ Outline.flattenAll depth os

end

/-- The names in a list of classes. -/
def classNames (s : String) : List String :=
  ((splitWhen TreeElement.isTokenBreak s.toList).filter fun cs => !cs.isEmpty).map String.ofList

def replaceAll (old new : List Char) : Nat → List Char → List Char
  | 0, cs => cs
  | _ + 1, [] => []
  | fuel + 1, c :: cs =>
    if old.isPrefixOf (c :: cs) then new ++ replaceAll old new fuel ((c :: cs).drop old.length)
    else c :: replaceAll old new fuel cs

/-- Reads the five character references of an attribute value, one kind after the other. -/
def decodeReferences (cs : List Char) : List Char :=
  [("&lt;", '<'), ("&gt;", '>'), ("&quot;", '\x22'), ("&#x27;", '\x27'), ("&amp;", '&')].foldl
    (fun cs (reference, c) => replaceAll reference.toList [c] cs.length cs) cs

/-- What follows the first occurrence of `word`. -/
def afterFirst (word : List Char) : List Char → Option (List Char)
  | [] => none
  | c :: cs =>
    if word.isPrefixOf (c :: cs) then some ((c :: cs).drop word.length)
    else afterFirst word cs

/-- The id that a markup fragment gives its root. -/
def fragmentId (html : String) : String :=
  match afterFirst " id=\"".toList html.toList with
  | none => ""
  | some cs =>
    if cs.contains '\x22' then String.ofList (decodeReferences (cs.takeWhile (· != '\x22'))) else ""

namespace ElementTree

def ofOutlines (outlines : List Outline) : ElementTree :=
  let elements := (Outline.flattenAll 0 outlines).zipIdx.map fun (e, i) => { e with key := i }
  ⟨elements, [], elements.length⟩

/-- The first element with an id; the empty id names nothing. -/
def get? (t : ElementTree) (id : String) : Option TreeElement :=
  if id.isEmpty then none else t.elements.find? (·.id == id)

/-- The tree that holds an element: the document, or one that was taken out of it. -/
def home (t : ElementTree) (key : Nat) : List TreeElement :=
  ((t.elements :: t.detached).find? fun elements => elements.any (·.key == key)).getD []

def getKey? (t : ElementTree) (key : Nat) : Option TreeElement :=
  (t.home key).find? (·.key == key)

/-- The elements with all of the given classes. -/
def withClasses (t : ElementTree) (classes : String) : List TreeElement :=
  let names := classNames classes
  if names.isEmpty then [] else t.elements.filter fun e => names.all e.hasClass

def modify (t : ElementTree) (key : Nat) (f : TreeElement → TreeElement) : ElementTree :=
  { t with elements := t.elements.map fun e => if e.key = key then f e else e }

/-- Those of the elements that lie deeper than `depth`, up to the first that does not. -/
def below (depth : Nat) (elements : List TreeElement) : List TreeElement :=
  elements.takeWhile fun e => depth < e.depth

/-- The element with a key and all elements inside it. -/
def subtree (key : Nat) (elements : List TreeElement) : List TreeElement :=
  match elements.dropWhile (·.key != key) with
  | [] => []
  | e :: rest => e :: below e.depth rest

/-- The elements in front of the one with a key. -/
def before (key : Nat) (elements : List TreeElement) : List TreeElement :=
  elements.takeWhile (·.key != key)

def contains (t : ElementTree) (outer inner : Nat) : Bool :=
  (subtree outer (t.home outer)).any (·.key == inner)

/-- The keys of the elements around one of the given depth, nearest first, from the elements in
front of it in reverse. -/
def around (depth : Nat) : List TreeElement → List Nat
  | [] => []
  | e :: rest => if e.depth < depth then e.key :: around e.depth rest else around depth rest

/-- An element and the elements around it, from the inside out. -/
def path (t : ElementTree) (key : Nat) : List Nat :=
  match t.getKey? key with
  | none => [key]
  | some e => key :: around e.depth (before key (t.home key)).reverse

/-- The elements that are left without one of them and its inside. -/
def without (key : Nat) (elements : List TreeElement) : List TreeElement :=
  before key elements ++
    elements.drop ((before key elements).length + (subtree key elements).length)

/-- Takes an element with all its inside out of the tree it is in. -/
def removeKey (t : ElementTree) (key : Nat) : ElementTree :=
  let detached := t.detached.map (without key) ++ [subtree key (t.home key)]
  { t with elements := without key t.elements, detached := detached.filter fun es => !es.isEmpty }

/-- Appends markup as the last child of an element of the document. -/
def appendTo (t : ElementTree) (parent : TreeElement) (html : String) : ElementTree :=
  let size := (before parent.key t.elements).length + (subtree parent.key t.elements).length
  let child := ⟨t.nextKey, parent.depth + 1, "div", fragmentId html, [], "", [], some html, ""⟩
  let elements := t.elements.take size ++ child :: t.elements.drop size
  { t with elements := elements, nextKey := t.nextKey + 1 }

def getHtml? (t : ElementTree) (id : String) : Option TreeElement := (t.get? id).filter (·.isHtml)

/-- A text is an element's own. A browser's text content also has the text of the elements inside,
and setting it takes these out of the document, so the two are the same for elements without
children only. The texts a page reads and sets are those of section buttons, which hold none. -/
instance : Document ElementTree where
  hasElement t id := (t.get? id).isSome
  idsWithClass t c := ((t.withClasses c).map (·.id)).filter fun id => !id.isEmpty
  hasClass t id c := (t.get? id).any (·.hasClass c)
  toggleClass t id c :=
    if TreeElement.isToken c then
      (t.get? id).map fun e => ((e.toggleClass c).1, t.modify e.key fun e => (e.toggleClass c).2)
    else none
  text t id := (t.getHtml? id).map (·.text)
  setText t id s := (t.getHtml? id).map fun e => t.modify e.key fun e => { e with text := s }
  style t id property :=
    ((t.getHtml? id).bind fun e => e.styles.lookup property).filter fun v => !v.isEmpty
  setStyle t id property value :=
    (t.getHtml? id).map fun e => t.modify e.key (·.setStyle property value)
  remove t id := (t.get? id).map fun e => t.removeKey e.key
  append t parent _ html := (t.get? parent).map fun e => t.appendTo e html

end ElementTree

end DocPages
