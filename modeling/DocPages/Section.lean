import DocPages.Document
import DocPages.Notice

/-! Collapsible sections. The button of a section carries a minus while the section is open and a
plus while it is collapsed. -/

namespace DocPages.Section

open Document

def collapsibleClass : String := "collapsible"

def collapsedClass : String := "collapsed_by_default"

def hiddenClass : String := "hide"

def buttonId (id : String) : String := id ++ ".vis_button"

def replaceFirst (old new : Char) : List Char → List Char
  | [] => []
  | c :: cs => if c = old then new :: cs else c :: replaceFirst old new cs

/-- The label of a button whose section has just been collapsed or opened. -/
def relabel (collapsed : Bool) (label : String) : String :=
  String.ofList (if collapsed then replaceFirst '-' '+' label.toList
    else replaceFirst '+' '-' label.toList)

variable {δ : Type} [Document δ]

def isCollapsed (d : δ) (id : String) : Bool := hasClass d id hiddenClass

/-- Opens or collapses a section; tells whether it is collapsed now. -/
def toggle (d : δ) (id : String) : Option (Bool × δ) :=
  (toggleClass d id hiddenClass).map fun (collapsed, d) =>
    match text d (buttonId id) with
    | some label => (collapsed, (setText d (buttonId id) (relabel collapsed label)).getD d)
    | none => (collapsed, d)

/-- Shows the button of one section, and collapses the section if it asks for that. Nothing
happens to a section without a button. -/
def prepare (d : δ) (id : String) : Option δ :=
  (setStyle d (buttonId id) "visibility" "visible").map fun d =>
    if hasClass d id collapsedClass then ((toggle d id).map (·.2)).getD d else d

def prepareAll (d : δ) : List String → List String × δ × List Notice
  | [] => ([], d, [])
  | id :: ids =>
    match prepare d id with
    | none =>
      let (ready, d, notices) := prepareAll d ids
      (ready, d, .sectionWithoutButton id :: notices)
    | some d =>
      let (ready, d, notices) := prepareAll d ids
      (id :: ready, d, notices)

/-- Prepares every collapsible section; the answer lists those that have a button. -/
def install (d : δ) : List String × δ × List Notice :=
  prepareAll d (idsWithClass d collapsibleClass)

end DocPages.Section
