import DocPages.Text.Split

/-! A tree of files and directories, and paths into it. -/

namespace DocPages

inductive FileNode where
  | directory
  | file (text : String)
  deriving DecidableEq, Repr

/-- Nodes by the names that lead to them from the top directory, which is always there. -/
structure FileTree where
  nodes : List (List String × FileNode)
  deriving DecidableEq, Repr

inductive FileError where
  | alreadyExists
  | notADirectory
  | notFound
  | isADirectory
  | invalidInput
  | invalidFilename
  deriving DecidableEq, Repr

inductive PathStep where
  | down (name : String)
  | up
  deriving DecidableEq, Repr

/-- How a path ends: with a step, with a slash, or with a dot after a slash. -/
inductive PathEnd where
  | step
  | slash
  | dot
  deriving DecidableEq, Repr

structure Path where
  text : String
  steps : List PathStep
  ending : PathEnd
  deriving DecidableEq, Repr

namespace Path

def step? : List Char → Option PathStep
  | [] | ['.'] => none
  | ['.', '.'] => some .up
  | name => some (.down (String.ofList name))

def endOf (parts : List (List Char)) : PathEnd :=
  match parts.reverse.dropWhile List.isEmpty with
  | ['.'] :: _ => .dot
  | _ => if parts.getLast? = some [] then .slash else .step

def ofText (text : String) : Path :=
  let parts := splitWhen (· == '/') text.toList
  ⟨text, parts.filterMap step?, endOf parts⟩

/-- A file name below a directory. -/
def join (dir file : String) : String :=
  if file.toList.head? = some '/' || dir.isEmpty then file
  else if dir.toList.getLast? = some '/' then dir ++ file
  else dir ++ "/" ++ file

def hasNul (p : Path) : Bool := p.text.toList.any (·.toNat == 0)

/-- The path's first `n` steps. -/
def first (p : Path) (n : Nat) : Path :=
  if p.steps.length ≤ n then p else { p with steps := p.steps.take n, ending := .step }

end Path

namespace FileTree

def empty : FileTree := ⟨[]⟩

def get? (t : FileTree) (names : List String) : Option FileNode :=
  if names.isEmpty then some .directory else t.nodes.lookup names

def put (t : FileTree) (names : List String) (node : FileNode) : FileTree :=
  ⟨t.nodes.filter (fun (k, _) => k != names) ++ [(names, node)]⟩

def longestName : Nat := 255

def longestPath : Nat := 4095

/-- The node that a name leads to from a directory. -/
def child? (t : FileTree) (dir : List String) (name : String) :
    Except FileError (Option FileNode) :=
  if longestName < name.utf8ByteSize then .error .invalidFilename else .ok (t.get? (dir ++ [name]))

/-- Follows steps through directories. -/
def walk (t : FileTree) (dir : List String) : List PathStep → Except FileError (List String)
  | [] => .ok dir
  | .up :: steps => t.walk dir.dropLast steps
  | .down name :: steps =>
    match t.child? dir name with
    | .error e => .error e
    | .ok none => .error .notFound
    | .ok (some (.file _)) => .error .notADirectory
    | .ok (some .directory) => t.walk (dir ++ [name]) steps

/-- What a path names: a place in a directory where a node is or can be made, or a directory. -/
inductive Place where
  | entry (dir : List String) (name : String)
  | directory

/-- Goes to the place of a path. A last step that is no name has to lead to a directory. -/
def locate (t : FileTree) (p : Path) : Except FileError Place :=
  if p.hasNul then .error .invalidInput
  else if p.text.isEmpty then .error .notFound
  else if longestPath < p.text.utf8ByteSize then .error .invalidFilename
  else match p.steps.getLast?, p.ending with
    | some (.down name), .step | some (.down name), .slash =>
      match t.walk [] p.steps.dropLast with
      | .error e => .error e
      | .ok dir => .ok (.entry dir name)
    | _, _ =>
      match t.walk [] p.steps with
      | .error e => .error e
      | .ok _ => .ok .directory

def isDirectory (t : FileTree) (p : Path) : Bool :=
  match t.locate p with
  | .error _ => false
  | .ok .directory => true
  | .ok (.entry dir name) =>
    match t.child? dir name with
    | .ok (some .directory) => true
    | _ => false

/-- Makes one directory. -/
def makeDirectory (t : FileTree) (p : Path) : Except FileError FileTree :=
  match t.locate p with
  | .error e => .error e
  | .ok .directory => .error .alreadyExists
  | .ok (.entry dir name) =>
    match t.child? dir name with
    | .error e => .error e
    | .ok (some _) => .error .alreadyExists
    | .ok none => .ok (t.put (dir ++ [name]) .directory)

/-- Makes one directory unless it is there. -/
def ensureDirectory (t : FileTree) (p : Path) : FileTree × Except FileError Unit :=
  match t.makeDirectory p with
  | .ok t => (t, .ok ())
  | .error e => if t.isDirectory p then (t, .ok ()) else (t, .error e)

/-- Makes the directory that the first `n` steps name, and those above it if they are missing. -/
def makeSteps (t : FileTree) (p : Path) : Nat → FileTree × Except FileError Unit
  | 0 => (t, .ok ())
  | n + 1 =>
    match t.makeDirectory (p.first (n + 1)) with
    | .error .notFound =>
      match t.makeSteps p n with
      | (t, .error e) => (t, .error e)
      | (t, .ok ()) => t.ensureDirectory (p.first (n + 1))
    | _ => t.ensureDirectory (p.first (n + 1))

/-- Makes the directories that are missing on a path. It fails for what the path and the tree give
cause for only: permissions and a full disk are not part of a tree. -/
def makeDirectories (t : FileTree) (p : Path) : FileTree × Except FileError Unit :=
  t.makeSteps p p.steps.length

/-- Replaces or makes a file; a failed write changes nothing. Like `makeDirectories` it cannot fail
for want of permission or space, and so it never stops halfway. -/
def write (t : FileTree) (p : Path) (text : String) : Except FileError FileTree :=
  match t.locate p with
  | .error e => .error e
  | .ok .directory => .error .isADirectory
  | .ok (.entry dir name) =>
    if p.ending = .slash then .error .isADirectory
    else match t.child? dir name with
      | .error e => .error e
      | .ok (some .directory) => .error .isADirectory
      | .ok _ => .ok (t.put (dir ++ [name]) (.file text))

def read (t : FileTree) (p : Path) : Except FileError String :=
  match t.locate p with
  | .error e => .error e
  | .ok .directory => .error .isADirectory
  | .ok (.entry dir name) =>
    match t.child? dir name with
    | .error e => .error e
    | .ok none => .error .notFound
    | .ok (some .directory) => .error .isADirectory
    | .ok (some (.file text)) => if p.ending = .slash then .error .notADirectory else .ok text

def namesLE : List String → List String → Bool
  | [], _ => true
  | _ :: _, [] => false
  | a :: as, b :: bs => if a = b then namesLE as bs else a < b

/-- All nodes, each directory before what it holds and with a slash, names in order. -/
def listing (t : FileTree) : List String :=
  (t.nodes.mergeSort fun a b => namesLE a.1 b.1).map fun (names, node) =>
    String.intercalate "/" names ++ (if node = .directory then "/" else "")

end FileTree

end DocPages
