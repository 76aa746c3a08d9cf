import DocPages.FileTree
import DocPages.Index.Json
import DocPages.Markup
import DocPages.Notice

/-! Writing the index and the pages of a site into a directory. -/

namespace DocPages

def indexFile : String := "search.json"

namespace FileTree

/-- Writes a file below a directory, which is made if it is missing. -/
def publish (t : FileTree) (dir file text : String) : FileTree × Except FileError Unit :=
  match t.makeDirectories (.ofText dir) with
  | (t, .error e) => (t, .error e)
  | (t, .ok ()) =>
    match t.write (.ofText (Path.join dir file)) text with
    | .error e => (t, .error e)
    | .ok t => (t, .ok ())

def publishIndex (t : FileTree) (dir : String) (index : Index) :
    FileTree × Except FileError Unit × List Notice :=
  match t.publish dir indexFile index.toJson with
  | (t, .ok ()) => (t, .ok (), [.indexWritten index.size dir])
  | (t, .error e) => (t, .error e, [])

def publishPage (t : FileTree) (dir file : String) (shell : PageShell) :
    FileTree × Except FileError Unit := t.publish dir file shell.render

end FileTree

end DocPages
