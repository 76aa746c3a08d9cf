import DocPages.Text.Table.Fold
import DocPages.Text.Table.Plain

/-! Case folding and the plain form of modified letters. -/

namespace DocPages

def foldStep? (c : Char) : Option (CodeRun × Int) :=
  Table.fold.find? fun (run, _) => run.contains c

def foldChar (c : Char) : Char :=
  match foldStep? c with
  | some (_, shift) => Char.ofNat (c.toNat + shift).toNat
  | none => c

def plainChar (c : Char) : Char :=
  if c.toNat < 128 then c
  else ((Table.plain.find? fun (code, _) => code == c.toNat).map (·.2)).getD c

def isAscii (c : Char) : Bool := c.toNat < 128

end DocPages
