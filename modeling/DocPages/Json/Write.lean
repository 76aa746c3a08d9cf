import DocPages.Json.Text

/-! Compact JSON text. -/

namespace DocPages.Json

def writeNat (n : Nat) : List Char := Nat.toDigits 10 n

/-- Values with commas between them. -/
def writeItems : List (List Char) → List Char
  | [] => []
  | [x] => x
  | x :: xs => x ++ ',' :: writeItems xs

def writeList (items : List (List Char)) : List Char := '[' :: writeItems items ++ [']']

/-- Members in the given order. -/
def writeObject (members : List (String × List Char)) : List Char :=
  '\x7b' :: writeItems (members.map fun (name, value) => writeText name ++ ':' :: value) ++ ['\x7d']

end DocPages.Json
