import DocPages.Text.Table.Marks
import DocPages.Text.Table.Unassigned
import DocPages.Text.Table.Unseen

/-! Text shown in quotes, as messages quote it. -/

namespace DocPages

def hexDigits (n : Nat) : String := String.ofList (Nat.toDigits 16 n)

/-- What stands for no character, would not be seen, or is a mark that would be drawn together with
the character in front. -/
def isHidden (c : Char) : Bool :=
  if c.toNat < 0x80 then c.toNat < 0x20 || c.toNat == 0x7f
  else [Table.unseen, Table.marks, Table.extendingMarks, Table.unassigned].any
    fun ranges => CodeRange.anyContains ranges c

def showCode (c : Char) : String := "\\u\x7b" ++ hexDigits c.toNat ++ "\x7d"

/-- Quotes, backslashes and the common controls get a short escape; what is hidden is shown by
its code point. -/
def showChar (c : Char) : String :=
  if c = '\x22' then "\\\""
  else if c = '\x5c' then "\\\\"
  else if c = '\n' then "\\n"
  else if c = '\r' then "\\r"
  else if c = '\t' then "\\t"
  else if c.toNat = 0 then "\\0"
  else if isHidden c then showCode c
  else c.toString

def showText (s : String) : String := "\"" ++ String.join (s.toList.map showChar) ++ "\""

end DocPages
