import DocPages.Text.Blank
import DocPages.Text.Fold
import DocPages.Text.Table.Letters
import DocPages.Text.Table.Lowercase
import DocPages.Text.Table.Numeric

/-! Character classes and the bonus for matching where a word begins. -/

namespace DocPages.Fuzzy

inductive CharClass where
  | whitespace
  | nonWord
  | delimiter
  | lower
  | upper
  | letter
  | number
  deriving DecidableEq, Repr

namespace CharClass

def ofAscii (c : Char) : CharClass :=
  if c.isLower then lower
  else if c.isUpper then upper
  else if c.isDigit then number
  else if [' ', '\t', '\n', '\x0c', '\r'].contains c then whitespace
  else if ['/', ',', ':', ';', '|'].contains c then delimiter
  else nonWord

/-- Outside ASCII a character that folds and is not lowercase counts as uppercase. -/
def ofChar (c : Char) : CharClass :=
  if isAscii c then ofAscii c
  else if Table.lowercase.any (CodeRun.contains · c) then lower
  else if (foldStep? c).isSome then upper
  else if CodeRange.anyContains Table.numeric c then number
  else if CodeRange.anyContains Table.letters c then letter
  else if isBlank c then whitespace
  else nonWord

/-- The bonus for matching a character of the second class right after one of the first. -/
def bonus : CharClass → CharClass → Nat
  | whitespace, .lower | whitespace, .upper | whitespace, .letter | whitespace, .number => 10
  | delimiter, .lower | delimiter, .upper | delimiter, .letter | delimiter, .number => 9
  | nonWord, .lower | nonWord, .upper | nonWord, .letter | nonWord, .number => 8
  | lower, .upper => 5
  | number, .number => 0
  | _, .number => 5
  | _, .whitespace => 10
  | _, .nonWord => 8
  | _, _ => 0

end CharClass

end DocPages.Fuzzy
