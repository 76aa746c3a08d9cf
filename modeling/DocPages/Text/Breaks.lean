/-! Zero-width spaces that let long identifiers wrap. -/

namespace DocPages

def zeroWidthSpace : Char := '\u200b'

inductive BreakStyle where
  | punctuation
  | punctuationAndCase
  deriving DecidableEq, Repr

namespace BreakStyle

def name : BreakStyle → String
  | punctuation => "punctuation"
  | punctuationAndCase => "punctuation_and_case"

def ofName? (s : String) : Option BreakStyle :=
  [punctuation, punctuationAndCase].find? fun style => style.name == s

/-- Whether a line may break in front of `c`. -/
def breaksBefore : BreakStyle → Char → Bool
  | punctuation, c => c == '.' || c == '_'
  | punctuationAndCase, c => c == '.' || c == '_' || c.isUpper

/-- Puts a zero-width space in front of every break character that does not follow one; `prev`
is the character that came before. -/
def spread (style : BreakStyle) (prev : Option Char) : List Char → List Char
  | [] => []
  | c :: cs =>
    if style.breaksBefore c && prev != some zeroWidthSpace then
      zeroWidthSpace :: c :: style.spread (some c) cs
    else
      c :: style.spread (some c) cs

end BreakStyle

def hasBreakChar (style : BreakStyle) (text : String) : Bool :=
  text.toList.any style.breaksBefore

/-- `text` with its break opportunities; a text without a break character is kept as it is. -/
def insertBreaks (style : BreakStyle) (text : String) : String :=
  if hasBreakChar style text then String.ofList (style.spread none text.toList) else text

end DocPages
