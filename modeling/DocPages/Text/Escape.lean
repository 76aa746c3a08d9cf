/-! Escapes for the places where text enters markup: attribute values, element content and the
content of a script element. -/

namespace DocPages

def attrChar : Char → List Char
  | '&' => "&amp;".toList
  | '<' => "&lt;".toList
  | '>' => "&gt;".toList
  | '\x22' => "&quot;".toList
  | '\x27' => "&#x27;".toList
  | c => [c]

def textChar : Char → List Char
  | '&' => "&amp;".toList
  | '<' => "&lt;".toList
  | '>' => "&gt;".toList
  | c => [c]

/-- Text for a quoted attribute value. -/
def escapeAttr (s : String) : String := String.ofList (s.toList.flatMap attrChar)

/-- Text for element content; quotes stay as they are. -/
def escapeText (s : String) : String := String.ofList (s.toList.flatMap textChar)

def guardClosers : List Char → List Char
  | [] => []
  | '<' :: '/' :: cs => '<' :: '\x5c' :: '/' :: guardClosers cs
  | c :: cs => c :: guardClosers cs

/-- Text for the content of a script element: a backslash goes into every `</`. -/
def escapeScript (s : String) : String := String.ofList (guardClosers s.toList)

end DocPages
