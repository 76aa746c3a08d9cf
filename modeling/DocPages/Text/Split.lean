/-! Cutting a list of characters into pieces. -/

namespace DocPages

/-- The pieces between the characters that satisfy `cut`; there is one more piece than cuts. -/
def splitWhen (cut : Char → Bool) : List Char → List (List Char)
  | [] => [[]]
  | c :: cs =>
    let rest := splitWhen cut cs
    if cut c then [] :: rest else (c :: rest.headD []) :: rest.tail

end DocPages
