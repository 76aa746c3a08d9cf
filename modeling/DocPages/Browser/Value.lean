import DocPages.Loader

/-! Script values, as far as a page meets them, and what a fetch can bring. -/

namespace DocPages.Browser

inductive Value where
  | text (s : String)
  | number (x : Binary64)
  | null
  | error (name message : String)
  /-- An object, by its interface. -/
  | object (interface : String)
  deriving DecidableEq, Repr

namespace Value

def shown : Value → String
  | text s => "JsValue(\"" ++ s ++ "\")"
  | number x => "JsValue(" ++ x.render scriptReal ++ ")"
  | null => "JsValue(null)"
  | error name message => "JsValue(" ++ name ++ ": " ++ message ++ ")"
  | object interface => "JsValue(" ++ interface ++ ")"

/-- The message of a value that was thrown. -/
def reason : Value → String
  | text s => s
  | v => v.shown

end Value

/-- What reading the body of a response comes to. -/
inductive BodyReply where
  | throws (v : Value)
  | rejects (v : Value)
  | resolves (v : Value)
  deriving DecidableEq, Repr

/-- What a fetch comes to. -/
inductive FetchReply where
  | rejected (v : Value)
  | response (status : Nat) (body : BodyReply)
  /-- It was resolved with something that is no response. -/
  | stray (v : Value)
  deriving DecidableEq, Repr

/-- The text that a fetch from `url` brought. -/
def FetchReply.text (url : String) : FetchReply → Except LoadError String
  | rejected v | stray v => .error (.network url v.reason)
  | response status body =>
    if status < 200 || 299 < status then .error (.status url status)
    else match body with
      | .throws v | .rejects v => .error (.network url v.reason)
      | .resolves (.text s) => .ok s
      | .resolves _ => .error .notText

/-- What the window says about its inner width. -/
inductive Width where
  | unreadable
  | notANumber
  | infinite (negative : Bool)
  | real (px : Rat)
  deriving DecidableEq, Repr

namespace Width

/-- A width that the window gives as a binary64 value. -/
def ofBits (bits : UInt64) : Width :=
  match Binary64.ofBits bits with
  | .notANumber => notANumber
  | .infinite negative => infinite negative
  | .finite negative b => real (b.toRat negative)

def widest : Nat := 4294967295

/-- Whole pixels: cut off toward zero, and kept within 32 bits. What is no number is zero. -/
def pixels? : Width → Option Nat
  | unreadable => none
  | notANumber => some 0
  | infinite negative => some (if negative then 0 else widest)
  | real px => some (min px.floor.toNat widest)

end Width

end DocPages.Browser
