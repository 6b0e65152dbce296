/-
  ListenerReview/Json/Fault.lean
  ==============================
  **Faults of a JSON text** — why a text cannot be read as a value of the expected
  form, as causes, and the one function that words them.
-/
import ListenerReview.Text.Quoted

namespace ListenerReview.Json

/-- What stands in a text where something else was expected. -/
inductive Found where
  | null
  | bool (value : Bool)
  | integer (value : Int)
  | float (text : String)
  | string (text : String)
  | array
  | object
deriving DecidableEq, Repr

/-- Why a text cannot be read. -/
inductive Fault where
  | endInArray
  | endInObject
  | endInString
  | endInValue
  | noColon
  | noArraySeparator
  | noObjectSeparator
  | unknownWord
  | noValue
  | nameIsNoString
  | trailingComma
  | trailingText
  | malformedNumber
  | numberTooLarge
  | unknownEscape
  | unpairedLead
  | misplacedSurrogate
  | malformedText
  | controlCharacter
  | wrongType (found : Found) (expected : String)
  | outOfRange (found : Found) (expected : String)
  | wrongLength (length : Nat) (expected : String)
  | missingMember (name : String)
  | repeatedMember (name : String)
deriving DecidableEq, Repr

def Found.message : Found → String
  | .null => "null"
  | .bool b => "boolean `" ++ (if b then "true" else "false") ++ "`"
  | .integer n => "integer `" ++ toString n ++ "`"
  | .float text => "floating point `" ++ text ++ "`"
  | .string text => "string " ++ String.ofList (Text.quoted text.toList)
  | .array => "sequence"
  | .object => "map"

def Fault.message : Fault → String
  | .endInArray => "EOF while parsing a list"
  | .endInObject => "EOF while parsing an object"
  | .endInString => "EOF while parsing a string"
  | .endInValue => "EOF while parsing a value"
  | .noColon => "expected `:`"
  | .noArraySeparator => "expected `,` or `]`"
  | .noObjectSeparator => "expected `,` or `\x7d`"
  | .unknownWord => "expected ident"
  | .noValue => "expected value"
  | .nameIsNoString => "key must be a string"
  | .trailingComma => "trailing comma"
  | .trailingText => "trailing characters"
  | .malformedNumber => "invalid number"
  | .numberTooLarge => "number out of range"
  | .unknownEscape => "invalid escape"
  | .unpairedLead => "unexpected end of hex escape"
  | .misplacedSurrogate => "lone leading surrogate in hex escape"
  | .malformedText => "invalid unicode code point"
  | .controlCharacter => "control character (\\u0000-\\u001F) found while parsing a string"
  | .wrongType found expected => "invalid type: " ++ found.message ++ ", expected " ++ expected
  | .outOfRange found expected => "invalid value: " ++ found.message ++ ", expected " ++ expected
  | .wrongLength length expected =>
    "invalid length " ++ toString length ++ ", expected " ++ expected
  | .missingMember name => "missing field `" ++ name ++ "`"
  | .repeatedMember name => "duplicate field `" ++ name ++ "`"

end ListenerReview.Json
