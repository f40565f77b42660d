import TelemetryRelay.Decimal.Layout
import TelemetryRelay.Text.Quoted

/-!
Why a JSON text cannot be read. Reading goes once through the text and is directed by the type that
is wanted, so the fault that is found is the first one in the order of the text, be it one of form
or one of type.
-/

namespace TelemetryRelay.Json

inductive Place
  | value
  | string
  | object
  | list
deriving DecidableEq, Repr

inductive Breach
  | value
  | word
  | colon
  | listSeparator
  | objectSeparator
  | trailingComma
  | trailingCharacters
  | key
  | number
  | numberRange
  | escape
  | loneSurrogate
  | unpairedSurrogate
  | controlCharacter
deriving DecidableEq, Repr

inductive Found
  | null
  | boolean (value : Bool)
  | integer (value : Int)
  | float (value : Binary64)
  | string (value : String)
  | list
  | object
deriving DecidableEq, Repr

/-- `expected` is the noun phrase for what was wanted. -/
inductive Fault
  | unfinished (place : Place)
  | broken (breach : Breach)
  | wrongType (found : Found) (expected : String)
  | wrongValue (found : Found) (expected : String)
  | tooShort (length : Nat) (expected : String)
  | missingField (key : String)
  | duplicateField (key : String)
deriving DecidableEq, Repr

inductive Kind
  | unfinished
  | grammar
  | data
deriving DecidableEq, Repr

def Fault.kind : Fault → Kind
  | .unfinished _ => .unfinished
  | .broken _ => .grammar
  | _ => .data

def Place.phrase : Place → String
  | .value => "a value"
  | .string => "a string"
  | .object => "an object"
  | .list => "a list"

def Breach.message : Breach → String
  | .value => "expected value"
  | .word => "expected ident"
  | .colon => "expected `:`"
  | .listSeparator => "expected `,` or `]`"
  | .objectSeparator => "expected `,` or `\x7d`"
  | .trailingComma => "trailing comma"
  | .trailingCharacters => "trailing characters"
  | .key => "key must be a string"
  | .number => "invalid number"
  | .numberRange => "number out of range"
  | .escape => "invalid escape"
  | .loneSurrogate => "lone leading surrogate in hex escape"
  | .unpairedSurrogate => "unexpected end of hex escape"
  | .controlCharacter => "control character (\\u0000-\\u001F) found while parsing a string"

def Found.phrase : Found → String
  | .null => "null"
  | .boolean value => "boolean `" ++ (if value then "true" else "false") ++ "`"
  | .integer value => "integer `" ++ toString value ++ "`"
  | .float value => "floating point `" ++ Decimal.Layout.diagnostic.render value ++ "`"
  | .string value => "string " ++ Text.Quoted.render value
  | .list => "sequence"
  | .object => "map"

def Fault.message : Fault → String
  | .unfinished place => "EOF while parsing " ++ place.phrase
  | .broken breach => breach.message
  | .wrongType found expected => "invalid type: " ++ found.phrase ++ ", expected " ++ expected
  | .wrongValue found expected => "invalid value: " ++ found.phrase ++ ", expected " ++ expected
  | .tooShort length expected =>
    "invalid length " ++ toString length ++ ", expected " ++ expected
  | .missingField key => "missing field `" ++ key ++ "`"
  | .duplicateField key => "duplicate field `" ++ key ++ "`"

end TelemetryRelay.Json
