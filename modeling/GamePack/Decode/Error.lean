import GamePack.Json.Writer
import GamePack.Path
import GamePack.Text.Quoted
import GamePack.Text.Split

namespace GamePack.Decode

inductive Cause
  | wrongSort (found : Json) (wanted : String)
  | outOfRange (found : Number) (wanted : String)
  | missingField (name : String)
  | unknownField (name : String) (known : List String)
  | unknownVariant (name : String) (known : List String)
  /-- An array ends where the element of this index is needed. -/
  | tooShort (index : Nat) (wanted : String)
  | tooLong (length : Nat)
  /-- The same for an array that was set aside before it was read. -/
  | tooLongAside (length read : Nat)
  | noAlternative (wanted : String)
  | notOneKey
  | empty
deriving Repr

/-- A cause and the place of the value it is about, seen from the value that was to be read. -/
structure Error where
  path : Path
  cause : Cause
deriving Repr

namespace Error

def under (step : Step) (e : Error) : Error := ⟨step :: e.path, e.cause⟩

def atRoot (e : Error) : Error := ⟨[], e.cause⟩

end Error

def describeNumber : Number → String
  | .double x => "floating point `" ++ Layout.document.render x ++ "`"
  | n => "integer `" ++ n.render ++ "`"

def describe : Json → String
  | .null => "null"
  | .bool true => "boolean `true`"
  | .bool false => "boolean `false`"
  | .num n => describeNumber n
  | .str s => "string " ++ Text.quote s
  | .arr _ => "sequence"
  | .obj _ => "map"

def oneOf (names : List String) : String :=
  match names.map fun name ↦ "`" ++ name ++ "`" with
  | [] => ""
  | [a] => a
  | [a, b] => a ++ " or " ++ b
  | quoted => "one of " ++ Text.join ", " quoted

def elements (n : Nat) : String := if n = 1 then "1 element" else toString n ++ " elements"

def Cause.message : Cause → String
  | .wrongSort found wanted => "invalid type: " ++ describe found ++ ", expected " ++ wanted
  | .outOfRange found wanted => "invalid value: " ++ describeNumber found ++ ", expected " ++ wanted
  | .missingField name => "missing field `" ++ name ++ "`"
  | .unknownField name known => "unknown field `" ++ name ++ "`, expected " ++ oneOf known
  | .unknownVariant name known => "unknown variant `" ++ name ++ "`, expected " ++ oneOf known
  | .tooShort index wanted => "invalid length " ++ toString index ++ ", expected " ++ wanted
  | .tooLong length =>
    "invalid length " ++ toString length ++ ", expected fewer elements in array"
  | .tooLongAside length read =>
    "invalid length " ++ toString length ++ ", expected " ++ elements read ++ " in sequence"
  | .noAlternative wanted => "data did not match any variant of untagged enum " ++ wanted
  | .notOneKey => "invalid value: map, expected map with a single key"
  | .empty => "expected at least one element"

def Error.message (e : Error) : String := e.cause.message

end GamePack.Decode
