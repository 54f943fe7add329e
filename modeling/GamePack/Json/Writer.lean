import GamePack.Decimal.Notation
import GamePack.Json.Basic
import GamePack.Text.Hex

namespace GamePack

namespace Json

def escape (c : Char) : List Char :=
  match c with
  | '"' => ['\\', '"']
  | '\\' => ['\\', '\\']
  | '\x08' => ['\\', 'b']
  | '\t' => ['\\', 't']
  | '\n' => ['\\', 'n']
  | '\x0c' => ['\\', 'f']
  | '\r' => ['\\', 'r']
  | c => if c < ' ' then '\\' :: 'u' :: Text.hex 4 c.toNat else [c]

def quote (s : String) : List Char := '"' :: s.toList.flatMap escape ++ ['"']

end Json

def Number.render : Number → String
  | .unsigned n => toString n
  | .negative n => "-" ++ toString n
  | .double x => Layout.document.render x

namespace Json

mutual

def chars : Json → List Char
  | .null => "null".toList
  | .bool true => "true".toList
  | .bool false => "false".toList
  | .num n => n.render.toList
  | .str s => quote s
  | .arr items => '[' :: charsItems items ++ [']']
  | .obj fields => '\x7b' :: charsFields fields ++ ['\x7d']

def charsItems : List Json → List Char
  | [] => []
  | [v] => v.chars
  | v :: rest => v.chars ++ ',' :: charsItems rest

def charsFields : List (String × Json) → List Char
  | [] => []
  | [(k, v)] => quote k ++ ':' :: v.chars
  | (k, v) :: rest => quote k ++ ':' :: v.chars ++ ',' :: charsFields rest

end

def compact (v : Json) : String := String.ofList v.chars

end Json

end GamePack
