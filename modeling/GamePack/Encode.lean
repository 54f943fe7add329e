import GamePack.Json.Basic

namespace GamePack

def nameIn {α : Type} [DecidableEq α] (names : List (String × α)) (a : α) : String :=
  ((names.find? (·.2 = a)).map (·.1)).getD ""

def encodeName {α : Type} [DecidableEq α] (names : List (String × α)) (a : α) : Json :=
  .str (nameIn names a)

def encodeVariant (key tag : String) (fields : List (String × Json)) : Json :=
  .obj ((key, .str tag) :: fields)

end GamePack
