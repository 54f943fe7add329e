import GamePack.Decimal.Double

namespace GamePack

/-- The three sorts of numbers: below `2 ^ 64`, negative down to `-2 ^ 63`, and all others. -/
inductive Number
  | unsigned (n : Nat)
  | negative (n : Nat)
  | double (x : Double)
deriving DecidableEq, Repr

namespace Number

def unsignedBound : Nat := 0x10000000000000000

def signedBound : Nat := 0x8000000000000000

def toDouble : Number → Double
  | unsigned n => .ofNat false n
  | negative n => .ofNat true n
  | double x => x

end Number

/-- Documents. Reading a text and `Json.sorted` give each object its fields in ascending order of
their keys, one for each key; other objects may hold them in any order. -/
inductive Json
  | null
  | bool (b : Bool)
  | num (n : Number)
  | str (s : String)
  | arr (items : List Json)
  | obj (fields : List (String × Json))
deriving Repr, Inhabited

namespace Json

def insertField (key : String) (value : Json) : List (String × Json) → List (String × Json)
  | [] => [(key, value)]
  | (k, v) :: rest =>
    if key < k then (key, value) :: (k, v) :: rest
    else if key = k then (key, value) :: rest
    else (k, v) :: insertField key value rest

def sortFields (fields : List (String × Json)) : List (String × Json) :=
  fields.foldl (fun sorted f ↦ insertField f.1 f.2 sorted) []

def ofFields (fields : List (String × Json)) : Json := .obj (sortFields fields)

def ofNat (n : Nat) : Json := .num (.unsigned n)

def ofDouble (x : Double) : Json := .num (.double x)

def ofStrings (texts : List String) : Json := .arr (texts.map .str)

def ofOption {α : Type} (encode : α → Json) : Option α → Json
  | none => .null
  | some a => encode a

mutual

def sorted : Json → Json
  | .arr items => .arr (sortedItems items)
  | .obj fields => ofFields (sortedFields fields)
  | v => v

def sortedItems : List Json → List Json
  | [] => []
  | v :: rest => v.sorted :: sortedItems rest

def sortedFields : List (String × Json) → List (String × Json)
  | [] => []
  | (k, v) :: rest => (k, v.sorted) :: sortedFields rest

end

mutual

def depth : Json → Nat
  | .arr items => depthItems items + 1
  | .obj fields => depthFields fields + 1
  | _ => 0

def depthItems : List Json → Nat
  | [] => 0
  | v :: rest => max v.depth (depthItems rest)

def depthFields : List (String × Json) → Nat
  | [] => 0
  | (_, v) :: rest => max v.depth (depthFields rest)

end

theorem depth_le_depthItems {v : Json} {items : List Json} (h : v ∈ items) :
    v.depth ≤ depthItems items := by
  induction items with
  | nil => cases h
  | cons w rest ih =>
    rw [depthItems]
    cases h with
    | head => exact Nat.le_max_left ..
    | tail _ h => exact Nat.le_trans (ih h) (Nat.le_max_right ..)

theorem depth_le_depthFields {f : String × Json} {fields : List (String × Json)} (h : f ∈ fields) :
    f.2.depth ≤ depthFields fields := by
  induction fields with
  | nil => cases h
  | cons w rest ih =>
    rw [depthFields]
    cases h with
    | head => exact Nat.le_max_left ..
    | tail _ h => exact Nat.le_trans (ih h) (Nat.le_max_right ..)

theorem depth_item {v : Json} {items : List Json} (h : v ∈ items) :
    v.depth < (arr items).depth := by
  rw [depth]
  exact Nat.lt_succ_of_le (depth_le_depthItems h)

theorem depth_field {f : String × Json} {fields : List (String × Json)} (h : f ∈ fields) :
    f.2.depth < (obj fields).depth := by
  rw [depth]
  exact Nat.lt_succ_of_le (depth_le_depthFields h)

def field? (key : String) : Json → Option Json
  | .obj fields => fields.lookup key
  | _ => none

def item? (i : Nat) : Json → Option Json
  | .arr items => items[i]?
  | _ => none

def str? : Json → Option String
  | .str s => some s
  | _ => none

def items? : Json → Option (List Json)
  | .arr items => some items
  | _ => none

def fields? : Json → Option (List (String × Json))
  | .obj fields => some fields
  | _ => none

end Json

end GamePack
