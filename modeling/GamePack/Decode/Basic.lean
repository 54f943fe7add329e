import GamePack.Decode.Error
import GamePack.Dict

namespace GamePack

/-- How a document is reached: directly, or from content that a tagged value set aside. -/
inductive Mode
  | direct
  | aside
deriving DecidableEq, Repr

abbrev Below (n : Nat) := { v : Json // v.depth < n }

/-- Decoders of documents nested less than `n` deep. A recursive type gets its decoder by recursion
on `n`, since what an array or object holds is nested less deeply. -/
abbrev Decoder (n : Nat) (α : Type) := Mode → Below n → Except Decode.Error α

namespace Decode

variable {n : Nat} {α β : Type}

def fail (cause : Cause) : Except Error α := .error ⟨[], cause⟩

def wrong (v : Below n) (wanted : String) : Except Error α := fail (.wrongSort v.1 wanted)

def inside (step : Step) (r : Except Error α) : Except Error α := r.mapError (·.under step)

def string : Decoder n String := fun _ v ↦
  match v.1 with
  | .str s => .ok s
  | _ => wrong v "a string"

def bool : Decoder n Bool := fun _ v ↦
  match v.1 with
  | .bool b => .ok b
  | _ => wrong v "a boolean"

def any : Decoder n Json := fun _ v ↦ .ok v.1

def double : Decoder n Double := fun _ v ↦
  match v.1 with
  | .num x => .ok x.toDouble
  | _ => wrong v "f64"

def natBelow (bound : Nat) (name : String) : Decoder n Nat := fun _ v ↦
  match v.1 with
  | .num (.unsigned k) => if k < bound then .ok k else fail (.outOfRange (.unsigned k) name)
  | .num (.negative k) => fail (.outOfRange (.negative k) name)
  | _ => wrong v name

def nat32 : Decoder n Nat := natBelow 0x100000000 "u32"

def nat64 : Decoder n Nat := natBelow 0x10000000000000000 "usize"

def option (d : Decoder n α) : Decoder n (Option α) := fun mode v ↦
  match v.1 with
  | .null => .ok none
  | _ => (d mode v).map some

def itemsBelow (items : List Json) (h : (Json.arr items).depth < n + 1) : List (Below n) :=
  items.attach.map fun v ↦
    ⟨v.1, Nat.lt_of_lt_of_le (Json.depth_item v.2) (Nat.le_of_lt_succ h)⟩

def fieldsBelow (fields : List (String × Json)) (h : (Json.obj fields).depth < n + 1) :
    List (String × Below n) :=
  fields.attach.map fun f ↦
    (f.1.1, ⟨f.1.2, Nat.lt_of_lt_of_le (Json.depth_field f.2) (Nat.le_of_lt_succ h)⟩)

/-- Reads an object in one way and an array in another. What they hold may be nested
less than `m` deep. -/
def compound {m : Nat} (h : n ≤ m + 1) (wanted : String)
    (object : Mode → List (String × Below m) → Except Error α)
    (array : Mode → List (Below m) → Except Error α) : Decoder n α := fun mode v ↦
  match v with
  | ⟨.obj fields, below⟩ => object mode (fieldsBelow fields (Nat.lt_of_lt_of_le below h))
  | ⟨.arr items, below⟩ => array mode (itemsBelow items (Nat.lt_of_lt_of_le below h))
  | v => wrong v wanted

def eachItem (d : Below n → Except Error α) : Nat → List (Below n) → Except Error (List α)
  | _, [] => .ok []
  | i, v :: rest => do
    let a ← inside (.index i) (d v)
    return a :: (← eachItem d (i + 1) rest)

def list (d : Decoder n α) : Decoder n (List α) := fun mode v ↦
  match v with
  | ⟨.arr items, h⟩ => eachItem (d mode) 0 (itemsBelow items (Nat.lt_succ_of_lt h))
  | v => wrong v "a sequence"

def nonEmpty (d : Decoder n α) : Decoder n (List α) := fun mode v ↦ do
  let items ← list d mode v
  if items.isEmpty then fail .empty else return items

def eachField (d : Below n → Except Error α) :
    List (String × Below n) → Except Error (List (String × α))
  | [] => .ok []
  | (key, v) :: rest => do
    let a ← inside (.key key) (d v)
    return (key, a) :: (← eachField d rest)

def dict (d : Decoder n α) : Decoder n (Dict α) := fun mode v ↦
  match v with
  | ⟨.obj fields, h⟩ =>
    (eachField (d mode) (fieldsBelow fields (Nat.lt_succ_of_lt h))).map Dict.ofList
  | v => wrong v "a map"

def named (values : List (String × α)) (name : String) : Except Error α :=
  match values.lookup name with
  | some a => .ok a
  | none => fail (.unknownVariant name (values.map (·.1)))

/-- Nothing: `null`, and among content set aside also an object without fields. -/
def unit : Decoder n Unit := fun mode v ↦
  match mode, v.1 with
  | _, .null => .ok ()
  | .aside, .obj [] => .ok ()
  | _, _ => wrong v "unit"

/-- One of several names, as a string or as the only key of an object that holds nothing. -/
def choice (values : List (String × α)) : Decoder n α := fun mode v ↦
  match v with
  | ⟨.str s, _⟩ => named values s
  | ⟨.obj fields, h⟩ =>
    match fieldsBelow fields (Nat.lt_succ_of_lt h) with
    | [(key, w)] => do
      let a ← named values key
      unit mode w
      return a
    | _ => fail .notOneKey
  | v => wrong v "string or map"

def pair (d : Decoder n α) (e : Decoder n β) : Decoder n (α × β) := fun mode v ↦
  match v with
  | ⟨.arr items, h⟩ =>
    match itemsBelow items (Nat.lt_succ_of_lt h) with
    | [] => fail (.tooShort 0 "a tuple of size 2")
    | [w] => do
      let _ ← inside (.index 0) (d mode w)
      fail (.tooShort 1 "a tuple of size 2")
    | w :: x :: rest => do
      let a ← inside (.index 0) (d mode w)
      let b ← inside (.index 1) (e mode x)
      if rest.isEmpty then return (a, b) else fail (.tooLong items.length)
  | v => wrong v "a tuple of size 2"

/-- The first of two ways that succeeds. Where neither does, the value as a whole is to blame. -/
def orElse (d e : Decoder n α) (wanted : String) : Decoder n α := fun _ v ↦
  match d .aside v with
  | .ok a => .ok a
  | .error _ =>
    match e .aside v with
    | .ok a => .ok a
    | .error _ => fail (.noAlternative wanted)

def run (d : ∀ n, Decoder n α) (v : Json) : Except Error α :=
  d (v.depth + 1) .direct ⟨v, Nat.lt_succ_self _⟩

end Decode

end GamePack
