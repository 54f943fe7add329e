import GamePack.Decode.Basic

namespace GamePack

structure Faults where
  unreadable : List (String × Decode.Error)
  missing : List String

/-- The named fields from which an `α` is built. Descriptions are joined with `<$>` and `<*>` in
the order of declaration; the same one reads a structure from an object, by key, and from an
array, by position. -/
structure Fields (n : Nat) (α : Type) where
  names : List String
  /-- Reads every field by key and gathers all faults. -/
  keyed : Mode → (String → Option (Below n)) → Except Faults α
  /-- Reads the fields from the front of a list. The arguments before the list are what the message
  about a list that is too short expects, and the index of the list's head. -/
  placed : Mode → String → Nat → List (Below n) → Except Decode.Error (α × List (Below n))

namespace Fields

variable {n : Nat} {α β : Type}

def const (a : α) : Fields n α where
  names := []
  keyed _ _ := .ok a
  placed _ _ _ rest := .ok (a, rest)

def map (f : α → β) (x : Fields n α) : Fields n β where
  names := x.names
  keyed mode find := (x.keyed mode find).map f
  placed mode wanted i rest := (x.placed mode wanted i rest).map fun r ↦ (f r.1, r.2)

def seq (f : Fields n (α → β)) (x : Fields n α) : Fields n β where
  names := f.names ++ x.names
  keyed mode find :=
    match f.keyed mode find, x.keyed mode find with
    | .ok g, .ok a => .ok (g a)
    | .ok _, .error e => .error e
    | .error e, .ok _ => .error e
    | .error e, .error e' => .error ⟨e.unreadable ++ e'.unreadable, e.missing ++ e'.missing⟩
  placed mode wanted i rest := do
    let (g, rest) ← f.placed mode wanted i rest
    let (a, rest) ← x.placed mode wanted (i + f.names.length) rest
    return (g a, rest)

instance : Functor (Fields n) where
  map := map

instance : Seq (Fields n) where
  seq f x := seq f (x ())

/-- One field. `absentKey` is its value when an object lacks it, and `absentPlace` when an array is
too short for it. -/
def field (name : String) (absentKey absentPlace : Option α) (d : Decoder n α) : Fields n α where
  names := [name]
  keyed mode find :=
    match find name with
    | some v => (d mode v).mapError fun e ↦ ⟨[(name, e.under (.key name))], []⟩
    | none =>
      match absentKey with
      | some a => .ok a
      | none => .error ⟨[], [name]⟩
  placed mode wanted i rest :=
    match rest with
    | v :: rest => (Decode.inside (.index i) (d mode v)).map (·, rest)
    | [] =>
      match absentPlace with
      | some a => .ok (a, [])
      | none => Decode.fail (.tooShort i wanted)

def required (name : String) (d : Decoder n α) : Fields n α := field name none none d

def defaulted (name : String) (a : α) (d : Decoder n α) : Fields n α :=
  field name (some a) (some a) d

def optional (name : String) (d : Decoder n α) : Fields n (Option α) :=
  defaulted name none (Decode.option d)

def listed (name : String) (d : Decoder n α) : Fields n (List α) :=
  defaulted name [] (Decode.list d)

def firstFault (names : List String) (closed : Bool) (faults : Faults) :
    List String → Option Decode.Error
  | [] => none
  | key :: rest =>
    if key ∈ names then
      match faults.unreadable.lookup key with
      | some e => some e
      | none => firstFault names closed faults rest
    else if closed then some ⟨[.key key], .unknownField key names⟩
    else firstFault names closed faults rest

/-- Reads a structure from an object. If the structure is closed an unknown key is a fault. Unknown
and unreadable keys come before missing ones. -/
def ofObject (x : Fields n α) (closed : Bool) (mode : Mode) (fields : List (String × Below n)) :
    Except Decode.Error α :=
  let keys := fields.map (·.1)
  match x.keyed mode (fun key ↦ fields.lookup key) with
  | .ok a =>
    match firstFault x.names closed ⟨[], []⟩ keys with
    | none => .ok a
    | some e => .error e
  | .error faults =>
    match firstFault x.names closed faults keys with
    | some e => .error e
    | none => Decode.fail (.missingField (faults.missing.headD ""))

def ofArray (x : Fields n α) (wanted : String) (mode : Mode) (items : List (Below n)) :
    Except Decode.Error α := do
  let (a, rest) ← x.placed mode (wanted ++ " with " ++ Decode.elements x.names.length) 0 items
  if rest.isEmpty then return a
  else
    match mode with
    | .direct => Decode.fail (.tooLong items.length)
    | .aside => Decode.fail (.tooLongAside items.length x.names.length)

def structDecoder {m : Nat} (x : Fields m α) (closed : Bool) (name : String) (h : n ≤ m + 1) :
    Decoder n α :=
  let wanted := "struct " ++ name
  Decode.compound h wanted (x.ofObject closed) (x.ofArray wanted)

def closed (name : String) (x : Fields n α) : Decoder n α :=
  x.structDecoder true name (Nat.le_succ n)

def lenient (name : String) (x : Fields n α) : Decoder n α :=
  x.structDecoder false name (Nat.le_succ n)

end Fields

end GamePack
