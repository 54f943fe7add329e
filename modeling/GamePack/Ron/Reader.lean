import GamePack.Ron.Lexeme

namespace GamePack.Ron

inductive Word
  | constant (v : Json)
  | optional
  | name

/-- Infinity and the undefined number have no place in documents, and are read as `null`. -/
def Word.of : String → Word
  | "true" => .constant (.bool true)
  | "false" => .constant (.bool false)
  | "None" | "inf" | "NaN" => .constant .null
  | "Some" => .optional
  | _ => .name

/-- An open bracket of some sort; what it holds so far stands last first. -/
inductive Frame
  | items (done : List Json)
  | tuple (done : List Json)
  | map (done : List (String × Json)) (key : String)
  | field (key : String) (v : Option Json)
  | optional (v : Option Json)

inductive Due
  | value
  | item
  | inside
  | key
  | colon
  | next
  | last
  /-- A word was read; the flag says whether it may turn out to name a field. -/
  | afterWord (text : String) (word : Word) (field : Bool)
  | nothing (v : Json)

structure Machine where
  stack : List Frame
  due : Due

def depthLimit : Nat := 128

namespace Machine

def put (v : Json) : List Frame → Machine
  | [] => ⟨[], .nothing v⟩
  | .items done :: stack => ⟨.items (v :: done) :: stack, .next⟩
  | .tuple done :: stack => ⟨.tuple (v :: done) :: stack, .next⟩
  | .map done key :: stack => ⟨.map ((key, v) :: done) key :: stack, .next⟩
  | .field key _ :: stack => ⟨.field key (some v) :: stack, .next⟩
  | .optional _ :: stack => ⟨.optional (some v) :: stack, .next⟩

def startValue (stack : List Frame) (field : Bool) (t : Token) : Option Machine :=
  if depthLimit < stack.length then none
  else
    match t with
    | .scalar v => some (put v stack)
    | .char c => some (put (.str (String.singleton c)) stack)
    | .unit => some (put .null stack)
    | .openArr => some ⟨.items [] :: stack, .item⟩
    | .openObj => some ⟨.map [] "" :: stack, .key⟩
    | .openParen => some ⟨.tuple [] :: stack, .inside⟩
    | .word text => some ⟨stack, .afterWord text (.of text) field⟩
    | .rawWord text => some ⟨stack, .afterWord text .name field⟩
    | _ => none

def endFrame : List Frame → Token → Option Machine
  | .items done :: stack, .closeArr => some (put (.arr done.reverse) stack)
  | .tuple done :: stack, .closeParen => some (put (.arr done.reverse) stack)
  | .map done _ :: stack, .closeObj => some (put (Json.ofFields done.reverse) stack)
  | .field key (some v) :: stack, .closeParen => some (put (.obj [(key, v)]) stack)
  | .optional (some v) :: stack, .closeParen => some (put v stack)
  | _, _ => none

def afterComma : List Frame → Due
  | .map _ _ :: _ => .key
  | .field _ _ :: _ | .optional _ :: _ => .last
  | _ => .item

def settled (m : Machine) (t : Token) : Option Machine :=
  match m.due, m.stack with
  | .value, stack => startValue stack false t
  | .item, stack => (endFrame stack t).or (startValue stack false t)
  | .inside, stack => (endFrame stack t).or (startValue stack true t)
  | .key, .map done key :: stack =>
    match t with
    | .scalar (.str key) => some ⟨.map done key :: stack, .colon⟩
    | t => endFrame (.map done key :: stack) t
  | .colon, stack =>
    match t with
    | .colon => some ⟨stack, .value⟩
    | _ => none
  | .next, stack =>
    match t with
    | .comma => some ⟨stack, afterComma stack⟩
    | t => endFrame stack t
  | .last, stack => endFrame stack t
  | _, _ => none

/-- A step. Any word names a field if it is the first in its parentheses and a colon follows; a name
may be followed by the parentheses of what it names. A document has no declared fields, so of a
structure only the first name can be taken for a key, and further keys have to be texts. -/
def step (m : Machine) (t : Token) : Option Machine :=
  match m.due, t, m.stack with
  | .afterWord text _ true, .colon, .tuple [] :: stack => some ⟨.field text none :: stack, .value⟩
  | .afterWord _ .optional _, .openParen, stack => some ⟨.optional none :: stack, .value⟩
  | .afterWord _ .optional _, _, _ => none
  | .afterWord _ .name _, .openParen, stack => some ⟨.tuple [] :: stack, .inside⟩
  | .afterWord _ .name _, .unit, stack => some (put (.arr []) stack)
  | .afterWord _ .name _, t, stack => (put .null stack).settled t
  | .afterWord _ (.constant v) _, t, stack => (put v stack).settled t
  | _, t, _ => m.settled t

def finish? (m : Machine) : Option Json :=
  match m.due, m.stack with
  | .nothing v, _ => some v
  | .afterWord _ .name _, [] => some .null
  | .afterWord _ (.constant v) _, [] => some v
  | _, _ => none

end Machine

/-- The extensions that a text may switch on. None changes what is read here. -/
def extensions : List String := ["unwrap_newtypes", "implicit_some", "unwrap_variant_newtypes"]

def skipNames? : List Token → Option (List Token)
  | .word name :: .comma :: .closeParen :: rest
  | .word name :: .closeParen :: rest => if name ∈ extensions then some rest else none
  | .word name :: .comma :: rest => if name ∈ extensions then skipNames? rest else none
  | _ => none

def skipAttributes? : Nat → List Token → Option (List Token)
  | n + 1, .hash :: .bang :: .openArr :: .word "enable" :: .openParen :: rest =>
    match skipNames? rest with
    | some (.closeArr :: rest) => skipAttributes? n rest
    | _ => none
  | _, ts => some ts

def read? (text : String) : Option Json := do
  let ts ← tokens? text
  let ts ← skipAttributes? ts.length ts
  (← ts.foldlM Machine.step ⟨[], .value⟩).finish?

end GamePack.Ron
