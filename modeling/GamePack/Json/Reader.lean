import GamePack.Json.Lexeme

namespace GamePack

namespace Json

/-- An open array or object; what it holds so far stands last first. -/
inductive Frame
  | items (done : List Json)
  | fields (done : List (String × Json)) (key : String)

inductive Due
  /-- A value, or the end of an array that holds nothing yet. -/
  | firstItem
  | value
  /-- A key, or the end of an object that holds nothing yet. -/
  | firstKey
  | key
  | colon
  | next
  | nothing (v : Json)

structure Machine where
  stack : List Frame
  due : Due

namespace Machine

def put (v : Json) : List Frame → Machine
  | [] => ⟨[], .nothing v⟩
  | .items done :: stack => ⟨.items (v :: done) :: stack, .next⟩
  | .fields done key :: stack => ⟨.fields ((key, v) :: done) key :: stack, .next⟩

/-- Opens a frame, unless the stack is as high as the limit. -/
def push (limit : Nat) (m : Machine) (frame : Frame) (due : Due) : Option Machine :=
  if m.stack.length < limit then some ⟨frame :: m.stack, due⟩ else none

def step (limit : Nat) (m : Machine) (t : Token) : Option Machine :=
  match m.due, t, m.stack with
  | .value, .scalar v, stack | .firstItem, .scalar v, stack => some (put v stack)
  | .value, .openArr, _ | .firstItem, .openArr, _ => m.push limit (.items []) .firstItem
  | .value, .openObj, _ | .firstItem, .openObj, _ => m.push limit (.fields [] "") .firstKey
  | .firstItem, .closeArr, .items done :: stack
  | .next, .closeArr, .items done :: stack => some (put (.arr done.reverse) stack)
  | .firstKey, .closeObj, .fields done _ :: stack
  | .next, .closeObj, .fields done _ :: stack => some (put (ofFields done.reverse) stack)
  | .firstKey, .scalar (.str key), .fields done _ :: stack
  | .key, .scalar (.str key), .fields done _ :: stack => some ⟨.fields done key :: stack, .colon⟩
  | .colon, .colon, stack => some ⟨stack, .value⟩
  | .next, .comma, .items done :: stack => some ⟨.items done :: stack, .value⟩
  | .next, .comma, .fields done key :: stack => some ⟨.fields done key :: stack, .key⟩
  | _, _, _ => none

end Machine

def read? (limit : Nat) (text : String) : Option Json := do
  let m ← (← tokens? text).foldlM (Machine.step limit) ⟨[], .value⟩
  match m.due with
  | .nothing v => some v
  | _ => none

end Json

end GamePack
