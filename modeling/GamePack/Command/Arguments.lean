namespace GamePack

structure Arguments where
  packs : List String
  options : Option String
  runtimeVersion : Option String
  strictEvents : Bool
  json : Bool
deriving DecidableEq, Repr

inductive Command
  | validate (a : Arguments)
  | digest (packs : List String)
deriving DecidableEq, Repr

inductive Refusal
  | help
  | misuse
deriving DecidableEq, Repr

inductive Valued
  | options
  | runtimeVersion
deriving DecidableEq, Repr

namespace Arguments

def none : Arguments := ⟨[], .none, .none, false, false⟩

def addPack (path : String) (a : Arguments) : Except Refusal Arguments :=
  if path = "" then .error .misuse else .ok { a with packs := a.packs ++ [path] }

def set (o : Valued) (value : String) (a : Arguments) : Except Refusal Arguments :=
  match o with
  | .options =>
    if value = "" || a.options.isSome then .error .misuse else .ok { a with options := some value }
  | .runtimeVersion =>
    if a.runtimeVersion.isSome then .error .misuse else .ok { a with runtimeVersion := some value }

def turnOn (name : String) (a : Arguments) : Except Refusal Arguments :=
  match name with
  | "strict-events" =>
    if a.strictEvents then .error .misuse else .ok { a with strictEvents := true }
  | "json" => if a.json then .error .misuse else .ok { a with json := true }
  | _ => .error .misuse

end Arguments

structure ArgumentReader where
  arguments : Arguments
  awaiting : Option Valued
  pathsOnly : Bool

namespace ArgumentReader

def start : ArgumentReader := ⟨.none, none, false⟩

def splitOption (text : List Char) : String × Option String :=
  let name := String.ofList (text.takeWhile (· ≠ '='))
  match text.dropWhile (· ≠ '=') with
  | [] => (name, none)
  | _ :: value => (name, some (String.ofList value))

def valued? : String → Option Valued
  | "options" => some .options
  | "runtime-version" => some .runtimeVersion
  | _ => none

/-- Options stand anywhere and take their value from the same argument or the next, at
most once each. -/
def readOption (takesOptions : Bool) (text : List Char) (r : ArgumentReader) :
    Except Refusal ArgumentReader :=
  let (name, value) := splitOption text
  if r.awaiting.isSome then .error .misuse
  else if name = "help" && value.isNone then .error .help
  else if !takesOptions then .error .misuse
  else
    match valued? name, value with
    | some o, some value => (r.arguments.set o value).map fun a ↦ { r with arguments := a }
    | some o, none => .ok { r with awaiting := some o }
    | none, some _ => .error .misuse
    | none, none => (r.arguments.turnOn name).map fun a ↦ { r with arguments := a }

def step (takesOptions : Bool) (r : ArgumentReader) (arg : String) :
    Except Refusal ArgumentReader :=
  if r.pathsOnly then (r.arguments.addPack arg).map fun a ↦ { r with arguments := a }
  else
    match arg.toList, r.awaiting with
    | ['-', '-'], none => .ok { r with pathsOnly := true }
    | ['-', '-'], some _ => .error .misuse
    | '-' :: '-' :: text, _ => r.readOption takesOptions text
    | '-' :: 'h' :: _, none => .error .help
    | '-' :: _ :: _, _ => .error .misuse
    | _, some o => (r.arguments.set o arg).map fun a ↦ { r with arguments := a, awaiting := none }
    | _, none => (r.arguments.addPack arg).map fun a ↦ { r with arguments := a }

def finish (r : ArgumentReader) : Except Refusal Arguments :=
  if r.awaiting.isSome || r.arguments.packs.isEmpty then .error .misuse else .ok r.arguments

def read (takesOptions : Bool) (args : List String) : Except Refusal Arguments := do
  (← args.foldlM (step takesOptions) start).finish

end ArgumentReader

namespace Command

def paths : Command → List String
  | validate a => a.packs ++ a.options.toList
  | digest packs => packs

def ofArgs : List String → Except Refusal Command
  | "validate" :: args => (ArgumentReader.read true args).map .validate
  | "digest" :: args => (ArgumentReader.read false args).map fun a ↦ .digest a.packs
  | ["help"] | ["help", "validate"] | ["help", "digest"] | ["help", "help"] => .error .help
  | arg :: _ =>
    .error (if arg = "--help" || "-h".toList.isPrefixOf arg.toList then .help else .misuse)
  | [] => .error .misuse

end Command

end GamePack
