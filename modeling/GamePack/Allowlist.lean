import GamePack.Config
import GamePack.Graph.Basic
import GamePack.Id

namespace GamePack

structure Allowlist where
  required : IdSet
  soft : IdSet

structure AllowlistError where
  category : Category
  invalid : List (Nat × String)
deriving DecidableEq, Repr

namespace AllowlistError

def message (e : AllowlistError) : String :=
  let entries := e.invalid.map fun (i, value) ↦ s!"[{i}] '{value}'"
  s!"allowlists.{e.category.key}.required contains invalid {e.category.label} ids: " ++
    Text.join ", " entries

def path (e : AllowlistError) : Path := [.key "allowlists", .key e.category.key, .key "required"]

def encode (e : AllowlistError) : Json := .obj
  [("category", .str e.category.key),
    ("invalid", .arr (e.invalid.map fun (i, value) ↦
      .obj [("index", .ofNat i), ("value", .str value)]))]

end AllowlistError

namespace AllowlistSpec

def invalid (s : AllowlistSpec) : List (Nat × String) :=
  (s.required.zipIdx.filter fun (value, _) ↦ !Id.isValid value).map fun (value, i) ↦ (i, value)

def dropped (category : Category) (s : AllowlistSpec) : List Finding :=
  (s.soft.zipIdx.filter fun (value, _) ↦ !Id.isValid value).map fun (value, i) ↦
    .notice [.key "allowlists", .key category.key, .key "soft", .index i]
      (.invalidSoftEntry category value)

def normalize (category : Category) (s : AllowlistSpec) :
    List Finding × Except AllowlistError Allowlist :=
  match s.invalid with
  | [] => (s.dropped category, .ok ⟨.ofList s.required, .ofList (s.soft.filter Id.isValid)⟩)
  | invalid => ([], .error ⟨category, invalid⟩)

end AllowlistSpec

namespace Allowlist

def contains (a : Allowlist) (id : String) : Bool := a.required.contains id || a.soft.contains id

def isAdvisory (a : Allowlist) : Bool := !a.soft.isEmpty && a.required.isEmpty

def miss (a : Allowlist) (category : Category) (id : String) (path : Path) : Finding :=
  if a.isAdvisory then .notice path (.softMiss category id)
  else .fault path (.notAllowed category id)

def check (a : Option Allowlist) (category : Category) (id : String) (path : Path) : List Finding :=
  match a with
  | none => []
  | some a => if a.contains id then [] else [a.miss category id path]

end Allowlist

abbrev Allowlists := Category → Option Allowlist

namespace Allowlists

def normalizeOne (specs : AllowlistSpecs) (category : Category) :
    List Finding × Except AllowlistError (Option Allowlist) :=
  match specs.get category with
  | none => ([], .ok none)
  | some spec =>
    let (findings, result) := spec.normalize category
    (findings, result.map some)

/-- The allowlists of the settings. The first malformed one ends the work, after the warnings about
those before it. -/
def normalize (specs : AllowlistSpecs) : List Finding × Except AllowlistError Allowlists :=
  match normalizeOne specs .flags with
  | (found, .error e) => (found, .error e)
  | (found, .ok flags) =>
    match normalizeOne specs .scripts with
    | (found', .error e) => (found ++ found', .error e)
    | (found', .ok scripts) =>
      match normalizeOne specs .systemTargets with
      | (found'', .error e) => (found ++ found' ++ found'', .error e)
      | (found'', .ok systemTargets) =>
        (found ++ found' ++ found'', .ok fun
          | .flags => flags
          | .scripts => scripts
          | .systemTargets => systemTargets)

end Allowlists

end GamePack
