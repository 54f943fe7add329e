import GamePack.Json.Basic

namespace GamePack

/-- Assigns a field. `null` counts as an object without fields, and what holds no fields
stays as it is. -/
def Json.setField (v : Json) (key : String) (value : Json) : Json :=
  match v with
  | .obj fields => .obj (insertField key value fields)
  | .null => .obj [(key, value)]
  | v => v

def Json.updateField (v : Json) (key : String) (f : Json → Json) : Json :=
  v.setField key (f ((v.field? key).getD .null))

namespace Sample

def qualify (packId name : String) : String := packId ++ "." ++ name

def constant (value : Double) : Json :=
  .obj [("kind", .str "constant"), ("value", .ofDouble value)]

def exponential (base growth : Double) : Json :=
  .obj [("base", .ofDouble base), ("growth", .ofDouble growth), ("kind", .str "exponential")]

def entryRef (target id : String) : Json := .obj
  [("expression", .obj
      [("kind", .str "ref"), ("target", .obj [("id", .str id), ("type", .str target)])]),
    ("kind", .str "expression")]

def resourceAtLeast (id : String) (amount : Double) : Json := .obj
  [("amount", constant amount),
    ("comparator", .str "gte"),
    ("kind", .str "resourceThreshold"),
    ("resourceId", .str id)]

def upgradeOwned (id : String) : Json :=
  .obj [("kind", .str "upgradeOwned"), ("upgradeId", .str id)]

def rate (id : String) (value : Double) : Json :=
  .obj [("rate", constant value), ("resourceId", .str id)]

def amount (id : String) (value : Double) : Json :=
  .obj [("amount", constant value), ("resourceId", .str id)]

def decimal (n places : Nat) : Double := (Double.ofDecimal? false n (-places)).getD .zero

variable (packId : String)

def metadata (version : String) (title : String) : Json :=
  .obj [("id", .str packId), ("title", .str title), ("version", .str version)]

def resource (name : String) : Json :=
  .obj [("id", .str (qualify packId name)), ("name", .str name)]

def cost (currency : String) (curve : Json) : Json :=
  .obj [("costCurve", curve), ("currencyId", .str currency)]

def generator (name produces currency : String) : Json := .obj
  [("id", .str (qualify packId name)),
    ("name", .str name),
    ("produces", .arr [rate (qualify packId produces) .one]),
    ("purchase", cost (qualify packId currency) (exponential (decimal 10 0) (decimal 115 2)))]

def upgrade (name currency : String) : Json := .obj
  [("cost", cost (qualify packId currency) (constant (decimal 10 0))),
    ("id", .str (qualify packId name)),
    ("name", .str name)]

def transform (name : String) (inputs outputs : List String) : Json :=
  let unit (resource : String) := amount (qualify packId resource) .one
  .obj [("id", .str (qualify packId name)),
    ("inputs", .arr (inputs.map unit)),
    ("mode", .str "instant"),
    ("name", .str name),
    ("outputs", .arr (outputs.map unit))]

def prestigeLayer (name reward : String) : Json := .obj
  [("id", .str (qualify packId name)),
    ("name", .str name),
    ("reward", .obj
      [("baseReward", constant .one), ("resourceId", .str (qualify packId reward))]),
    ("unlockCondition", .obj [("kind", .str "always")])]

end Sample

end GamePack
