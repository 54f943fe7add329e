import GamePack.Finding
import GamePack.Frozen

namespace GamePack

structure BalanceIssue where
  code : String
  message : String
  path : Path
deriving DecidableEq, Repr

structure BalanceReport where
  warnings : List BalanceIssue
  errors : List BalanceIssue
deriving DecidableEq, Repr

variable {n : Nat}

namespace BalanceIssue

def decoder : Decoder n BalanceIssue := Fields.lenient "BalanceIssue" <|
  mk <$> .required "code" Decode.string
    <*> .required "message" Decode.string
    <*> .defaulted "path" [] Path.decoder

def encode (i : BalanceIssue) : Json :=
  .obj [("code", .str i.code), ("message", .str i.message), ("path", i.path.encode)]

def render (i : BalanceIssue) : String := renderAt i.path i.message

end BalanceIssue

namespace BalanceReport

def clean : BalanceReport := ⟨[], []⟩

def decoder : Decoder n BalanceReport := Fields.lenient "BalanceReport" <|
  mk <$> .listed "warnings" BalanceIssue.decoder <*> .listed "errors" BalanceIssue.decoder

def encode (r : BalanceReport) : Json := .obj
  [("warnings", .arr (r.warnings.map BalanceIssue.encode)),
    ("errors", .arr (r.errors.map BalanceIssue.encode))]

end BalanceReport

abbrev BalanceCheck := FrozenPack → Json → BalanceReport

namespace BalanceCheck

/-- A check that reports the same whatever it sees. Its warnings are about the pack as a whole. -/
def scripted (report : BalanceReport) : BalanceCheck := fun _ _ ↦
  { report with warnings := report.warnings.map fun w ↦ { w with path := [] } }

/-- The growth below which, or at which, a cost counts as flat: the setting `minGrowth`, or one. -/
def minGrowth (settings : Json) : Double :=
  match settings.field? "minGrowth" with
  | some (.num x) => x.toDouble
  | _ => .one

def flatCost (bound : Double) (path : Path) (g : Generator) : List BalanceIssue :=
  match g.purchase.costCurve with
  | .exponential _ growth _ =>
    if growth ≤ bound then
      let message :=
        s!"generator '{g.id}' cost does not grow (growth {Layout.message.render growth})"
      [⟨"flat-cost", message, (path.key "purchase").key "costCurve"⟩]
    else []
  | _ => []

def flatCosts : BalanceCheck := fun p settings ↦
  let issues := Path.each [.key "generators"] (p.collection .generator).items
    (flatCost (minGrowth settings))
  ⟨[], issues⟩

end BalanceCheck

end GamePack
