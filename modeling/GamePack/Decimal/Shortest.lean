import GamePack.Decimal.Double

namespace GamePack

structure Decimal where
  digits : Nat
  exponent : Int
deriving DecidableEq, Repr

inductive Tie
  | even
  | up
deriving DecidableEq, Repr

namespace Decimal

def strip (d : Decimal) : Decimal :=
  if h : d.digits ≠ 0 ∧ d.digits % 10 = 0 then strip ⟨d.digits / 10, d.exponent + 1⟩ else d
termination_by d.digits
decreasing_by exact Nat.div_lt_self (Nat.pos_of_ne_zero h.1) (by decide)

end Decimal

namespace Double

/-- Whether `num / den` units round to `x`: the ends of the interval belong to it when the
significand is even, and the lower half is half as wide below a power of two. -/
def Covers (x : Double) (num den : Nat) : Prop :=
  let gap := Nat.pow 2 x.shift
  let below := if x.significand = lap ∧ x.shift ≠ 0 then gap else 2 * gap
  let low := (4 * x.magnitude - below) * den
  let high := (4 * x.magnitude + 2 * gap) * den
  if x.significand % 2 = 0 then low ≤ 4 * num ∧ 4 * num ≤ high
  else low < 4 * num ∧ 4 * num < high

instance (x : Double) (num den : Nat) : Decidable (x.Covers num den) := by
  unfold Covers
  infer_instance

def places (x : Double) : Int :=
  (Nat.toDigits 10 (x.magnitude * Nat.pow 10 400 / Nat.pow 2 unit)).length - 400

/-- The point of the grid of spacing `10 ^ exponent` that rounds to `x`, if there is one. -/
def onGrid? (x : Double) (tie : Tie) (exponent : Int) : Option Decimal :=
  let up := Nat.pow 10 (-exponent).toNat
  let spacing := Nat.pow 10 exponent.toNat * Nat.pow 2 unit
  let lower := x.magnitude * up / spacing
  let rest := x.magnitude * up % spacing
  let covers (c : Nat) : Bool := x.Covers (c * spacing) up
  let upper := lower + 1
  let nearest :=
    match compare (2 * rest) spacing with
    | .lt => lower
    | .gt => upper
    | .eq => if tie = .even ∧ lower % 2 = 0 then lower else upper
  if covers lower && covers upper then some ⟨nearest, exponent⟩
  else if covers lower then some ⟨lower, exponent⟩
  else if covers upper then some ⟨upper, exponent⟩
  else none

/-- The shortest decimal that reads back as the magnitude of `x`: the fewest digits on whose grid
some point rounds to `x`, and of two such neighbours the nearer. -/
def shortest (x : Double) (tie : Tie) : Decimal :=
  if x.rank = 0 then ⟨0, 0⟩
  else
    let hit := (List.range 17).findSome? fun n : Nat ↦ x.onGrid? tie (x.places - (n + 1))
    (hit.getD ⟨x.magnitude, 0⟩).strip

end Double

end GamePack
