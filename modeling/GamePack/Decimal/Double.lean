namespace GamePack

/-- How many significands there are between two powers of two: `2 ^ 52`. -/
def Double.lap : Nat := 0x10000000000000

/-- Finite binary64 numbers by their sign and the rank of their magnitude. A rank `k * 2 ^ 52 + r`
with `k ≥ 1` stands for `(2 ^ 52 + r) * 2 ^ (k - 1)` units of `2 ^ (-1074)`, and a rank below `2 ^
52` for itself, so the order of ranks is the order of magnitudes. -/
structure Double where
  negative : Bool
  rank : Nat
  rank_lt : rank < 2047 * Double.lap := by decide
deriving DecidableEq, Repr

namespace Double

def unit : Nat := 1074

def shift (x : Double) : Nat := x.rank / lap - 1

/-- The significand, below `2 ^ 53`. -/
def significand (x : Double) : Nat := x.rank - x.shift * lap

/-- The magnitude in units of `2 ^ (-1074)`. -/
def magnitude (x : Double) : Nat := x.significand * Nat.pow 2 x.shift

/-- The order key: both zeros have the key zero. -/
def key (x : Double) : Int := if x.negative then -x.rank else x.rank

instance : LT Double := ⟨fun x y ↦ x.key < y.key⟩

instance : LE Double := ⟨fun x y ↦ x.key ≤ y.key⟩

instance (x y : Double) : Decidable (x < y) := inferInstanceAs (Decidable (x.key < y.key))

instance (x y : Double) : Decidable (x ≤ y) := inferInstanceAs (Decidable (x.key ≤ y.key))

def zero : Double := ⟨false, 0, by decide⟩

instance : Inhabited Double := ⟨zero⟩

def roundHalfEven (num den : Nat) : Nat :=
  let q := num / den
  match compare (2 * (num % den)) den with
  | .lt => q
  | .eq => q + q % 2
  | .gt => q + 1

/-- The rank nearest to `num / den`; it may lie beyond the finite ones. -/
def rankOfRatio (num den : Nat) : Nat :=
  let scaled := num * Nat.pow 2 unit
  let shift := (scaled / den).log2 - 52
  roundHalfEven scaled (den * Nat.pow 2 shift) + shift * lap

def ofRank? (negative : Bool) (rank : Nat) : Option Double :=
  if h : rank < 2047 * lap then some ⟨negative, rank, h⟩ else none

/-- The number nearest to `digits * 10 ^ exponent`, unless it is too large. Beyond four hundred
places on either side of the point nothing but the size of the exponent matters. -/
def ofDecimal? (negative : Bool) (digits : Nat) (exponent : Int) : Option Double :=
  let places : Int := (Nat.toDigits 10 digits).length + exponent
  if digits = 0 ∨ places < -400 then some ⟨negative, 0, by decide⟩
  else if 400 < places then none
  else ofRank? negative
    (rankOfRatio (digits * Nat.pow 10 exponent.toNat) (Nat.pow 10 (-exponent).toNat))

def ofNat (negative : Bool) (n : Nat) : Double :=
  (ofRank? negative (rankOfRatio n 1)).getD zero

def one : Double := ofNat false 1

end Double

end GamePack
