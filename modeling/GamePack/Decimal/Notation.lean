import GamePack.Decimal.Shortest

namespace GamePack

/-- A layout of decimals. The leading digit's power of ten decides between plain
and exponent form. -/
structure Layout where
  tie : Tie
  plain : Int → Bool
  wholePoint : Bool

namespace Layout

/-- Documents are plain from `0.00001` up to sixteen digits and always show a point
or an exponent. -/
def document : Layout := ⟨.even, fun power ↦ -5 ≤ power && power < 16, true⟩

/-- Messages are always plain and show a point only before a fraction. -/
def message : Layout := ⟨.up, fun _ ↦ true, false⟩

def point (layout : Layout) (digits : List Char) (whole : Int) : List Char :=
  if whole ≤ 0 then ['0', '.'] ++ List.replicate (-whole).toNat '0' ++ digits
  else if digits.length ≤ whole.toNat then
    digits ++ List.replicate (whole.toNat - digits.length) '0' ++
      (if layout.wholePoint then ['.', '0'] else [])
  else digits.take whole.toNat ++ '.' :: digits.drop whole.toNat

def scientific (digits : List Char) (power : Int) : List Char :=
  let fraction :=
    match digits.drop 1 with
    | [] => []
    | rest => '.' :: rest
  let sign := if power < 0 then ['-'] else ['+']
  digits.take 1 ++ fraction ++ 'e' :: sign ++ (Nat.toDigits 10 power.natAbs)

def render (layout : Layout) (x : Double) : String :=
  let d := x.shortest layout.tie
  let digits := Nat.toDigits 10 d.digits
  let whole : Int := digits.length + d.exponent
  let body :=
    if x.rank = 0 || layout.plain (whole - 1) then layout.point digits whole
    else scientific digits (whole - 1)
  String.ofList (if x.negative then '-' :: body else body)

end Layout

end GamePack
