import GamePack.Version

namespace GamePack

inductive Relation
  | eq
  | gt
  | ge
  | lt
  | le
deriving DecidableEq, Repr

def Relation.holds : Relation → Ordering → Bool
  | .eq, o => o = .eq
  | .gt, o => o = .gt
  | .ge, o => o ≠ .lt
  | .lt, o => o = .lt
  | .le, o => o ≠ .gt

structure Bound where
  relation : Relation
  version : Version
deriving DecidableEq, Repr

def Bound.admits (b : Bound) (v : Version) : Bool := b.relation.holds (v.cmp b.version)

/-- Alternatives, each a list of comparators that must all hold. -/
structure VersionRange where
  source : String
  alternatives : List (List Bound)
deriving DecidableEq, Repr

namespace VersionRange

def any : VersionRange := ⟨"*", [[]]⟩

def contains (r : VersionRange) (v : Version) : Bool :=
  r.alternatives.any fun bounds ↦ bounds.all (·.admits v)

def succ? (n : Nat) : Option Nat := if n + 1 < Version.bound then some (n + 1) else none

/-- The first version of the next incompatible series: the leftmost number that is
not zero grows. -/
def nextSeries? (v : Version) : Option Version :=
  if 0 < v.major then (succ? v.major).map fun n ↦ ⟨n, 0, 0, none⟩
  else if 0 < v.minor then (succ? v.minor).map fun n ↦ ⟨0, n, 0, none⟩
  else (succ? v.patch).map fun n ↦ ⟨0, 0, n, none⟩

def nextMinor? (v : Version) : Option Version :=
  (succ? v.minor).map fun n ↦ ⟨v.major, n, 0, none⟩

def span? (upper : Version → Option Version) (cs : List Char) : Option (List Bound) := do
  let v ← Version.ofChars? cs
  let w ← upper v
  return [⟨.ge, v⟩, ⟨.lt, w⟩]

def single? (relation : Relation) (cs : List Char) : Option (List Bound) :=
  (Version.ofChars? cs).map fun v ↦ [⟨relation, v⟩]

def comparator? : List Char → Option (List Bound)
  | ['*'] | ['x'] | ['X'] => some []
  | '^' :: cs => span? nextSeries? cs
  | '~' :: cs => span? nextMinor? cs
  | '>' :: '=' :: cs => single? .ge cs
  | '<' :: '=' :: cs => single? .le cs
  | '>' :: cs => single? .gt cs
  | '<' :: cs => single? .lt cs
  | '=' :: cs => single? .eq cs
  | cs => single? .eq cs

def bounds (text : String) (words : List (List Char)) : Except VersionError (List Bound) := do
  let lists ← words.mapM fun word ↦
    match comparator? word with
    | some bounds => .ok bounds
    | none => .error (.range text (String.ofList word))
  return lists.flatten

def parse (text : String) : Except VersionError VersionRange := do
  let alternatives ← (Text.splitBars text.toList).mapM fun cs ↦ bounds text (Text.words cs)
  return ⟨String.ofList (Text.trim text.toList), alternatives⟩

end VersionRange

end GamePack
