import GamePack.Text.Hex
import GamePack.Text.Split

namespace GamePack

structure Version where
  major : Nat
  minor : Nat
  patch : Nat
  tag : Option String
deriving DecidableEq, Repr

inductive VersionError
  | version (text : String)
  | range (text comparator : String)
deriving DecidableEq, Repr

def VersionError.message : VersionError → String
  | .version text => s!"invalid version '{text}': expected MAJOR.MINOR.PATCH"
  | .range text comparator => s!"invalid version range '{text}': bad comparator '{comparator}'"

namespace Version

def bound : Nat := 0x10000000000000000

/-- A number of a version: digits, any count of leading zeros, below the bound. -/
def number? (cs : List Char) : Option Nat := (Text.ofDigits? 10 cs).filter (· < bound)

/-- The numbers and the tag: the tag follows the first hyphen, and a hyphen without a
tag is refused. -/
def cutTag? (cs : List Char) : Option (List Char × Option String) :=
  match cs.dropWhile (· ≠ '-') with
  | [] => some (cs, none)
  | [_] => none
  | _ :: tag => some (cs.takeWhile (· ≠ '-'), some (String.ofList tag))

def ofChars? (cs : List Char) : Option Version := do
  let (numbers, tag) ← cutTag? cs
  match Text.split (· = '.') numbers with
  | [a] => some ⟨← number? a, 0, 0, tag⟩
  | [a, b] => some ⟨← number? a, ← number? b, 0, tag⟩
  | [a, b, c] => some ⟨← number? a, ← number? b, ← number? c, tag⟩
  | _ => none

/-- Reads a version with all three numbers; blanks around it are ignored. -/
def parse (text : String) : Except VersionError Version :=
  let cs := Text.trim text.toList
  if (Text.split (· = '.') (cs.takeWhile (· ≠ '-'))).length ≠ 3 then .error (.version text)
  else
    match ofChars? cs with
    | some v => .ok v
    | none => .error (.version text)

/-- An untagged version comes after every tagged one, and tags are ordered as texts. -/
def compareTag : Option String → Option String → Ordering
  | none, none => .eq
  | none, some _ => .gt
  | some _, none => .lt
  | some a, some b => compare a b

def cmp (v w : Version) : Ordering :=
  (compare v.major w.major).then <| (compare v.minor w.minor).then <|
    (compare v.patch w.patch).then <| compareTag v.tag w.tag

def render (v : Version) : String :=
  s!"{v.major}.{v.minor}.{v.patch}" ++
    match v.tag with
    | none => ""
    | some tag => "-" ++ tag

end Version

end GamePack
