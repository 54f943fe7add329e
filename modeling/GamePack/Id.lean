import GamePack.Text.Split

namespace GamePack.Id

def maxLength : Nat := 128

def isLead (c : Char) : Bool := c.isLower || c.isDigit

def isInner (c : Char) : Bool := isLead c || c = '-' || c = '_'

def isSegment : List Char → Bool
  | [] => false
  | c :: rest => isLead c && rest.all isInner

def isValid (id : String) : Bool :=
  id.toList.length ≤ maxLength && (Text.split (· = '.') id.toList).all isSegment

/-- The resource that counts how often a prestige layer was completed. -/
def prestigeCount (layer : String) : String := layer ++ "-prestige-count"

end GamePack.Id
