import GamePack.Text.Units

namespace GamePack.Fnv

def offsetBasis : UInt32 := 0x811c9dc5

def prime : UInt32 := 0x01000193

def step (state : UInt32) (unit : Nat) : UInt32 := (state ^^^ unit.toUInt32) * prime

def hash (text : String) : UInt32 := (Text.units text.toList).foldl step offsetBasis

end GamePack.Fnv
