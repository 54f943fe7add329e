namespace GamePack.Text

/-- One unit for a character below `0x10000`, a pair of surrogates for any other. -/
def unitsOfChar (c : Char) : List Nat :=
  if c.toNat < 0x10000 then [c.toNat]
  else [0xD800 + (c.toNat - 0x10000) / 0x400, 0xDC00 + (c.toNat - 0x10000) % 0x400]

def units (cs : List Char) : List Nat := cs.flatMap unitsOfChar

end GamePack.Text
