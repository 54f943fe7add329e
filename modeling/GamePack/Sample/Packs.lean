import GamePack.Sample.Pieces

namespace GamePack.Sample

def smallId : String := "sample-pack"

def id (name : String) : String := qualify smallId name

def small : Json :=
  let energy := id "energy"
  let crystal := id "crystal"
  .obj [("generators", .arr
      [.obj
        [("id", .str (id "reactor")),
          ("name", .str "Reactor"),
          ("produces", .arr [rate energy .one]),
          ("purchase", cost energy (exponential (decimal 10 0) (decimal 115 2)))],
      .obj
        [("baseUnlock", resourceAtLeast energy (decimal 15 0)),
          ("consumes", .arr [rate energy (decimal 5 1)]),
          ("id", .str (id "harvester")),
          ("name", .str "Harvester"),
          ("produces", .arr [rate crystal (decimal 25 2)]),
          ("purchase", cost energy (exponential (decimal 25 0) (decimal 12 1)))]]),
    ("metadata", metadata smallId "0.1.0" "Sample Pack"),
    ("resources", .arr
      [.obj
        [("capacity", .ofNat 100),
          ("id", .str energy),
          ("name", .str "Energy"),
          ("startAmount", .ofNat 10)],
      .obj
        [("id", .str crystal),
          ("name", .str "Crystal"),
          ("startAmount", .ofNat 0),
          ("unlockCondition", resourceAtLeast energy (decimal 25 0)),
          ("unlocked", .bool false)]])]

def chainId : String := "bench-pack"

def member (family : String) (i : Nat) : String := s!"{family}-{i}"

def chainUpgrade (i : Nat) : Json :=
  let speedUp := .obj
    [("kind", .str "modifyResourceRate"),
      ("operation", .str "multiply"),
      ("resourceId", .str (qualify chainId (member "res" i))),
      ("value", constant (decimal 11 1))]
  let u := (upgrade chainId (member "upg" i) (member "res" i)).setField "effects" (.arr [speedUp])
  match i with
  | 0 => u
  | i + 1 => u.setField "prerequisites" (.ofStrings [qualify chainId (member "upg" i)])

/-- A chain of at least one link: each resource has a generator, paid for with the resource before
it, and an upgrade, and is turned into the next resource. -/
def chain (size : Nat) : Json :=
  let links := List.range (max size 1)
  let transforms := (List.range (size - 1)).map fun i ↦
    transform chainId (member "tx" i) [member "res" i] [member "res" (i + 1)]
  .obj ([("generators", Json.arr (links.map fun i ↦
      generator chainId (member "gen" i) (member "res" i) (member "res" (i - 1)))),
    ("metadata", metadata chainId "1.0.0" chainId),
    ("resources", .arr (links.map fun i ↦ resource chainId (member "res" i)))] ++
    (if transforms.isEmpty then [] else [("transforms", .arr transforms)]) ++
    [("upgrades", .arr (links.map chainUpgrade))])

end GamePack.Sample
