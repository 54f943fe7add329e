import GamePack.Config
import GamePack.Content.Metadata
import GamePack.Graph.Cycle

namespace GamePack

namespace Metadata

variable (m : Metadata)

def dependencyPath : Path := [.key "metadata", .key "dependencies"]

def selfDependencies (field : String) (entries : List Dependency) : List Finding :=
  (dependencyPath.key field).each entries fun path d ↦
    Finding.ensure (d.packId ≠ m.id) (path.key "packId") (.selfDependency m.id)

/-- Edges lead from each pack to the packs it requires; what is known about the pack itself and its
requirement of itself are left out. -/
def dependencyGraph (known : List KnownPack) : Graph :=
  let own := (m.dependencies.requires.map (·.packId)).filter (· ≠ m.id)
  (known.filter (·.id ≠ m.id)).foldl (fun g k ↦ g.addEdges k.id k.requires)
    (Graph.empty.addEdges m.id own)

def dependencyCycles (known : List KnownPack) : List Finding :=
  ((m.dependencyGraph known).cycles (m.id :: known.map (·.id)) .first).map fun cycle ↦
    .fault (dependencyPath.key "requires") (.packCycle cycle)

end Metadata

namespace Dependency

/-- Why a known pack does not fit the range of a dependency. Without a range, or with a malformed
one, everything fits. -/
def mismatch? (d : Dependency) (known : KnownPack) : Option Fault :=
  match d.version.map VersionRange.parse with
  | some (.ok range) =>
    match Version.parse known.version with
    | .ok v => if range.contains v then none else some (.wrongDependency known.id v range.source)
    | .error e => some (.invalidKnownVersion known.id e)
  | _ => none

def known? (d : Dependency) (known : List KnownPack) : Option KnownPack :=
  known.find? (·.id = d.packId)

/-- A required pack has to fit its range; where packs are known at all, an unknown one is
worth a warning. -/
def checkRequired (known : List KnownPack) (path : Path) (d : Dependency) : List Finding :=
  match d.known? known with
  | some k => ((d.mismatch? k).map (Finding.fault (path.key "version"))).toList
  | none =>
    if known.isEmpty then [] else [.notice (path.key "packId") (.unknownDependency d.packId)]

/-- A conflict with an active pack, unless that pack is known not to fit the range. -/
def checkConflict (known : List KnownPack) (active : List String) (path : Path) (d : Dependency) :
    List Finding :=
  let fits := (d.known? known).all fun k ↦ (d.mismatch? k).isNone
  if active.contains d.packId && fits then [.fault (path.key "packId") (.conflict d.packId)] else []

end Dependency

namespace Metadata

def checkDependencies (m : Metadata) (known : List KnownPack) (active : List String) :
    List Finding :=
  let d := m.dependencies
  let others (check : Path → Dependency → List Finding) (path : Path) (x : Dependency) :=
    if x.packId = m.id then [] else check path x
  m.selfDependencies "requires" d.requires ++
    m.selfDependencies "optional" d.optional ++
    m.selfDependencies "conflicts" d.conflicts ++
    m.dependencyCycles known ++
    (dependencyPath.key "requires").each d.requires (others (Dependency.checkRequired known)) ++
    (dependencyPath.key "conflicts").each d.conflicts
      (others (Dependency.checkConflict known active))

end Metadata

end GamePack
