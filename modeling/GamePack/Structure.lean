import GamePack.Content.Pack
import GamePack.Finding

namespace GamePack.Structure

def parses {α : Type} (r : Except VersionError α) (path : Path) : List Finding :=
  match r with
  | .ok _ => []
  | .error e => [.fault path (.invalidVersion e)]

def dependency (path : Path) (d : Dependency) : List Finding :=
  Finding.ensure (Id.isValid d.packId) (path.key "packId") (.invalidPackId d.packId) ++
    match d.version with
    | none => []
    | some range => parses (VersionRange.parse range) (path.key "version")

def metadata (m : Metadata) : List Finding :=
  let path : Path := [.key "metadata"]
  let dependencies := path.key "dependencies"
  Finding.ensure (Id.isValid m.id) (path.key "id") (.invalidPackId m.id) ++
    parses (Version.parse m.version) (path.key "version") ++
    parses (VersionRange.parse m.engine) (path.key "engine") ++
    (dependencies.key "requires").each m.dependencies.requires dependency ++
    (dependencies.key "optional").each m.dependencies.optional dependency ++
    (dependencies.key "conflicts").each m.dependencies.conflicts dependency

def ids (p : Pack) (kind : Kind) : List Finding :=
  let all := p.ids kind
  all.zipIdx.flatMap fun (id, i) ↦
    let path : Path := [.key kind.key, .index i, .key "id"]
    Finding.ensure (Id.isValid id) path (.invalidId kind id) ++
      Finding.ensure (i ≤ all.idxOf id) path (.duplicateId kind id (all.idxOf id))

def resource (path : Path) (r : Resource) : List Finding :=
  Finding.ensure (!decide (r.startAmount < .zero)) (path.key "startAmount")
      (.negativeStart r.id r.startAmount) ++
    Finding.ensure r.capacityAdmitsStart (path.key "capacity") (.smallCapacity r.id r.startAmount)

def automation (path : Path) (a : Automation) : List Finding :=
  if a.targetType = .system then
    Finding.ensure a.systemTargetId.isSome (path.key "systemTargetId") (.missingSystemTarget a.id)
  else Finding.ensure a.targetId.isSome (path.key "targetId") (.missingTarget a.id)

def transform (path : Path) (t : Transform) : List Finding :=
  Finding.ensure (!t.mode.requiresDuration || t.duration.isSome) (path.key "duration")
      (.missingDuration t.id) ++
    if t.mode = .mission then
      Finding.ensure (!t.entityRequirements.isEmpty) (path.key "entityRequirements")
        (.missingRequirements t.id)
    else
      Finding.ensure t.entityRequirements.isEmpty (path.key "entityRequirements")
        (.misplacedRequirements t.id)

def entity (path : Path) (e : Entity) : List Finding :=
  let all := e.stats.map (·.id)
  all.zipIdx.flatMap fun (id, i) ↦
    Finding.ensure (i ≤ all.idxOf id) (((path.key "stats").index i).key "id")
      (.repeatedStat e.id id)

/-- A warning for each variant in a locale that the pack does not list. -/
def locales (m : Metadata) (path : Path) (text : DisplayText) : List Finding :=
  (text.variants.keys.filter fun locale ↦
      !(m.supportedLocales.contains locale || m.defaultLocale = locale)).map fun locale ↦
    .notice ((path.key "variants").key locale) (.unsupportedLocale locale)

def optionalLocales (m : Metadata) (path : Path) : Option DisplayText → List Finding
  | none => []
  | some text => locales m path text

def names (p : Pack) (kind : Kind) : List Finding :=
  Path.each [.key kind.key] (p.collection kind) fun path e ↦
    optionalLocales p.metadata (path.key "name") (kind.entryName? e)

def check (p : Pack) : List Finding :=
  let m := p.metadata
  metadata m ++ Kind.all.flatMap (ids p) ++
    Path.each [.key "resources"] p.resources resource ++
    Path.each [.key "automations"] p.automations automation ++
    Path.each [.key "transforms"] p.transforms transform ++
    Path.each [.key "entities"] p.entities entity ++
    locales m [.key "metadata", .key "title"] m.title ++
    optionalLocales m [.key "metadata", .key "summary"] m.summary ++
    Kind.all.flatMap (names p)

end GamePack.Structure
