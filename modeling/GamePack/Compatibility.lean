import GamePack.Config
import GamePack.Content.Pack

namespace GamePack

namespace Pack

/-- The fault of a runtime outside the pack's range. A malformed range is no matter of
compatibility. -/
def checkEngine (p : Pack) (runtime : Version) : List Finding :=
  match VersionRange.parse p.metadata.engine with
  | .ok range =>
    Finding.ensure (range.contains runtime) [.key "metadata", .key "engine"]
      (.wrongRuntime p.id range.source runtime)
  | .error _ => []

/-- The finding about a gate. A gate on an empty collection is not looked at. -/
def checkGate (p : Pack) (runtime : Version) (path : Path) (g : FeatureGate) : List Finding :=
  if p.size g.kind = 0 then []
  else
    match Version.parse g.introducedIn with
    | .error e => [.fault (path.key "introducedIn") (.invalidVersion e)]
    | .ok introduced =>
      if introduced.cmp runtime = .gt then
        [.report g.severity [.key g.kind.key] (.gated g.kind introduced runtime)]
      else []

def checkCompatibility (p : Pack) (c : Config) : List Finding :=
  match c.runtimeVersion with
  | none => []
  | some text =>
    match Version.parse text with
    | .error e => [.fault [.key "options", .key "runtimeVersion"] (.invalidVersion e)]
    | .ok runtime =>
      p.checkEngine runtime ++
        Path.each [.key "options", .key "featureGates"] c.featureGates (p.checkGate runtime)

end Pack

end GamePack
