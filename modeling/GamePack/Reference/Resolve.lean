import GamePack.Allowlist
import GamePack.Index
import GamePack.Reference.Mention

namespace GamePack

structure Scope where
  pack : Pack
  allowlists : Allowlists
  catalogue : List String
  eventSeverity : Severity

namespace Scope

def ofConfig (p : Pack) (allowlists : Allowlists) (c : Config) : Scope :=
  ⟨p, allowlists, c.eventCatalogue, c.eventSeverity⟩

def knowsEvent (s : Scope) (id : String) : Bool :=
  s.catalogue.contains id || (s.pack.ids .runtimeEvent).contains id

/-- The finding about a mention that cannot be resolved. The stats of an unknown entity
are not looked at. -/
def resolve (s : Scope) (m : Mention) : List Finding :=
  match m.subject with
  | .entry kind id => Finding.ensure (s.pack.Has kind id) m.path (.unknownEntry kind id)
  | .outside category id => Allowlist.check (s.allowlists category) category id m.path
  | .event id =>
    if s.knowsEvent id then [] else [.report s.eventSeverity m.path (.unknownEvent id)]
  | .statOf id stat =>
    match (s.pack.index .entity).item? id with
    | none => []
    | some e => Finding.ensure (e.stat? stat).isSome m.path (.unknownStat id stat)
  | .ownStat e stat => Finding.ensure (e.stat? stat).isSome m.path (.unknownStat e.id stat)
  | .companion layer =>
    Finding.ensure (s.pack.Has .resource layer.countResource) m.path
      (.missingCompanion layer.id layer.countResource)
  | .declaration id => Finding.ensure (!s.catalogue.contains id) m.path (.eventCollision id)

def check (s : Scope) : List Finding := s.pack.mentions.flatMap s.resolve

end Scope

end GamePack
