import GamePack.Content.Pack
import GamePack.Fnv
import GamePack.Json.Writer

namespace GamePack

/-- The id that a document gives its pack, readable or not. -/
def Json.packId? (doc : Json) : Option String :=
  (doc.at? [.key "metadata", .key "id"]).bind Json.str?

/-- All that the digest of a pack covers. -/
structure Shape where
  id : String
  version : String
  ids : Kind → List String

namespace Shape

def encode (s : Shape) : Json :=
  .ofFields (("packId", .str s.id) :: ("packVersion", .str s.version) ::
    Kind.all.map fun kind ↦ (kind.key, .ofStrings (s.ids kind)))

def text (s : Shape) : String := s.encode.compact

/-- The shape that a document shows without being read as a pack: ids that are no
texts are skipped. -/
def ofDocument (doc : Json) : Shape where
  id := doc.packId?.getD ""
  version := ((doc.at? [.key "metadata", .key "version"]).bind Json.str?).getD ""
  ids kind := (((doc.field? kind.key).bind Json.items?).getD []).filterMap fun v ↦
    (v.field? "id").bind Json.str?

end Shape

def Pack.shape (p : Pack) : Shape := ⟨p.metadata.id, p.metadata.version, p.ids⟩

structure Digest where
  value : UInt32
deriving DecidableEq, Repr

namespace Digest

def ofShape (s : Shape) : Digest := ⟨Fnv.hash s.text⟩

def render (d : Digest) : String := "fnv1a-" ++ String.ofList (Text.hex 8 d.value.toNat)

def encode (d : Digest) : Json := .str d.render

end Digest

end GamePack
