import GamePack.Content.DisplayText

namespace GamePack

structure Dependency where
  packId : String
  version : Option String
deriving DecidableEq, Repr

structure Dependencies where
  requires : List Dependency
  optional : List Dependency
  conflicts : List Dependency
  provides : List String
deriving DecidableEq, Repr

structure Metadata where
  id : String
  title : DisplayText
  summary : Option DisplayText
  version : String
  engine : String
  authors : List String
  tags : List String
  defaultLocale : String
  supportedLocales : List String
  dependencies : Dependencies

variable {n : Nat}

namespace Dependency

def decoder : Decoder n Dependency := Fields.closed "PackDependency" <|
  mk <$> .required "packId" Decode.string <*> .optional "version" Decode.string

def encode (d : Dependency) : Json :=
  .obj [("packId", .str d.packId), ("version", .ofOption .str d.version)]

end Dependency

namespace Dependencies

def none : Dependencies := ⟨[], [], [], []⟩

def decoder : Decoder n Dependencies := Fields.closed "PackDependencies" <|
  mk <$> .listed "requires" Dependency.decoder
    <*> .listed "optional" Dependency.decoder
    <*> .listed "conflicts" Dependency.decoder
    <*> .listed "provides" Decode.string

def encode (d : Dependencies) : Json := .obj
  [("requires", .arr (d.requires.map Dependency.encode)),
    ("optional", .arr (d.optional.map Dependency.encode)),
    ("conflicts", .arr (d.conflicts.map Dependency.encode)),
    ("provides", .ofStrings d.provides)]

end Dependencies

namespace Metadata

def decoder : Decoder n Metadata := Fields.closed "ContentPackMetadata" <|
  mk <$> .required "id" Decode.string
    <*> .required "title" DisplayText.decoder
    <*> .optional "summary" DisplayText.decoder
    <*> .required "version" Decode.string
    <*> .defaulted "engine" "*" Decode.string
    <*> .listed "authors" Decode.string
    <*> .listed "tags" Decode.string
    <*> .defaulted "defaultLocale" "en-US" Decode.string
    <*> .listed "supportedLocales" Decode.string
    <*> .defaulted "dependencies" .none Dependencies.decoder

def encode (m : Metadata) : Json := .obj
  [("id", .str m.id),
    ("title", m.title.encode),
    ("summary", .ofOption DisplayText.encode m.summary),
    ("version", .str m.version),
    ("engine", .str m.engine),
    ("authors", .ofStrings m.authors),
    ("tags", .ofStrings m.tags),
    ("defaultLocale", .str m.defaultLocale),
    ("supportedLocales", .ofStrings m.supportedLocales),
    ("dependencies", m.dependencies.encode)]

end Metadata

end GamePack
