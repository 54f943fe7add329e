import GamePack.Finding

namespace GamePack

/-- An allowlist in two tiers: the first is enforced, the second is advice. -/
structure AllowlistSpec where
  required : List String
  soft : List String
deriving DecidableEq, Repr

structure AllowlistSpecs where
  flags : Option AllowlistSpec
  scripts : Option AllowlistSpec
  systemTargets : Option AllowlistSpec
deriving DecidableEq, Repr

structure KnownPack where
  id : String
  version : String
  requires : List String
deriving DecidableEq, Repr

/-- A collection that only runtimes from some version on understand. -/
structure FeatureGate where
  kind : Kind
  introducedIn : String
  severity : Severity
deriving DecidableEq, Repr

structure BalanceSettings where
  enabled : Bool
  warnOnly : Bool
  config : Json

structure Config where
  allowlists : AllowlistSpecs
  runtimeVersion : Option String
  featureGates : List FeatureGate
  knownPacks : List KnownPack
  eventCatalogue : List String
  activePackIds : List String
  unknownEventSeverity : Option Severity
  balance : BalanceSettings

variable {n : Nat}

namespace AllowlistSpec

def decoder : Decoder n AllowlistSpec := Fields.lenient "AllowlistSpec" <|
  mk <$> .listed "required" Decode.string <*> .listed "soft" Decode.string

def encode (s : AllowlistSpec) : Json :=
  .obj [("required", .ofStrings s.required), ("soft", .ofStrings s.soft)]

def enforced (ids : List String) : AllowlistSpec := ⟨ids, []⟩

def advisory (ids : List String) : AllowlistSpec := ⟨[], ids⟩

end AllowlistSpec

namespace AllowlistSpecs

def none : AllowlistSpecs := ⟨.none, .none, .none⟩

def get (s : AllowlistSpecs) : Category → Option AllowlistSpec
  | .flags => s.flags
  | .scripts => s.scripts
  | .systemTargets => s.systemTargets

def decoder : Decoder n AllowlistSpecs := Fields.lenient "AllowlistSpecs" <|
  mk <$> .optional "flags" AllowlistSpec.decoder
    <*> .optional "scripts" AllowlistSpec.decoder
    <*> .optional "systemAutomationTargets" AllowlistSpec.decoder

def encode (s : AllowlistSpecs) : Json := .obj
  [("flags", .ofOption AllowlistSpec.encode s.flags),
    ("scripts", .ofOption AllowlistSpec.encode s.scripts),
    ("systemAutomationTargets", .ofOption AllowlistSpec.encode s.systemTargets)]

end AllowlistSpecs

namespace KnownPack

def decoder : Decoder n KnownPack := Fields.lenient "KnownPack" <|
  mk <$> .required "id" Decode.string
    <*> .required "version" Decode.string
    <*> .listed "requires" Decode.string

def encode (k : KnownPack) : Json := .obj
  [("id", .str k.id), ("version", .str k.version), ("requires", .ofStrings k.requires)]

end KnownPack

namespace FeatureGate

def decoder : Decoder n FeatureGate := Fields.lenient "FeatureGate" <|
  mk <$> .required "module" Kind.keyDecoder
    <*> .required "introducedIn" Decode.string
    <*> .defaulted "severity" .error Severity.decoder

def encode (g : FeatureGate) : Json := .obj
  [("module", .str g.kind.key),
    ("introducedIn", .str g.introducedIn),
    ("severity", encodeName Severity.names g.severity)]

end FeatureGate

namespace BalanceSettings

def initial : BalanceSettings := ⟨true, false, .null⟩

def decoder : Decoder n BalanceSettings := Fields.lenient "BalanceOptions" <|
  mk <$> .defaulted "enabled" true Decode.bool
    <*> .defaulted "warnOnly" false Decode.bool
    <*> .defaulted "config" .null Decode.any

def encode (b : BalanceSettings) : Json := .obj
  [("enabled", .bool b.enabled), ("warnOnly", .bool b.warnOnly), ("config", b.config)]

end BalanceSettings

namespace Config

def initial : Config := ⟨.none, none, [], [], [], [], none, .initial⟩

def decoder : Decoder n Config := Fields.lenient "ValidationConfig" <|
  mk <$> .defaulted "allowlists" .none AllowlistSpecs.decoder
    <*> .optional "runtimeVersion" Decode.string
    <*> .listed "featureGates" FeatureGate.decoder
    <*> .listed "knownPacks" KnownPack.decoder
    <*> .listed "runtimeEventCatalogue" Decode.string
    <*> .listed "activePackIds" Decode.string
    <*> .optional "unknownRuntimeEventSeverity" Severity.decoder
    <*> .defaulted "balance" .initial BalanceSettings.decoder

def encode (c : Config) : Json := .obj
  [("allowlists", c.allowlists.encode),
    ("runtimeVersion", .ofOption .str c.runtimeVersion),
    ("featureGates", .arr (c.featureGates.map FeatureGate.encode)),
    ("knownPacks", .arr (c.knownPacks.map KnownPack.encode)),
    ("runtimeEventCatalogue", .ofStrings c.eventCatalogue),
    ("activePackIds", .ofStrings c.activePackIds),
    ("unknownRuntimeEventSeverity", .ofOption (encodeName Severity.names) c.unknownEventSeverity),
    ("balance", c.balance.encode)]

/-- Unknown events are warnings as long as no catalogue says which exist, unless the
settings choose. -/
def eventSeverity (c : Config) : Severity :=
  c.unknownEventSeverity.getD (if c.eventCatalogue.isEmpty then .warning else .error)

end Config

end GamePack
