import GamePack.Content.Formula

namespace GamePack

structure Payload where
  kind : String
  schemaRef : Option String
deriving DecidableEq, Repr

inductive Emitter
  | achievement (id : String)
  | upgrade (id : String)
  | transform (id : String)
  | script (id : String)
deriving DecidableEq, Repr

structure RuntimeEvent where
  id : String
  version : Nat
  payload : Option Payload
  emits : List Emitter
  tags : List String
deriving DecidableEq, Repr

variable {n : Nat}

namespace Payload

def decoder : Decoder n Payload := Fields.closed "EventPayload" <|
  mk <$> .required "kind" Decode.string <*> .optional "schemaRef" Decode.string

def encode (p : Payload) : Json :=
  .obj [("kind", .str p.kind), ("schemaRef", .ofOption .str p.schemaRef)]

end Payload

namespace Emitter

def tagged : Tagged n Emitter where
  name := "EmitterSource"
  key := "kind"
  variants :=
    [.withFields "achievement" (achievement <$> .required "achievementId" Decode.string),
      .withFields "upgrade" (upgrade <$> .required "upgradeId" Decode.string),
      .withFields "transform" (transform <$> .required "transformId" Decode.string),
      .withFields "script" (script <$> .required "scriptId" Decode.string)]

def source : Decoder n Emitter := tagged.decoder (Nat.le_succ n)

def encodeSource : Emitter → Json
  | achievement id => encodeVariant "kind" "achievement" [("achievementId", .str id)]
  | upgrade id => encodeVariant "kind" "upgrade" [("upgradeId", .str id)]
  | transform id => encodeVariant "kind" "transform" [("transformId", .str id)]
  | script id => encodeVariant "kind" "script" [("scriptId", .str id)]

def decoder : Decoder n Emitter := Fields.closed "EventEmitter" (.required "source" source)

def encode (e : Emitter) : Json := .obj [("source", e.encodeSource)]

end Emitter

namespace RuntimeEvent

def decoder : Decoder n RuntimeEvent := Fields.closed "RuntimeEventData" <|
  mk <$> .required "id" Decode.string
    <*> .defaulted "version" 1 Decode.nat32
    <*> .optional "payload" Payload.decoder
    <*> .listed "emits" Emitter.decoder
    <*> .listed "tags" Decode.string

def encode (e : RuntimeEvent) : Json := .obj
  [("id", .str e.id),
    ("version", .ofNat e.version),
    ("payload", .ofOption Payload.encode e.payload),
    ("emits", .arr (e.emits.map Emitter.encode)),
    ("tags", .ofStrings e.tags)]

end RuntimeEvent

end GamePack
