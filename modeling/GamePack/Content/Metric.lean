import GamePack.Content.DisplayText
import GamePack.Content.Formula

namespace GamePack

inductive MetricKind
  | counter
  | gauge
  | histogram
  | upDownCounter
deriving DecidableEq, Repr

inductive MetricSource
  | runtime
  | content
  | script (id : String)
deriving DecidableEq, Repr

structure Metric where
  id : String
  name : DisplayText
  description : Option DisplayText
  kind : MetricKind
  unit : String
  aggregation : Option String
  attributes : List String
  source : MetricSource

variable {n : Nat}

def MetricKind.names : List (String × MetricKind) :=
  [("counter", .counter), ("gauge", .gauge), ("histogram", .histogram),
    ("upDownCounter", .upDownCounter)]

namespace MetricSource

def tagged : Tagged n MetricSource where
  name := "MetricSource"
  key := "kind"
  variants :=
    [.plain "runtime" runtime,
      .plain "content" content,
      .withFields "script" (script <$> .required "scriptId" Decode.string)]

def decoder : Decoder n MetricSource := tagged.decoder (Nat.le_succ n)

def encode : MetricSource → Json
  | runtime => encodeVariant "kind" "runtime" []
  | content => encodeVariant "kind" "content" []
  | script id => encodeVariant "kind" "script" [("scriptId", .str id)]

end MetricSource

namespace Metric

def decoder : Decoder n Metric := Fields.closed "MetricData" <|
  mk <$> .required "id" Decode.string
    <*> .required "name" DisplayText.decoder
    <*> .optional "description" DisplayText.decoder
    <*> .required "kind" (Decode.choice MetricKind.names)
    <*> .defaulted "unit" "1" Decode.string
    <*> .optional "aggregation" Decode.string
    <*> .listed "attributes" Decode.string
    <*> .defaulted "source" .runtime MetricSource.decoder

def encode (m : Metric) : Json := .obj
  [("id", .str m.id),
    ("name", m.name.encode),
    ("description", .ofOption DisplayText.encode m.description),
    ("kind", encodeName MetricKind.names m.kind),
    ("unit", .str m.unit),
    ("aggregation", .ofOption .str m.aggregation),
    ("attributes", .ofStrings m.attributes),
    ("source", m.source.encode)]

end Metric

end GamePack
