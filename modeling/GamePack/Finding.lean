import GamePack.Content.Kind
import GamePack.Decode.Fields
import GamePack.Encode
import GamePack.VersionRange

namespace GamePack

inductive Category
  | flags
  | scripts
  | systemTargets
deriving DecidableEq, Repr

namespace Category

def all : List Category := [flags, scripts, systemTargets]

def label : Category → String
  | flags => "flag"
  | scripts => "script"
  | systemTargets => "system automation target"

def key : Category → String
  | flags => "flags"
  | scripts => "scripts"
  | systemTargets => "systemAutomationTargets"

end Category

inductive Severity
  | error
  | warning
deriving DecidableEq, Repr

def Severity.names : List (String × Severity) := [("error", .error), ("warning", .warning)]

inductive Code
  | allowlistSoftMiss
  | allowlistEntryInvalid
  | unknownRuntimeEvent
  | featureGate
  | unknownDependency
  | unsupportedLocale
deriving DecidableEq, Repr

def Code.names : List (String × Code) :=
  [("allowlistSoftMiss", .allowlistSoftMiss), ("allowlistEntryInvalid", .allowlistEntryInvalid),
    ("unknownRuntimeEvent", .unknownRuntimeEvent), ("featureGate", .featureGate),
    ("unknownDependency", .unknownDependency), ("unsupportedLocale", .unsupportedLocale)]

/-- What the settings may make an issue: a notice of error severity is one, any
other is a warning. -/
inductive Notice
  | softMiss (category : Category) (id : String)
  | invalidSoftEntry (category : Category) (value : String)
  | unknownEvent (id : String)
  | gated (kind : Kind) (introduced runtime : Version)
  | unknownDependency (packId : String)
  | unsupportedLocale (locale : String)
  /-- A notice that someone else put in words. -/
  | stated (code : Code) (message : String)
deriving DecidableEq, Repr

namespace Notice

def code : Notice → Code
  | softMiss .. => .allowlistSoftMiss
  | invalidSoftEntry .. => .allowlistEntryInvalid
  | unknownEvent _ => .unknownRuntimeEvent
  | gated .. => .featureGate
  | unknownDependency _ => .unknownDependency
  | unsupportedLocale _ => .unsupportedLocale
  | stated code _ => code

def message : Notice → String
  | softMiss category id =>
    s!"{category.label} '{id}' is not in the soft {category.label} allowlist"
  | invalidSoftEntry category value =>
    s!"ignoring invalid soft {category.label} allowlist entry '{value}'"
  | unknownEvent id => s!"unknown runtime event '{id}'"
  | gated kind introduced runtime =>
    s!"'{kind.key}' requires runtime {introduced.render} or newer (runtime is {runtime.render})"
  | unknownDependency packId => s!"required pack '{packId}' is not among the known packs"
  | unsupportedLocale locale => s!"locale '{locale}' is not listed in supportedLocales"
  | stated _ message => message

end Notice

structure CycleLink where
  producer : String
  consumer : String
  resources : List String
deriving DecidableEq, Repr

def renderCycle (cycle : List String) : String := Text.join " -> " cycle

def CycleLink.render (l : CycleLink) : String :=
  let quoted := l.resources.map fun id ↦ "'" ++ id ++ "'"
  l.producer ++ " -> " ++ l.consumer ++ " via " ++ Text.join ", " quoted

inductive Fault
  | notAnObject
  | unknownProperty (key : String)
  | missingMetadata
  | notAnArray (kind : Kind)
  | unreadable (cause : Decode.Cause)
  | invalidPackId (id : String)
  | invalidVersion (error : VersionError)
  | invalidId (kind : Kind) (id : String)
  | duplicateId (kind : Kind) (id : String) (first : Nat)
  | negativeStart (resource : String) (amount : Double)
  | smallCapacity (resource : String) (amount : Double)
  | missingSystemTarget (automation : String)
  | missingTarget (automation : String)
  | missingDuration (transform : String)
  | missingRequirements (transform : String)
  | misplacedRequirements (transform : String)
  | repeatedStat (entity stat : String)
  | wrongRuntime (pack range : String) (runtime : Version)
  | unknownEntry (kind : Kind) (id : String)
  | notAllowed (category : Category) (id : String)
  | unknownStat (entity stat : String)
  | missingCompanion (layer resource : String)
  | eventCollision (id : String)
  | transformCycle (cycle : List String) (links : List CycleLink)
  | unlockCycle (cycle : List String)
  | selfDependency (pack : String)
  | packCycle (cycle : List String)
  | wrongDependency (pack : String) (version : Version) (range : String)
  | invalidKnownVersion (pack : String) (error : VersionError)
  | conflict (pack : String)
  /-- A notice of error severity. -/
  | escalated (notice : Notice)
  | stated (message : String)
deriving Repr

namespace Fault

def message : Fault → String
  | notAnObject => "content pack must be an object"
  | unknownProperty key => s!"unknown property '{key}'"
  | missingMetadata => "missing required property 'metadata'"
  | notAnArray kind => s!"'{kind.key}' must be an array"
  | unreadable cause => cause.message
  | invalidPackId id => s!"invalid pack id '{id}'"
  | invalidVersion error => error.message
  | invalidId kind id => s!"invalid {kind.label} id '{id}'"
  | duplicateId kind id first =>
    s!"duplicate {kind.label} id '{id}' (first declared at {kind.key}[{first}])"
  | negativeStart resource amount =>
    s!"resource '{resource}' has negative startAmount {Layout.message.render amount}"
  | smallCapacity resource amount =>
    s!"resource '{resource}' capacity is below its startAmount {Layout.message.render amount}"
  | missingSystemTarget automation =>
    s!"system automation '{automation}' requires systemTargetId"
  | missingTarget automation => s!"automation '{automation}' requires targetId"
  | missingDuration transform => s!"transform '{transform}' requires a duration"
  | missingRequirements transform =>
    s!"mission transform '{transform}' requires entityRequirements"
  | misplacedRequirements transform =>
    s!"transform '{transform}' declares entityRequirements but is not a mission"
  | repeatedStat entity stat => s!"entity '{entity}' declares stat '{stat}' twice"
  | wrongRuntime pack range runtime =>
    s!"pack '{pack}' targets runtime '{range}' but the runtime version is {runtime.render}"
  | unknownEntry kind id => s!"unknown {kind.label} '{id}'"
  | notAllowed category id => s!"{category.label} '{id}' is not in the {category.label} allowlist"
  | unknownStat entity stat => s!"entity '{entity}' has no stat '{stat}'"
  | missingCompanion layer resource =>
    s!"prestige layer '{layer}' requires resource '{resource}'"
  | eventCollision id => s!"runtime event '{id}' collides with a runtime-defined event"
  | transformCycle cycle links =>
    s!"transform dependency cycle detected: {renderCycle cycle}" ++
      " (" ++ Text.join "; " (links.map CycleLink.render) ++ ")"
  | unlockCycle cycle => s!"unlock condition cycle detected: {renderCycle cycle}"
  | selfDependency pack => s!"pack '{pack}' cannot depend on itself"
  | packCycle cycle => s!"pack dependency cycle detected: {renderCycle cycle}"
  | wrongDependency pack version range =>
    s!"pack '{pack}' version {version.render} does not satisfy '{range}'"
  | invalidKnownVersion pack error => s!"known pack '{pack}' has {error.message}"
  | conflict pack => s!"pack conflicts with active pack '{pack}'"
  | escalated notice => notice.message
  | stated message => message

end Fault

structure Issue where
  path : Path
  fault : Fault
deriving Repr

structure Warning where
  path : Path
  notice : Notice
deriving DecidableEq, Repr

def renderAt (path : Path) (message : String) : String := path.render ++ ": " ++ message

variable {n : Nat}

def Step.decoder : Decoder n Step :=
  Decode.orElse (fun mode v ↦ (Decode.nat64 mode v).map .index)
    (fun mode v ↦ (Decode.string mode v).map .key) "PathSegment"

def Path.decoder : Decoder n Path := Decode.list Step.decoder

def Severity.decoder : Decoder n Severity := Decode.choice names

def Code.decoder : Decoder n Code := Decode.choice names

namespace Issue

def message (i : Issue) : String := i.fault.message

def render (i : Issue) : String := renderAt i.path i.message

def decoder : Decoder n Issue := Fields.lenient "ContentPackIssue" <|
  (fun path message ↦ ⟨path, .stated message⟩) <$> .required "path" Path.decoder
    <*> .required "message" Decode.string

def encode (i : Issue) : Json := .obj [("path", i.path.encode), ("message", .str i.message)]

end Issue

namespace Warning

def code (w : Warning) : Code := w.notice.code

def message (w : Warning) : String := w.notice.message

def render (w : Warning) : String := renderAt w.path w.message

def decoder : Decoder n Warning := Fields.lenient "ContentPackWarning" <|
  (fun code message path ↦ ⟨path, .stated code message⟩) <$> .required "code" Code.decoder
    <*> .required "message" Decode.string
    <*> .required "path" Path.decoder

def encode (w : Warning) : Json := .obj
  [("code", encodeName Code.names w.code), ("message", .str w.message), ("path", w.path.encode)]

end Warning

inductive Finding
  | issue (i : Issue)
  | warning (w : Warning)
deriving Repr

namespace Finding

def fault (path : Path) (f : Fault) : Finding := .issue ⟨path, f⟩

def notice (path : Path) (n : Notice) : Finding := .warning ⟨path, n⟩

def ensure (holds : Bool) (path : Path) (f : Fault) : List Finding :=
  if holds then [] else [fault path f]

def report (severity : Severity) (path : Path) (n : Notice) : Finding :=
  match severity with
  | .error => fault path (.escalated n)
  | .warning => notice path n

def issue? : Finding → Option Issue
  | .issue i => some i
  | .warning _ => none

def warning? : Finding → Option Warning
  | .issue _ => none
  | .warning w => some w

end Finding

def issuesOf (findings : List Finding) : List Issue := findings.filterMap Finding.issue?

def warningsOf (findings : List Finding) : List Warning := findings.filterMap Finding.warning?

def hasIssues (findings : List Finding) : Bool := findings.any (·.issue?.isSome)

end GamePack
