import GamePack.Files.Load
import GamePack.Report

namespace GamePack

inductive Level
  | error
  | warn
  | info
  | debug
deriving DecidableEq, Repr

namespace Level

def names : List (String × Level) :=
  [("error", error), ("warn", warn), ("info", info), ("debug", debug)]

def label : Level → String
  | error => "ERROR"
  | warn => "WARN"
  | info => "INFO"
  | debug => "DEBUG"

def shownAt (l : Level) (least : Level) : Bool :=
  match least with
  | error => l = error
  | warn => l = error || l = warn
  | info => l ≠ debug
  | debug => true

end Level

structure LogEntry where
  level : Level
  target : String
  message : String
  fields : List (String × String)
deriving DecidableEq, Repr

namespace LogEntry

def render (e : LogEntry) : String :=
  s!"{e.level.label} {e.target}: {e.message}" ++
    String.join (e.fields.map fun (name, value) ↦ s!" {name}={value}")

def lines (e : LogEntry) : List String :=
  (Text.split (· = '\n') e.render.toList).map String.ofList

end LogEntry

def Code.logName (c : Code) : String := (nameIn Code.names c).capitalize

def logOption : Option String → String
  | some id => s!"Some({Text.quote id})"
  | none => "None"

def Finding.log : Finding → LogEntry
  | .issue i => ⟨.debug, "content_core::diagnostics", i.message, [("path", i.path.render)]⟩
  | .warning w => ⟨.warn, "content_core::diagnostics", w.message,
      [("code", w.code.logName), ("path", w.path.render)]⟩

/-- The entry about an event; warnings of known outcomes are not logged again. -/
def Event.log? (e : Event) : Option LogEntry :=
  let entry (level : Level) (message : String) (fields : List (String × String)) :=
    some (LogEntry.mk level "content_core::validation" message fields)
  match e with
  | .found f => some f.log
  | .parsed packId warnings =>
    entry .debug "schema parse complete" [("pack_id", packId), ("warnings", toString warnings)]
  | .referencesChecked packId issues warnings =>
    entry .debug "cross-reference pass complete"
      [("pack_id", packId), ("issues", toString issues), ("warnings", toString warnings)]
  | .cyclesChecked packId issues =>
    entry .debug "cycle passes complete" [("pack_id", packId), ("issues", toString issues)]
  | .rejected packId issues =>
    entry .debug "content pack rejected"
      [("pack_id", logOption packId), ("issues", toString issues)]
  | .frozen packId digest =>
    entry .debug "normalized" [("pack_id", packId), ("digest", digest.render)]
  | .balanceChecked packId warnings errors =>
    entry .debug "balance check complete"
      [("pack_id", packId), ("warnings", toString warnings), ("errors", toString errors)]
  | .balanceWarning i => entry .warn i.message [("code", i.code), ("path", i.path.render)]
  | .accepted packId digest warnings =>
    entry .info "content pack validated"
      [("pack_id", packId), ("digest", digest.render), ("warnings", toString warnings)]
  | .recalled digest => entry .debug "validation cache hit" [("digest", digest.render)]
  | .replayed _ => none

def Report.log (r : Report) : List LogEntry :=
  let failure :=
    match r.run.outcome with
    | .ok _ => []
    | .error e => [⟨.debug, "content_tools::validate", e.message, [("path", r.path)]⟩]
  ⟨.info, "content_tools::validate", s!"Validating content pack: {r.path}", []⟩ ::
    r.run.events.filterMap Event.log? ++ failure

def Files.log (files : Files) (paths : List String) : List LogEntry :=
  paths.filterMap fun path ↦
    match files path with
    | some (.directory _) =>
      some ⟨.debug, "content_tools::load", "scanned directory",
        [("dir", path), ("packs", toString (files.packsAt path).length)]⟩
    | _ => none

end GamePack
