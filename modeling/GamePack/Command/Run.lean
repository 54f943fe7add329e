import GamePack.Command.Arguments
import GamePack.Log

namespace GamePack

structure CommandResult where
  code : Nat
  output : String
  log : List LogEntry

namespace CommandResult

def failure (log : List LogEntry) (message : String) : CommandResult :=
  ⟨1, "", log ++ [⟨.error, "content_tools", message, []⟩]⟩

def logLines (r : CommandResult) (least : Level) : List String :=
  (r.log.filter (·.level.shownAt least)).flatMap LogEntry.lines

end CommandResult

def exitCode (reports : List Report) : Nat := if reports.all Report.isValid then 0 else 1

def Arguments.adjust (a : Arguments) (c : Config) : Config :=
  { c with
    runtimeVersion := a.runtimeVersion.or c.runtimeVersion
    unknownEventSeverity := if a.strictEvents then some .error else c.unknownEventSeverity }

namespace Files

variable (files : Files)

def settings (a : Arguments) : Except LoadError Config :=
  match a.options with
  | none => .ok .initial
  | some path => files.loadConfig path

def withReports (c : Config) (packs : List String)
    (finish : List LogEntry → List Report → CommandResult) : CommandResult :=
  let scans := files.log packs
  match files.loadAll packs with
  | .error e => .failure scans e.message
  | .ok docs =>
    let reports := Report.ofDocuments none c docs
    finish (scans ++ reports.flatMap Report.log) reports

def verdict (reports : List Report) : LogEntry :=
  let failed := reports.countP fun r ↦ !r.isValid
  if failed = 0 then
    ⟨.info, "content_tools", s!"Validation passed ({reports.length} pack(s))", []⟩
  else
    ⟨.error, "content_tools", s!"Validation failed: {failed} of {reports.length} pack(s)", []⟩

def printed (json : Bool) (r : Report) : String :=
  if json then r.encode.compact ++ "\n" else r.render

def runValidate (a : Arguments) : CommandResult :=
  match files.settings a with
  | .error e => .failure [] s!"Failed to load options: {e.message}"
  | .ok c =>
    files.withReports (a.adjust c) a.packs fun log reports ↦
      ⟨exitCode reports, String.join (reports.map (printed a.json)), log ++ [verdict reports]⟩

def runDigest (packs : List String) : CommandResult :=
  files.withReports .initial packs fun log reports ↦
    ⟨exitCode reports, Report.digestLines reports, log⟩

end Files

namespace Command

def usage : String :=
  "Usage:\n" ++
    "  validate PACKS... [--options FILE] [--runtime-version VERSION] [--strict-events] [--json]\n" ++
    "  digest PACKS...\n"

def run (files : Files) : Command → CommandResult
  | validate a => files.runValidate a
  | digest packs => files.runDigest packs

/-- Runs the program on its arguments. Misuse has a code of its own and prints nothing. -/
def runArgs (files : Files) (args : List String) : CommandResult :=
  match ofArgs args with
  | .ok command => command.run files
  | .error .help => ⟨0, usage, []⟩
  | .error .misuse => ⟨2, "", []⟩

end Command

end GamePack
