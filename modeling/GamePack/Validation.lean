import GamePack.Balance
import GamePack.Compatibility
import GamePack.Graph.Dependency
import GamePack.Graph.Transform
import GamePack.Graph.Unlock
import GamePack.Parse
import GamePack.Reference.Resolve

namespace GamePack

inductive Failure
  | rejected (packId : Option String) (issues : List Issue)
  | unbalanced (packId : String) (errors : List BalanceIssue)
  | badAllowlist (error : AllowlistError)
deriving Repr

/-- A pack that passed. Balance errors pass only where the settings make them advice. -/
structure Validated where
  pack : FrozenPack
  warnings : List Warning
  balance : BalanceReport

abbrev Outcome := Except Failure Validated

/-- What happens in a run. The counts are of findings so far. -/
inductive Event
  | found (finding : Finding)
  | parsed (packId : String) (warnings : Nat)
  | referencesChecked (packId : String) (issues warnings : Nat)
  | cyclesChecked (packId : String) (issues : Nat)
  | rejected (packId : Option String) (issues : Nat)
  | frozen (packId : String) (digest : Digest)
  | balanceChecked (packId : String) (warnings errors : Nat)
  | balanceWarning (issue : BalanceIssue)
  | accepted (packId : String) (digest : Digest) (warnings : Nat)
  | recalled (digest : Digest)
  | replayed (warning : Warning)
deriving Repr

structure Run where
  events : List Event
  outcome : Outcome

namespace Failure

def issues : Failure → List Issue
  | rejected _ issues => issues
  | _ => []

def message : Failure → String
  | rejected packId issues =>
    let subject :=
      match packId with
      | some id => s!"content pack '{id}'"
      | none => "content pack"
    s!"{subject} failed validation with {issues.length} issue(s)" ++
      String.join (issues.map fun i ↦ "\n  " ++ i.render)
  | unbalanced packId errors =>
    s!"content pack '{packId}' failed balance validation with {errors.length} error(s)"
  | badAllowlist error => error.message

end Failure

namespace Event

def streamed? : Event → Option Warning
  | found f => f.warning?
  | replayed w => some w
  | _ => none

def isBalanceCheck : Event → Bool
  | balanceChecked .. => true
  | _ => false

end Event

namespace Run

def streamed (r : Run) : List Warning := r.events.filterMap Event.streamed?

def balanceChecks (r : Run) : Nat := r.events.countP Event.isBalanceCheck

def after (events : List Event) (r : Run) : Run := ⟨events ++ r.events, r.outcome⟩

def reject (packId : Option String) (findings : List Finding) : Run :=
  let issues := issuesOf findings
  ⟨[.rejected packId issues.length], .error (.rejected packId issues)⟩

def accept (p : FrozenPack) (warnings : List Warning) (balance : BalanceReport) : Run :=
  ⟨[.accepted p.id p.digest warnings.length], .ok ⟨p, warnings, balance⟩⟩

end Run

namespace FrozenPack

def weigh (check : Option BalanceCheck) (settings : BalanceSettings) (p : FrozenPack)
    (warnings : List Warning) : Run :=
  match check with
  | none => .accept p warnings .clean
  | some check =>
    if !settings.enabled then .accept p warnings .clean
    else
      let report := check p settings.config
      let events := .balanceChecked p.id report.warnings.length report.errors.length ::
        report.warnings.map Event.balanceWarning
      if !report.errors.isEmpty && !settings.warnOnly then
        ⟨events, .error (.unbalanced p.id report.errors)⟩
      else (Run.accept p warnings report).after events

end FrozenPack

namespace Pack

def checkReferences (p : Pack) (allowlists : Allowlists) (c : Config) : List Finding :=
  p.checkCompatibility c ++ (Scope.ofConfig p allowlists c).check

def checkCycles (p : Pack) (c : Config) : List Finding :=
  p.checkTransforms ++ p.checkUnlocks ++
    p.metadata.checkDependencies c.knownPacks c.activePackIds

def validate (p : Pack) (check : Option BalanceCheck) (c : Config) (allowlists : Allowlists)
    (before : List Finding) : Run :=
  let references := p.checkReferences allowlists c
  let cycles := p.checkCycles c
  let half := before ++ references
  let all := half ++ cycles
  let events := .parsed p.id (warningsOf before).length ::
    references.map Event.found ++
    .referencesChecked p.id (issuesOf half).length (warningsOf half).length ::
    cycles.map Event.found ++
    [.cyclesChecked p.id (issuesOf all).length]
  if hasIssues all then (Run.reject p.id all).after events
  else
    let frozen := FrozenPack.ofPack p
    (frozen.weigh check c.balance (warningsOf all)).after
      (events ++ [.frozen frozen.id frozen.digest])

end Pack

def Json.validate (doc : Json) (check : Option BalanceCheck) (c : Config) (allowlists : Allowlists)
    (before : List Finding) : Run :=
  let (pack, findings) := Pack.parse doc
  let known := before ++ findings
  let rest : Run :=
    match pack with
    | some p =>
      if hasIssues known then .reject doc.packId? known
      else p.validate check c allowlists known
    | none => .reject doc.packId? known
  rest.after (findings.map Event.found)

/-- A run passes through reading, references and cycles. Findings add up; a pack without an issue is
frozen and then checked for balance. -/
def validate (check : Option BalanceCheck) (c : Config) (doc : Json) : Run :=
  let (dropped, allowlists) := Allowlists.normalize c.allowlists
  let rest : Run :=
    match allowlists with
    | .error e => ⟨[], .error (.badAllowlist e)⟩
    | .ok allowlists => doc.validate check c allowlists dropped
  rest.after (dropped.map Event.found)

end GamePack
