import GamePack.Validation

namespace GamePack

namespace Failure

def issuePaths (f : Failure) : List String := f.issues.map (·.path.render)

end Failure

namespace Outcome

def expectFailure : Outcome → Except String Failure
  | .ok v => .error (s!"expected validation to fail, but pack '{v.pack.id}' validated with " ++
      s!"{v.warnings.length} warning(s)")
  | .error f => .ok f

def expectSuccess : Outcome → Except String Validated
  | .ok v => .ok v
  | .error f => .error s!"expected validation to succeed:\n{f.message}"

def singleIssue? (path : String) : Outcome → Option Issue
  | .ok _ => none
  | .error f => if f.issuePaths = [path] then f.issues.head? else none

end Outcome

end GamePack
