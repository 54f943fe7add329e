import GamePack.Validation

namespace GamePack

structure Report where
  path : String
  packId : Option String
  run : Run

namespace KnownPack

/-- What a document lets others know of its pack, readable or not. -/
def ofDocument? (doc : Json) : Option KnownPack := do
  let metadata ← doc.field? "metadata"
  let requires := ((metadata.at? [.key "dependencies", .key "requires"]).bind Json.items?).getD []
  return {
    id := ← (← metadata.field? "id").str?
    version := ← (← metadata.field? "version").str?
    requires := requires.filterMap fun d ↦ (d.field? "packId").bind Json.str? }

def addTo (known : List KnownPack) (k : KnownPack) : List KnownPack :=
  if known.any (·.id = k.id) then known else known ++ [k]

end KnownPack

def Config.withSiblings (c : Config) (docs : List Json) : Config :=
  { c with knownPacks := (docs.filterMap KnownPack.ofDocument?).foldl KnownPack.addTo c.knownPacks }

namespace Report

def ofDocument (check : Option BalanceCheck) (c : Config) (path : String) (doc : Json) : Report :=
  ⟨path, doc.packId?, validate check c doc⟩

def ofDocuments (check : Option BalanceCheck) (c : Config) (docs : List (String × Json)) :
    List Report :=
  let c := c.withSiblings (docs.map (·.2))
  docs.map fun (path, doc) ↦ ofDocument check c path doc

def digest? (r : Report) : Option Digest :=
  match r.run.outcome with
  | .ok v => some v.pack.digest
  | .error _ => none

def isValid (r : Report) : Bool := r.digest?.isSome

def render (r : Report) : String :=
  match r.run.outcome with
  | .ok v =>
    let name := r.packId.getD r.path
    String.join (v.warnings.map fun w ↦ s!"warning: {w.render}\n") ++
      String.join ((v.balance.warnings ++ v.balance.errors).map fun i ↦
        s!"balance: {i.render}\n") ++
      s!"ok: {name} ({v.pack.digest.render})\n"
  | .error e => s!"error: {e.message}\n"

structure Summary where
  warnings : List Warning
  balance : BalanceReport
  issues : List Issue
  error : Option String

def Summary.ofOutcome : Outcome → Summary
  | .ok v => ⟨v.warnings, v.balance, [], none⟩
  | .error (.unbalanced packId errors) =>
    ⟨[], ⟨[], errors⟩, [], some (Failure.unbalanced packId errors).message⟩
  | .error e => ⟨[], .clean, e.issues, if e.issues.isEmpty then some e.message else none⟩

def summary (r : Report) : Summary := .ofOutcome r.run.outcome

def encode (r : Report) : Json :=
  let s := r.summary
  .obj [("path", .str r.path),
    ("packId", .ofOption .str r.packId),
    ("valid", .bool r.isValid),
    ("digest", .ofOption Digest.encode r.digest?),
    ("warnings", .arr (s.warnings.map Warning.encode)),
    ("balanceWarnings", .arr (s.balance.warnings.map BalanceIssue.encode)),
    ("balanceErrors", .arr (s.balance.errors.map BalanceIssue.encode)),
    ("issues", .arr (s.issues.map Issue.encode)),
    ("error", .ofOption .str s.error)]

def digestLine (r : Report) : String :=
  match r.digest?, r.packId with
  | some digest, some id => s!"{id} {digest.render}\n"
  | _, _ => s!"{r.path} invalid\n"

def digestLines (rs : List Report) : String := String.join (rs.map digestLine)

end Report

end GamePack
