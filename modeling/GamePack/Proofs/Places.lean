import GamePack.Parse
import GamePack.Proofs.Reference
import GamePack.Proofs.Schema.Places
import GamePack.Sample.Pieces

namespace GamePack

theorem Reference.path_finding (r : Reference) (allowlists : Allowlists) (c : Config)
    (place : Path) :
    (r.finding allowlists c place).path = place := by
  cases r with
  | outside => rw [finding]; split <;> rfl
  | event => rw [finding]; split <;> rfl
  | _ => rfl

namespace Scope

theorem exists_mention_of_mem_check {p : Pack} {allowlists : Allowlists} {c : Config} {f : Finding}
    (h : f ∈ (ofConfig p allowlists c).check) : ∃ m ∈ p.mentions,
      m.subject.reference.offends p allowlists c.eventCatalogue ∧
        f = m.subject.reference.finding allowlists c m.path := by
  obtain ⟨m, hm, hf⟩ := List.mem_flatMap.1 h
  rw [resolve_ofConfig] at hf
  split at hf
  · rename_i hoffends
    exact ⟨m, hm, hoffends, List.mem_singleton.1 hf⟩
  · cases hf

/-- Every finding is the one about something that offends, which stands at the path of the finding
in the serialized pack. -/
theorem check_places (p : Pack) (allowlists : Allowlists) (c : Config) :
    ∀ f ∈ (ofConfig p allowlists c).check, ∃ r : Reference,
      r.offends p allowlists c.eventCatalogue ∧
      f = r.finding allowlists c f.path ∧ r.StandsAt p.encode f.path := by
  intro f hf
  obtain ⟨m, hm, hoffends, rfl⟩ := exists_mention_of_mem_check hf
  rw [Reference.path_finding]
  exact ⟨m.subject.reference, hoffends, rfl, p.standsIn_mentions m hm⟩

end Scope

namespace Sample

def dangling : Json := .obj
  [("entities", .arr
      [.obj
        [("id", .str "p.scout"),
          ("name", .str "Scout"),
          ("progression", .obj
            [("levelFormula", constant .one), ("statGrowth", .obj [("speed", constant .one)])])]]),
    ("metadata", metadata "p" "1.0.0" "P"),
    ("resources", .arr
      [.obj
        [("id", .str "p.gem"),
          ("name", .str "Gem"),
          ("unlockCondition", .obj
            [("conditions", .arr [.obj
                [("amount", entryRef "generator" "p.mine"),
                  ("kind", .str "resourceThreshold"),
                  ("resourceId", .str "p.ore")]]),
              ("kind", .str "allOf")])]])]

end Sample

namespace Scope

theorem places_dangling : ∃ p, (Pack.parse Sample.dangling).1 = some p ∧
    let findings := (ofConfig p (fun _ ↦ none) .initial).check
    findings.length = 3 ∧ ∀ f ∈ findings, ∃ r : Reference, r.offends p (fun _ ↦ none) [] ∧
      f = r.finding (fun _ ↦ none) .initial f.path ∧ r.StandsAt p.encode f.path := by
  let p := (Pack.parse Sample.dangling).1.get (by decide +kernel)
  have hlength : (ofConfig p (fun _ ↦ none) .initial).check.length = 3 := by decide +kernel
  exact ⟨p, (Option.some_get _).symm, hlength, check_places p (fun _ ↦ none) .initial⟩

end Scope

end GamePack
