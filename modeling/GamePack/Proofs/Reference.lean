import GamePack.Proofs.Dict
import GamePack.Proofs.Schema.Mentions
import GamePack.Reference.Resolve

namespace GamePack

def Pack.lastEntity? (p : Pack) (id : String) : Option Entity :=
  p.entities.reverse.find? (·.id = id)

namespace Reference

/-- Whether what is named is missing, or is there although it must not be. -/
def offends (p : Pack) (allowlists : Allowlists) (catalogue : List String) : Reference → Bool
  | entry kind id => id ∉ p.ids kind
  | outside category id =>
    (allowlists category).any fun a ↦ id ∉ a.required.toList ∧ id ∉ a.soft.toList
  | event id => id ∉ catalogue ∧ id ∉ p.ids .runtimeEvent
  | statOf entity stat => (p.lastEntity? entity).any fun e ↦ stat ∉ e.stats.map (·.id)
  | ownStat _ stats stat => stat ∉ stats
  | companion layer => layer ++ "-prestige-count" ∉ p.ids .resource
  | declaration id => id ∈ catalogue

/-- A missing id is a mere warning if its category has an allowlist that demands nothing and
advises something. -/
def isAdvice (allowlists : Allowlists) (category : Category) : Bool :=
  (allowlists category).any fun a ↦ a.required.toList = [] ∧ a.soft.toList ≠ []

def eventSeverity (c : Config) : Severity :=
  match c.unknownEventSeverity, c.eventCatalogue with
  | some severity, _ => severity
  | none, [] => .warning
  | none, _ :: _ => .error

def finding (allowlists : Allowlists) (c : Config) (place : Path) : Reference → Finding
  | entry kind id => .issue ⟨place, .unknownEntry kind id⟩
  | outside category id =>
    if isAdvice allowlists category then .warning ⟨place, .softMiss category id⟩
    else .issue ⟨place, .notAllowed category id⟩
  | event id =>
    match eventSeverity c with
    | .error => .issue ⟨place, .escalated (.unknownEvent id)⟩
    | .warning => .warning ⟨place, .unknownEvent id⟩
  | statOf entity stat => .issue ⟨place, .unknownStat entity stat⟩
  | ownStat entity _ stat => .issue ⟨place, .unknownStat entity stat⟩
  | companion layer => .issue ⟨place, .missingCompanion layer (layer ++ "-prestige-count")⟩
  | declaration id => .issue ⟨place, .eventCollision id⟩

end Reference

namespace Scope

variable {p : Pack} {allowlists : Allowlists} {c : Config} {path : Path}

theorem stat?_isSome (e : Entity) (stat : String) :
    (e.stat? stat).isSome ↔ stat ∈ e.stats.map (·.id) := by
  simp [Entity.stat?]

theorem ensure_of_iff {holds offends : Bool} (h : holds = true ↔ ¬ offends = true) (f : Fault) :
    Finding.ensure holds path f = if offends then [.issue ⟨path, f⟩] else [] := by
  cases offends with
  | false => rw [Finding.ensure, if_pos (h.2 Bool.false_ne_true), if_neg Bool.false_ne_true]
  | true =>
    rw [Finding.ensure, if_neg fun hh ↦ h.1 hh rfl, if_pos rfl]
    rfl

theorem check_allowlist (category : Category) (id : String) :
    Allowlist.check (allowlists category) category id path =
      if (Reference.outside category id).offends p allowlists c.eventCatalogue then
        [(Reference.outside category id).finding allowlists c path] else [] := by
  rw [Reference.offends, Reference.finding, Reference.isAdvice]
  cases allowlists category with
  | none => rfl
  | some a =>
    have hcontains : a.contains id = true ↔ id ∈ a.required.toList ∨ id ∈ a.soft.toList := by
      rw [Allowlist.contains, Bool.or_eq_true, IdSet.contains_iff, IdSet.contains_iff]
    have hadvisory : a.isAdvisory = true ↔ a.required.toList = [] ∧ a.soft.toList ≠ [] := by
      rw [Allowlist.isAdvisory, Bool.and_eq_true, Bool.not_eq_true', Bool.eq_false_iff, ne_eq,
        IdSet.isEmpty_iff, IdSet.isEmpty_iff, and_comm]
    simp only [Allowlist.check, Allowlist.miss, hcontains, hadvisory, Option.any_some,
      decide_eq_true_eq]
    by_cases h : id ∈ a.required.toList ∨ id ∈ a.soft.toList
    · rw [if_pos h, if_neg (not_and_or.2 (h.imp not_not_intro not_not_intro))]
    · rw [if_neg h, if_pos (not_or.1 h)]
      rfl

theorem check_stat (entity stat : String) :
    (ofConfig p allowlists c).resolve ⟨path, .statOf entity stat⟩ =
      if (Reference.statOf entity stat).offends p allowlists c.eventCatalogue then
        [(Reference.statOf entity stat).finding allowlists c path] else [] := by
  have hfind : ((ofConfig p allowlists c).pack.index .entity).item? entity = p.lastEntity? entity :=
    Index.item?_ofList _ _ _
  rw [resolve, Reference.offends]
  simp only [hfind]
  generalize (p.lastEntity? entity : Option Entity) = found
  cases found with
  | none => rfl
  | some e =>
    refine ensure_of_iff ?_ (.unknownStat entity stat)
    rw [stat?_isSome]
    simp

theorem eventSeverity_eq (c : Config) : c.eventSeverity = Reference.eventSeverity c := by
  rw [Config.eventSeverity, Reference.eventSeverity]
  cases c.unknownEventSeverity <;> cases c.eventCatalogue <;> rfl

/-- Each mention is resolved on its own: an offending one gives its finding, any other none. -/
theorem resolve_ofConfig (p : Pack) (allowlists : Allowlists) (c : Config) (m : Mention) :
    (ofConfig p allowlists c).resolve m =
      if m.occurrence.reference.offends p allowlists c.eventCatalogue then
        [m.occurrence.reference.finding allowlists c m.occurrence.place]
      else [] := by
  obtain ⟨path, s⟩ := m
  cases s with
  | entry kind id =>
    refine ensure_of_iff ?_ (.unknownEntry kind id)
    rw [decide_eq_true_iff]
    simp [Reference.offends, Pack.Has, ofConfig, Subject.reference]
  | outside category id => exact check_allowlist category id
  | event id =>
    have hknows : (ofConfig p allowlists c).knowsEvent id = true ↔
        id ∈ c.eventCatalogue ∨ id ∈ p.ids .runtimeEvent := by
      simp [knowsEvent, ofConfig]
    have hseverity : (ofConfig p allowlists c).eventSeverity = Reference.eventSeverity c :=
      eventSeverity_eq c
    simp only [resolve, hknows, hseverity, occurrence_mk, Subject.reference, Reference.offends,
      Reference.finding, decide_eq_true_eq]
    by_cases h : id ∈ c.eventCatalogue ∨ id ∈ p.ids .runtimeEvent
    · rw [if_pos h, if_neg (not_and_or.2 (h.imp not_not_intro not_not_intro))]
    · rw [if_neg h, if_pos (not_or.1 h)]
      cases Reference.eventSeverity c <;> rfl
  | statOf entity stat => exact check_stat entity stat
  | ownStat e stat =>
    refine ensure_of_iff ?_ (.unknownStat e.id stat)
    rw [stat?_isSome]
    simp [Reference.offends, Subject.reference]
  | companion layer =>
    refine ensure_of_iff ?_ (.missingCompanion layer.id layer.countResource)
    rw [decide_eq_true_iff]
    simp [Reference.offends, Pack.Has, ofConfig, Subject.reference, PrestigeLayer.countResource,
      Id.prestigeCount]
  | declaration id =>
    exact ensure_of_iff (by simp [Reference.offends, ofConfig, Subject.reference]) _

theorem flatMap_resolve (p : Pack) (allowlists : Allowlists) (c : Config)
    (mentions : List Mention) :
    mentions.flatMap (ofConfig p allowlists c).resolve =
      ((occurrencesOf mentions).filter (·.reference.offends p allowlists c.eventCatalogue)).map
        fun o ↦ o.reference.finding allowlists c o.place := by
  induction mentions with
  | nil => rfl
  | cons m rest ih =>
    rw [List.flatMap_cons, ih, resolve_ofConfig, occurrencesOf_cons, List.filter_cons]
    split
    · rw [List.map_cons, List.singleton_append]
    · rw [List.nil_append]

/-- Every offending occurrence gives exactly one finding, and there is no other finding. -/
theorem check_perm_offences (p : Pack) (allowlists : Allowlists) (c : Config) :
    (ofConfig p allowlists c).check.Perm
      ((p.encode.occurrences.filter (·.reference.offends p allowlists c.eventCatalogue)).map
        fun o ↦ o.reference.finding allowlists c o.place) := by
  have hcheck :
      (ofConfig p allowlists c).check = p.mentions.flatMap (ofConfig p allowlists c).resolve := rfl
  rw [hcheck, flatMap_resolve]
  exact (p.occurrences_encode.symm.filter _).map _

end Scope

end GamePack
