import GamePack.Proofs.Finding
import GamePack.Proofs.Run

namespace GamePack

def Fault.isPackCycle : Fault → Bool
  | packCycle _ => true
  | _ => false

def Issue.tellsPackCycle (i : Issue) : Bool := i.fault.isPackCycle

def Spares (fs : List Finding) : Prop := ∀ f ∈ fs, ∀ i, f.issue? = some i → i.tellsPackCycle = false

namespace Spares

variable {fs gs : List Finding} {path : Path} {cause : Fault}

theorem nil : Spares [] := fun _ h ↦ absurd h List.not_mem_nil

theorem append (h : Spares fs) (h' : Spares gs) : Spares (fs ++ gs) :=
  List.forall_mem_append.2 ⟨h, h'⟩

theorem flatMap {α : Type} {items : List α} {f : α → List Finding} (h : ∀ a, Spares (f a)) :
    Spares (items.flatMap f) := by
  intro x hx
  obtain ⟨a, -, ha⟩ := List.mem_flatMap.1 hx
  exact h a x ha

theorem each {α : Type} {items : List α} {f : Path → α → List Finding}
    (h : ∀ path a, Spares (f path a)) :
    Spares (path.each items f) := flatMap fun _ ↦ h _ _

theorem fault (h : cause.isPackCycle = false) : Spares [.fault path cause] := by
  intro f hf i hi
  obtain rfl := List.mem_singleton.1 hf
  obtain rfl := Option.some_inj.1 hi
  exact h

theorem notice {n : Notice} : Spares [.notice path n] := by
  intro f hf i hi
  obtain rfl := List.mem_singleton.1 hf
  cases hi

theorem report {severity : Severity} {n : Notice} : Spares [.report severity path n] := by
  cases severity with
  | error => exact fault rfl
  | warning => exact notice

theorem ensure {holds : Bool} (h : cause.isPackCycle = false) :
    Spares (Finding.ensure holds path cause) := by
  cases holds with
  | true => exact nil
  | false => exact .fault h

theorem map {α : Type} {items : List α} {f : α → Finding} (h : ∀ a, Spares [f a]) :
    Spares (items.map f) := by
  rw [← List.flatMap_singleton' (items.map f), List.flatMap_map]
  exact flatMap h

theorem issuesOf (h : Spares fs) : ∀ i ∈ issuesOf fs, i.tellsPackCycle = false := by
  intro i hi
  obtain ⟨f, hf, hfi⟩ := List.mem_filterMap.1 hi
  exact h f hf i hfi

end Spares

namespace Structure

theorem spares_parses {α : Type} (r : Except VersionError α) (path : Path) :
    Spares (parses r path) := by
  cases r with
  | ok a => exact .nil
  | error e => exact .fault rfl

theorem spares_dependency (path : Path) (d : Dependency) : Spares (dependency path d) := by
  refine .append (.ensure rfl) ?_
  cases d.version with
  | none => exact .nil
  | some range => exact spares_parses _ _

theorem spares_metadata (m : Metadata) : Spares (metadata m) :=
  .append (.append
    (.append (.append (.append (.ensure rfl) (spares_parses _ _)) (spares_parses _ _))
    (.each spares_dependency)) (.each spares_dependency)) (.each spares_dependency)

theorem spares_ids (p : Pack) (kind : Kind) : Spares (ids p kind) :=
  .flatMap fun _ ↦ .append (.ensure rfl) (.ensure rfl)

theorem spares_resource (path : Path) (r : Resource) : Spares (resource path r) :=
  .append (.ensure rfl) (.ensure rfl)

theorem spares_automation (path : Path) (a : Automation) : Spares (automation path a) := by
  rw [automation]
  split <;> exact .ensure rfl

theorem spares_transform (path : Path) (t : Transform) : Spares (transform path t) := by
  refine .append (.ensure rfl) ?_
  split <;> exact .ensure rfl

theorem spares_entity (path : Path) (e : Entity) : Spares (entity path e) :=
  .flatMap fun _ ↦ .ensure rfl

theorem spares_locales (m : Metadata) (path : Path) (text : DisplayText) :
    Spares (locales m path text) :=
  .map fun _ ↦ .notice

theorem spares_optionalLocales (m : Metadata) (path : Path) (text : Option DisplayText) :
    Spares (optionalLocales m path text) := by
  cases text with
  | none => exact .nil
  | some text => exact spares_locales m path text

theorem spares_check (p : Pack) : Spares (check p) := by
  have hnames : Spares (Kind.all.flatMap (names p)) :=
    .flatMap fun _ ↦ .each fun _ _ ↦ spares_optionalLocales _ _ _
  have hentries : Spares (metadata p.metadata ++ Kind.all.flatMap (ids p) ++
      Path.each [.key "resources"] p.resources resource ++
      Path.each [.key "automations"] p.automations automation ++
      Path.each [.key "transforms"] p.transforms transform ++
      Path.each [.key "entities"] p.entities entity) :=
    .append (.append (.append (.append (.append (spares_metadata _) (.flatMap (spares_ids p)))
      (.each spares_resource)) (.each spares_automation)) (.each spares_transform))
        (.each spares_entity)
  exact .append (.append (.append hentries (spares_locales _ _ _))
    (spares_optionalLocales _ _ _)) hnames

end Structure

namespace Pack

theorem spares_error? {α : Type} {d : ∀ n, Decoder n α} {path : Path} {v : Json} :
    Spares (error? (readAt d path v)).toList := by
  rw [readAt]
  cases Decode.run d v with
  | ok a => exact .nil
  | error e => exact .fault rfl

theorem spares_unread (fields : List (String × Json)) : Spares (unread fields) := by
  refine .append (.append (.map fun _ ↦ .fault rfl) ?_) (.flatMap fun kind ↦ ?_)
  · unfold readMetadata
    split
    · exact .fault rfl
    · exact spares_error?
  · rw [List.filterMap_eq_flatMap_toList]
    unfold readCollection
    split
    · exact .nil
    · rw [List.flatMap_map]
      exact .flatMap fun _ ↦ spares_error?
    · exact .fault rfl

theorem spares_parse (doc : Json) : Spares (parse doc).2 := by
  cases hparse : (parse doc).1 with
  | some p =>
    rw [check_of_parse hparse]
    exact Structure.spares_check p
  | none =>
    cases doc with
    | obj fields =>
      obtain ⟨-, hsome⟩ | ⟨-, hnone⟩ := parse_obj fields
      · rw [hparse] at hsome
        cases hsome
      · rw [hnone]
        exact spares_unread fields
    | _ => exact .fault rfl

variable (p : Pack)

theorem spares_checkEngine (runtime : Version) : Spares (p.checkEngine runtime) := by
  unfold checkEngine
  split
  · exact .ensure rfl
  · exact .nil

theorem spares_checkGate (runtime : Version) (path : Path) (g : FeatureGate) :
    Spares (p.checkGate runtime path g) := by
  unfold checkGate
  split
  · exact .nil
  · split
    · exact .fault rfl
    · split
      · exact .report
      · exact .nil

theorem spares_checkCompatibility (c : Config) : Spares (p.checkCompatibility c) := by
  unfold checkCompatibility
  split
  · exact .nil
  · split
    · exact .fault rfl
    · exact .append (p.spares_checkEngine _) (.each (p.spares_checkGate _))

end Pack

theorem Allowlist.spares_check (a : Option Allowlist) (category : Category) (id : String)
    (path : Path) : Spares (check a category id path) := by
  cases a with
  | none => exact .nil
  | some a =>
    rw [check]
    split
    · exact .nil
    · rw [miss]
      split
      · exact .notice
      · exact .fault rfl

theorem Scope.spares_resolve (s : Scope) (m : Mention) : Spares (s.resolve m) := by
  unfold resolve
  split
  case h_2 => exact Allowlist.spares_check _ _ _ _
  case h_3 =>
    split
    · exact .nil
    · exact .report
  case h_4 =>
    split
    · exact .nil
    · exact .ensure rfl
  all_goals exact .ensure rfl

theorem Scope.spares_check (s : Scope) : Spares s.check := .flatMap s.spares_resolve

theorem Allowlists.spares_normalizeOne (specs : AllowlistSpecs) (category : Category) :
    Spares (normalizeOne specs category).1 := by
  unfold normalizeOne
  cases specs.get category with
  | none => exact .nil
  | some spec =>
    dsimp only
    rw [AllowlistSpec.normalize]
    cases spec.invalid with
    | nil => exact .map fun _ ↦ .notice
    | cons entry rest => exact .nil

theorem Allowlists.spares_normalize (specs : AllowlistSpecs) : Spares (normalize specs).1 := by
  have hflags := spares_normalizeOne specs .flags
  have hscripts := spares_normalizeOne specs .scripts
  have htargets := spares_normalizeOne specs .systemTargets
  unfold normalize
  split
  · rename_i heq
    rwa [heq] at hflags
  · rename_i heq
    rw [heq] at hflags
    split
    · rename_i heq
      rw [heq] at hscripts
      exact .append hflags hscripts
    · rename_i heq
      rw [heq] at hscripts
      split
      all_goals
        rename_i heq
        rw [heq] at htargets
        exact .append (.append hflags hscripts) htargets

namespace Dependency

variable (known : List KnownPack) (path : Path) (d : Dependency)

theorem isPackCycle_of_mismatch? {k : KnownPack} {cause : Fault} (h : d.mismatch? k = some cause) :
    cause.isPackCycle = false := by
  unfold mismatch? at h
  split at h
  · split at h
    · split at h
      · cases h
      · obtain rfl := Option.some_inj.1 h
        rfl
    · obtain rfl := Option.some_inj.1 h
      rfl
  · cases h

theorem spares_checkRequired : Spares (checkRequired known path d) := by
  unfold checkRequired
  split
  · rename_i k _
    cases hcause : d.mismatch? k with
    | none => exact .nil
    | some cause => exact .fault (isPackCycle_of_mismatch? d hcause)
  · split
    · exact .nil
    · exact .notice

theorem spares_checkConflict (active : List String) :
    Spares (checkConflict known active path d) := by
  unfold checkConflict
  dsimp only
  split
  · exact .fault rfl
  · exact .nil

end Dependency

namespace Metadata

variable (m : Metadata)

def checkSelf : List Finding :=
  m.selfDependencies "requires" m.dependencies.requires ++
    m.selfDependencies "optional" m.dependencies.optional ++
    m.selfDependencies "conflicts" m.dependencies.conflicts

/-- The findings about other packs, as far as these are known. -/
def checkOthers (known : List KnownPack) (active : List String) : List Finding :=
  (dependencyPath.key "requires").each m.dependencies.requires (fun path d ↦
      if d.packId = m.id then [] else d.checkRequired known path) ++
    (dependencyPath.key "conflicts").each m.dependencies.conflicts fun path d ↦
      if d.packId = m.id then [] else d.checkConflict known active path

theorem checkDependencies_eq (known : List KnownPack) (active : List String) :
    m.checkDependencies known active = m.checkSelf ++ m.dependencyCycles known ++
      m.checkOthers known active := by
  rw [checkOthers, ← List.append_assoc]
  rfl

theorem spares_checkSelf : Spares m.checkSelf := by
  have hfield (field : String) (entries : List Dependency) :
      Spares (m.selfDependencies field entries) :=
    .each fun _ _ ↦ .ensure rfl
  exact .append (.append (hfield _ _) (hfield _ _)) (hfield _ _)

theorem spares_checkOthers (known : List KnownPack) (active : List String) :
    Spares (m.checkOthers known active) := by
  refine .append (.each fun path d ↦ ?_) (.each fun path d ↦ ?_)
  · split
    · exact .nil
    · exact d.spares_checkRequired known path
  · split
    · exact .nil
    · exact d.spares_checkConflict known path active

end Metadata

namespace Pack

variable (p : Pack)

def checksBefore (allowlists : Allowlists) (c : Config) : List Finding :=
  p.checkReferences allowlists c ++ (p.checkTransforms ++ p.checkUnlocks ++ p.metadata.checkSelf)

theorem checks_eq (allowlists : Allowlists) (c : Config) :
    p.checks allowlists c =
      p.checksBefore allowlists c ++ p.metadata.dependencyCycles c.knownPacks ++
      p.metadata.checkOthers c.knownPacks c.activePackIds := by
  rw [checks, checkCycles, Metadata.checkDependencies_eq, checksBefore]
  simp only [List.append_assoc]

theorem spares_checksBefore (allowlists : Allowlists) (c : Config) :
    Spares (p.checksBefore allowlists c) := by
  have hreferences : Spares (p.checkReferences allowlists c) :=
    .append (p.spares_checkCompatibility c) (Scope.spares_check _)
  have hcycles : Spares (p.checkTransforms ++ p.checkUnlocks) :=
    .append (.map fun _ ↦ .fault rfl) (.map fun _ ↦ .fault rfl)
  exact .append hreferences (.append hcycles p.metadata.spares_checkSelf)

theorem hasIssues_checkCycles_of_acyclic {p : Pack} {c : Config}
    (htransforms : p.transformGraph.cycles (p.ids .transform) .first = [])
    (hunlocks : p.unlockGraph.cycles p.unlockNodes .first = [])
    (hpacks : (p.metadata.dependencyGraph c.knownPacks).cycles
      (p.metadata.id :: c.knownPacks.map (·.id)) .first = [])
    (hself : hasIssues p.metadata.checkSelf = false)
    (hothers : hasIssues (p.metadata.checkOthers c.knownPacks c.activePackIds) = false) :
    hasIssues (p.checkCycles c) = false := by
  rw [checkCycles, Metadata.checkDependencies_eq]
  simp only [hasIssues_append]
  exact ⟨⟨hasIssues_map_fault.2 htransforms, hasIssues_map_fault.2 hunlocks⟩,
    ⟨hself, hasIssues_map_fault.2 hpacks⟩, hothers⟩

end Pack

end GamePack
