import GamePack.Proofs.Finding
import GamePack.Proofs.Id
import GamePack.Proofs.Parse
import GamePack.Sample.Packs
import Mathlib.Data.List.Nodup
import Mathlib.Data.Finset.Card

namespace GamePack

section Repetition

variable {ids : List String} {id : String} {i : Nat}

theorem idxOf_le_of_getElem? (h : ids[i]? = some id) : ids.idxOf id ≤ i := by
  obtain ⟨hi, rfl⟩ := List.getElem?_eq_some_iff.1 h
  have hmem : ids[i] ∈ ids.take (i + 1) := List.mem_take_iff_getElem.2 ⟨i, by omega, rfl⟩
  exact Nat.le_of_lt_succ ((List.mem_take_iff_idxOf_lt (List.getElem_mem hi)).1 hmem)

theorem forall_getElem?_iff {α : Type} {items : List α} {P : α → Prop} :
    (∀ (i : Nat) a, items[i]? = some a → P a) ↔ ∀ a ∈ items, P a := by
  simp only [List.mem_iff_getElem?, forall_exists_index]
  exact forall_comm

theorem forall_le_idxOf_iff_nodup : (∀ i id, ids[i]? = some id → i ≤ ids.idxOf id) ↔ ids.Nodup := by
  constructor
  · intro h
    rw [List.Nodup, List.pairwise_iff_getElem]
    intro i j hi hj hij heq
    have hle := h j ids[j] (List.getElem?_eq_getElem hj)
    have hearlier : ids.idxOf ids[j] ≤ i := idxOf_le_of_getElem? (heq ▸ List.getElem?_eq_getElem hi)
    omega
  · intro h i id hi
    obtain ⟨hlt, rfl⟩ := List.getElem?_eq_some_iff.1 hi
    exact (h.idxOf_getElem i hlt).ge

/-- The positions at which something is repeated and the distinct things are as many
as all positions. -/
theorem countP_repeated_add_card (ids : List String) :
    ids.zipIdx.countP (fun x ↦ !decide (x.2 ≤ ids.idxOf x.1)) + ids.toFinset.card = ids.length := by
  induction ids using List.reverseRecOn with
  | nil => rfl
  | append_singleton ids id ih =>
    have hbefore : ids.zipIdx.countP (fun x ↦ !decide (x.2 ≤ (ids ++ [id]).idxOf x.1)) =
        ids.zipIdx.countP fun x ↦ !decide (x.2 ≤ ids.idxOf x.1) :=
      List.countP_congr fun x hx ↦ by
        rw [List.idxOf_append_of_mem (List.fst_mem_of_mem_zipIdx hx)]
    have hset : (ids ++ [id]).toFinset = insert id ids.toFinset := by
      rw [List.toFinset_append, Finset.union_comm]
      rfl
    rw [List.zipIdx_append, List.countP_append, hbefore, hset, List.length_append,
      List.zipIdx_singleton, List.countP_singleton, List.length_singleton]
    by_cases hmem : id ∈ ids
    · have hlt : (ids ++ [id]).idxOf id < ids.length := by
        rw [List.idxOf_append_of_mem hmem]
        exact List.idxOf_lt_length_of_mem hmem
      rw [Finset.insert_eq_of_mem (List.mem_toFinset.2 hmem), if_pos (by simpa using hlt)]
      omega
    · have hle : ids.length ≤ (ids ++ [id]).idxOf id := by
        rw [List.idxOf_append_of_notMem hmem]
        exact Nat.le_add_right ..
      rw [Finset.card_insert_of_notMem (mt List.mem_toFinset.1 hmem), if_neg (by simpa using hle)]
      omega

end Repetition

structure Dependency.WellFormed (d : Dependency) : Prop where
  shaped : Id.Shaped d.packId
  ranged : ∀ text, d.version = some text → ∃ r, VersionRange.parse text = .ok r

structure Metadata.WellFormed (m : Metadata) : Prop where
  shaped : Id.Shaped m.id
  versioned : ∃ v, Version.parse m.version = .ok v
  ranged : ∃ r, VersionRange.parse m.engine = .ok r
  dependencies : ∀ d ∈ m.dependencies.requires ++ m.dependencies.optional ++
    m.dependencies.conflicts, d.WellFormed

/-- The rules that a pack keeps on its own, whatever its references name. -/
structure Pack.WellFormed (p : Pack) : Prop where
  metadata : p.metadata.WellFormed
  shaped : ∀ kind, ∀ id ∈ p.ids kind, Id.Shaped id
  distinct : ∀ kind, (p.ids kind).Nodup
  starts : ∀ r ∈ p.resources, ¬ r.startAmount < .zero
  capacities : ∀ r ∈ p.resources, ∀ capacity, r.capacity = some capacity →
    ¬ capacity < r.startAmount
  systems : ∀ a ∈ p.automations, a.targetType = .system → a.systemTargetId.isSome
  targets : ∀ a ∈ p.automations, a.targetType ≠ .system → a.targetId.isSome
  durations : ∀ t ∈ p.transforms, t.mode = .batch ∨ t.mode = .mission → t.duration.isSome
  requirements : ∀ t ∈ p.transforms, t.entityRequirements ≠ [] ↔ t.mode = .mission
  stats : ∀ e ∈ p.entities, (e.stats.map (·.id)).Nodup

namespace Structure

variable {p : Pack} {path : Path}

theorem hasIssues_parses {α : Type} {r : Except VersionError α} :
    hasIssues (parses r path) = false ↔ ∃ a, r = .ok a := by
  cases r with
  | ok a => simp [parses, hasIssues]
  | error e => simp [parses, hasIssues, Finding.fault, Finding.issue?]

theorem hasIssues_dependency {d : Dependency} :
    hasIssues (dependency path d) = false ↔ d.WellFormed := by
  rw [dependency, hasIssues_append, hasIssues_ensure, Id.isValid_iff_shaped]
  cases hversion : d.version with
  | none => exact ⟨fun h ↦ ⟨h.1, by simp [hversion]⟩, fun h ↦ ⟨h.shaped, rfl⟩⟩
  | some range =>
    rw [hasIssues_parses]
    exact ⟨fun h ↦ ⟨h.1, by simpa [hversion] using h.2⟩,
      fun h ↦ ⟨h.shaped, h.ranged range hversion⟩⟩

theorem hasIssues_metadata {m : Metadata} : hasIssues (metadata m) = false ↔ m.WellFormed := by
  simp only [metadata, hasIssues_append, hasIssues_ensure, hasIssues_parses, Id.isValid_iff_shaped,
    hasIssues_each, hasIssues_dependency, forall_getElem?_iff]
  constructor
  · rintro ⟨⟨⟨⟨⟨hid, hversion⟩, hengine⟩, hrequires⟩, hoptional⟩, hconflicts⟩
    refine ⟨hid, hversion, hengine, ?_⟩
    simpa only [List.forall_mem_append] using ⟨⟨hrequires, hoptional⟩, hconflicts⟩
  · intro h
    have hdependencies := h.dependencies
    simp only [List.forall_mem_append] at hdependencies
    exact ⟨⟨⟨⟨⟨h.shaped, h.versioned⟩, h.ranged⟩, hdependencies.1.1⟩, hdependencies.1.2⟩,
      hdependencies.2⟩

theorem hasIssues_ids {kind : Kind} :
    hasIssues (ids p kind) = false ↔ (∀ id ∈ p.ids kind, Id.Shaped id) ∧ (p.ids kind).Nodup := by
  have hposition : hasIssues (ids p kind) = false ↔
      ∀ i id, (p.ids kind)[i]? = some id → Id.Shaped id ∧ i ≤ (p.ids kind).idxOf id := by
    simp only [ids, hasIssues_flatMap, hasIssues_append, hasIssues_ensure, Id.isValid_iff_shaped,
      decide_eq_true_iff, Prod.forall, List.mem_zipIdx_iff_getElem?]
    exact forall_comm
  rw [hposition, ← forall_le_idxOf_iff_nodup]
  simp only [forall_and, ← forall_getElem?_iff]

theorem hasIssues_resource {r : Resource} :
    hasIssues (resource path r) = false ↔ ¬ r.startAmount < .zero ∧
    ∀ capacity, r.capacity = some capacity → ¬ capacity < r.startAmount := by
  have hle (x y : Double) : x ≤ y ↔ ¬ y < x := Int.not_lt.symm
  rw [resource, hasIssues_append, hasIssues_ensure, hasIssues_ensure]
  simp [Resource.capacityAdmitsStart, Option.all_eq_true, hle]

theorem hasIssues_automation {a : Automation} : hasIssues (automation path a) = false ↔
    (a.targetType = .system → a.systemTargetId.isSome) ∧
      (a.targetType ≠ .system → a.targetId.isSome) := by
  rw [automation]
  split <;> rename_i htype <;> simp [hasIssues_ensure, htype]

theorem hasIssues_transform {t : Transform} : hasIssues (transform path t) = false ↔
    (t.mode = .batch ∨ t.mode = .mission → t.duration.isSome) ∧
      (t.entityRequirements ≠ [] ↔ t.mode = .mission) := by
  rw [transform, hasIssues_append, hasIssues_ensure]
  refine and_congr ?_ ?_
  · cases t.mode <;> simp [TransformMode.requiresDuration]
  · split <;> rename_i hmode <;> simp [hasIssues_ensure, hmode]

theorem hasIssues_entity {e : Entity} :
    hasIssues (entity path e) = false ↔ (e.stats.map (·.id)).Nodup := by
  simp only [entity, hasIssues_flatMap, hasIssues_ensure, decide_eq_true_iff, Prod.forall,
    List.mem_zipIdx_iff_getElem?]
  exact forall_comm.trans forall_le_idxOf_iff_nodup

theorem hasIssues_locales (m : Metadata) (text : DisplayText) :
    hasIssues (locales m path text) = false := by
  simp [locales, hasIssues, Finding.notice, Finding.issue?]

theorem hasIssues_optionalLocales (m : Metadata) (text : Option DisplayText) :
    hasIssues (optionalLocales m path text) = false := by
  cases text with
  | none => rfl
  | some text => exact hasIssues_locales m text

theorem hasIssues_names (kind : Kind) : hasIssues (names p kind) = false :=
  hasIssues_each.2 fun _ _ _ ↦ hasIssues_optionalLocales _ _

theorem hasIssues_check : hasIssues (check p) = false ↔ p.WellFormed := by
  simp only [check, hasIssues_append, hasIssues_flatMap, hasIssues_metadata, hasIssues_ids,
    hasIssues_locales, hasIssues_optionalLocales, hasIssues_names, hasIssues_each,
    hasIssues_resource, hasIssues_automation, hasIssues_transform, hasIssues_entity,
    forall_getElem?_iff]
  constructor
  · rintro
      ⟨⟨⟨⟨⟨⟨⟨⟨hmetadata, hids⟩, hresources⟩, hautomations⟩, htransforms⟩, hentities⟩, -⟩, -⟩, -⟩
    exact
      { metadata := hmetadata
        shaped := fun kind ↦ (hids kind kind.mem_all).1
        distinct := fun kind ↦ (hids kind kind.mem_all).2
        starts := fun r hr ↦ (hresources r hr).1
        capacities := fun r hr ↦ (hresources r hr).2
        systems := fun a ha ↦ (hautomations a ha).1
        targets := fun a ha ↦ (hautomations a ha).2
        durations := fun t ht ↦ (htransforms t ht).1
        requirements := fun t ht ↦ (htransforms t ht).2
        stats := hentities }
  · intro h
    exact ⟨⟨⟨⟨⟨⟨⟨⟨h.metadata, fun kind _ ↦ ⟨h.shaped kind, h.distinct kind⟩⟩,
      fun r hr ↦ ⟨h.starts r hr, h.capacities r hr⟩⟩, fun a ha ↦ ⟨h.systems a ha, h.targets a ha⟩⟩,
      fun t ht ↦ ⟨h.durations t ht, h.requirements t ht⟩⟩, h.stats⟩, trivial⟩, trivial⟩,
      fun _ _ ↦ trivial⟩

end Structure

def Issue.isRepeat (kind : Kind) (i : Issue) : Bool :=
  match i.fault with
  | .duplicateId k _ _ => k = kind
  | _ => false

def repeatsOf (kind : Kind) (findings : List Finding) : List Issue :=
  (issuesOf findings).filter (·.isRepeat kind)

def Issue.ofRepeat (kind : Kind) (id : String) (i first : Nat) : Issue :=
  ⟨[.key kind.key, .index i, .key "id"], .duplicateId kind id first⟩

/-- An entry of a kind has the id of an earlier one, of which the first is told. -/
structure Pack.Repeats (p : Pack) (kind : Kind) (id : String) (i first : Nat) : Prop where
  later : first < i
  again : (p.ids kind)[i]? = some id
  declared : (p.ids kind)[first]? = some id
  before : ∀ j < first, (p.ids kind)[j]? ≠ some id

section Repeats

variable {kind : Kind} {p : Pack}

theorem repeatsOf_append (kind : Kind) (fs gs : List Finding) :
    repeatsOf kind (fs ++ gs) = repeatsOf kind fs ++ repeatsOf kind gs := by
  rw [repeatsOf, issuesOf, List.filterMap_append, List.filter_append]
  rfl

theorem repeatsOf_flatMap {α : Type} (kind : Kind) (items : List α) (f : α → List Finding) :
    repeatsOf kind (items.flatMap f) = items.flatMap fun a ↦ repeatsOf kind (f a) := by
  rw [repeatsOf, issuesOf, List.filterMap_flatMap, List.filter_flatMap]
  rfl

theorem repeatsOf_each {α : Type} (kind : Kind) (path : Path) (items : List α)
    (f : Path → α → List Finding) :
    repeatsOf kind (path.each items f) = path.each items fun path a ↦ repeatsOf kind (f path a) :=
  repeatsOf_flatMap ..

theorem repeatsOf_ensure (kind : Kind) (holds : Bool) (path : Path) (f : Fault) :
    repeatsOf kind (Finding.ensure holds path f) =
      if !holds && Issue.isRepeat kind ⟨path, f⟩ then [⟨path, f⟩] else [] := by
  cases holds with
  | true => rfl
  | false =>
    cases h : Issue.isRepeat kind ⟨path, f⟩ <;>
      simp [repeatsOf, issuesOf, Finding.ensure, Finding.fault, Finding.issue?, h]

theorem flatMap_ite_singleton {α β : Type} (c : α → Bool) (g : α → β) (items : List α) :
    (items.flatMap fun a ↦ if c a then [g a] else []) = (items.filter c).map g := by
  induction items with
  | nil => rfl
  | cons a rest ih =>
    rw [List.flatMap_cons, ih, List.filter_cons]
    cases c a <;> rfl

namespace Structure

theorem repeatsOf_parses {α : Type} (kind : Kind) (r : Except VersionError α) (path : Path) :
    repeatsOf kind (parses r path) = [] := by
  cases r <;> rfl

theorem repeatsOf_metadata (kind : Kind) (m : Metadata) : repeatsOf kind (metadata m) = [] := by
  have hdependency (path : Path) (d : Dependency) : repeatsOf kind (dependency path d) = [] := by
    rw [dependency, repeatsOf_append, repeatsOf_ensure, Issue.isRepeat, Bool.and_false]
    cases d.version with
    | none => rfl
    | some range => exact repeatsOf_parses ..
  simp [metadata, repeatsOf_append, repeatsOf_ensure, Issue.isRepeat, repeatsOf_parses,
    repeatsOf_each, hdependency, Path.each_nil]

theorem repeatsOf_resource (kind : Kind) (path : Path) (r : Resource) :
    repeatsOf kind (resource path r) = [] := by
  simp [resource, repeatsOf_append, repeatsOf_ensure, Issue.isRepeat]

theorem repeatsOf_automation (kind : Kind) (path : Path) (a : Automation) :
    repeatsOf kind (automation path a) = [] := by
  rw [automation]
  split <;> simp [repeatsOf_ensure, Issue.isRepeat]

theorem repeatsOf_transform (kind : Kind) (path : Path) (t : Transform) :
    repeatsOf kind (transform path t) = [] := by
  rw [transform, repeatsOf_append]
  split <;> simp [repeatsOf_ensure, Issue.isRepeat]

theorem repeatsOf_entity (kind : Kind) (path : Path) (e : Entity) :
    repeatsOf kind (entity path e) = [] := by
  simp [entity, repeatsOf_flatMap, repeatsOf_ensure, Issue.isRepeat]

theorem repeatsOf_locales (kind : Kind) (m : Metadata) (path : Path) (text : DisplayText) :
    repeatsOf kind (locales m path text) = [] := by
  rw [repeatsOf, issuesOf_eq_nil_iff.2 (hasIssues_locales m text), List.filter_nil]

theorem repeatsOf_optionalLocales (kind : Kind) (m : Metadata) (path : Path)
    (text : Option DisplayText) : repeatsOf kind (optionalLocales m path text) = [] := by
  rw [repeatsOf, issuesOf_eq_nil_iff.2 (hasIssues_optionalLocales m text), List.filter_nil]

theorem repeatsOf_names (kind k : Kind) : repeatsOf kind (names p k) = [] := by
  rw [repeatsOf, issuesOf_eq_nil_iff.2 (hasIssues_names k), List.filter_nil]

theorem repeatsOf_ids (kind k : Kind) : repeatsOf kind (ids p k) = if k = kind then
    ((p.ids kind).zipIdx.filter fun x ↦ !decide (x.2 ≤ (p.ids kind).idxOf x.1)).map
      fun x ↦ .ofRepeat kind x.1 x.2 ((p.ids kind).idxOf x.1) else [] := by
  simp only [ids, repeatsOf_flatMap, repeatsOf_append, repeatsOf_ensure, Issue.isRepeat,
    Bool.and_false, Bool.false_eq_true, if_false, List.nil_append]
  split
  · rename_i hk
    subst hk
    simp only [decide_true, Bool.and_true]
    exact flatMap_ite_singleton ..
  · rename_i hk
    simp [hk]

theorem repeatsOf_check (kind : Kind) : repeatsOf kind (check p) = repeatsOf kind (ids p kind) := by
  have hkinds : (Kind.all.flatMap fun k ↦ repeatsOf kind (ids p k)) =
      repeatsOf kind (ids p kind) := by
    cases kind <;> simp [Kind.all, repeatsOf_ids]
  have hnames : (Kind.all.flatMap fun _ ↦ ([] : List Issue)) = [] := rfl
  simp only [check, repeatsOf_append, repeatsOf_flatMap, repeatsOf_each, repeatsOf_metadata,
    repeatsOf_resource, repeatsOf_automation, repeatsOf_transform, repeatsOf_entity,
    repeatsOf_locales, repeatsOf_optionalLocales, repeatsOf_names, Path.each_nil, hkinds, hnames,
    List.append_nil, List.nil_append]

end Structure

theorem Pack.repeats_iff {id : String} {i first : Nat} : p.Repeats kind id i first ↔
    (p.ids kind)[i]? = some id ∧ (p.ids kind).idxOf id = first ∧ first < i := by
  constructor
  · intro h
    refine ⟨h.again, le_antisymm (idxOf_le_of_getElem? h.declared) (not_lt.1 fun hlt ↦ ?_), h.later⟩
    exact h.before _ hlt (List.getElem?_idxOf (List.mem_of_getElem? h.again))
  · rintro ⟨hagain, rfl, hlater⟩
    refine ⟨hlater, hagain, List.getElem?_idxOf (List.mem_of_getElem? hagain),
      fun j hj hbefore ↦ ?_⟩
    exact absurd (idxOf_le_of_getElem? hbefore) (not_le.2 hj)

end Repeats

namespace Pack

variable {p : Pack}

theorem mem_repeatsOf_iff {kind : Kind} {issue : Issue} :
    issue ∈ repeatsOf kind (Structure.check p) ↔
    ∃ id i first, p.Repeats kind id i first ∧ issue = .ofRepeat kind id i first := by
  simp only [Structure.repeatsOf_check, Structure.repeatsOf_ids, if_true, List.mem_map,
    List.mem_filter, Prod.exists, List.mem_zipIdx_iff_getElem?, Bool.not_eq_true',
    decide_eq_false_iff_not, not_le, repeats_iff]
  constructor
  · rintro ⟨id, i, ⟨hi, hlt⟩, rfl⟩
    exact ⟨id, i, _, ⟨hi, rfl, hlt⟩, rfl⟩
  · rintro ⟨id, i, _, ⟨hi, rfl, hlt⟩, rfl⟩
    exact ⟨id, i, ⟨hi, hlt⟩, rfl⟩

theorem length_repeatsOf (kind : Kind) :
    (repeatsOf kind (Structure.check p)).length + (p.ids kind).toFinset.card = p.size kind := by
  have hsize : p.size kind = (p.ids kind).length := (List.length_map _).symm
  rw [Structure.repeatsOf_check, Structure.repeatsOf_ids, if_pos rfl, List.length_map,
    ← List.countP_eq_length_filter, hsize]
  exact countP_repeated_add_card (p.ids kind)

/-- About a document that is read as a pack there is no issue exactly if the pack is well-formed. As
many ids of a kind are reported as declared before as there are entries more than distinct ids, each
at a later entry and with the position of the first one. -/
theorem clean_iff_of_parse {doc : Json} (h : (parse doc).1 = some p) :
    (issuesOf (parse doc).2 = [] ↔ p.WellFormed) ∧ ∀ kind,
      (repeatsOf kind (parse doc).2).length = p.size kind - (p.ids kind).toFinset.card ∧
        ∀ issue, issue ∈ repeatsOf kind (parse doc).2 ↔
          ∃ id i first, p.Repeats kind id i first ∧ issue = .ofRepeat kind id i first := by
  rw [check_of_parse h]
  refine ⟨issuesOf_eq_nil_iff.trans Structure.hasIssues_check,
    fun kind ↦ ⟨?_, fun issue ↦ mem_repeatsOf_iff⟩⟩
  exact Nat.eq_sub_of_add_eq (length_repeatsOf kind)

end Pack

namespace Sample

def repetitive : Json := .obj
  [("metadata", metadata "p" "1.0.0" "P"),
    ("resources", .arr [resource "p" "gold", resource "p" "gem", resource "p" "gold"])]

end Sample

namespace Pack

theorem clean_iff_of_parse_samples :
    (∃ p, (parse Sample.small).1 = some p ∧ p.WellFormed) ∧
      ∃ p, (parse Sample.repetitive).1 = some p ∧ ¬ p.WellFormed ∧
        (repeatsOf .resource (parse Sample.repetitive).2).length = 1 ∧
          .ofRepeat .resource "p.gold" 2 0 ∈ repeatsOf .resource (parse Sample.repetitive).2 := by
  let p := (parse Sample.small).1.get (by decide +kernel)
  let q := (parse Sample.repetitive).1.get (by decide +kernel)
  have hp : (parse Sample.small).1 = some p := (Option.some_get _).symm
  have hq : (parse Sample.repetitive).1 = some q := (Option.some_get _).symm
  obtain ⟨hclean, -⟩ := clean_iff_of_parse hp
  obtain ⟨hfaulty, hrepeats⟩ := clean_iff_of_parse hq
  obtain ⟨hlength, hmem⟩ := hrepeats .resource
  refine ⟨⟨p, hp, hclean.1 ?_⟩, q, hq, fun hwell ↦ ?_, ?_, (hmem _).2 ⟨"p.gold", 2, 0, ?_, rfl⟩⟩
  · exact issuesOf_eq_nil_iff.2 (by decide +kernel)
  · exact absurd (issuesOf_eq_nil_iff.1 (hfaulty.2 hwell)) (by decide +kernel)
  · rw [hlength]
    decide +kernel
  · exact ⟨by decide, by decide +kernel, by decide +kernel, by decide⟩

end Pack

end GamePack
