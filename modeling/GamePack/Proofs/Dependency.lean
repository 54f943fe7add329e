import GamePack.Proofs.Graph.Acyclic
import GamePack.Proofs.Graph.Searched
import GamePack.Proofs.Order.PackCycle

namespace GamePack

inductive DependencyTopic
  | itself
  | cycle
  | conflict
deriving DecidableEq

def Fault.topic? : Fault → Option DependencyTopic
  | selfDependency _ => some .itself
  | packCycle _ => some .cycle
  | conflict _ => some .conflict
  | _ => none

def Finding.topic? (f : Finding) : Option DependencyTopic := f.issue?.bind (·.fault.topic?)

def told (topic : DependencyTopic) (fs : List Finding) : List Finding :=
  fs.filter (·.topic? = some topic)

theorem told_append (topic : DependencyTopic) (fs gs : List Finding) :
    told topic (fs ++ gs) = told topic fs ++ told topic gs := List.filter_append ..

theorem told_of_topic {topic : DependencyTopic} {topic? : Option DependencyTopic}
    {fs : List Finding} (h : ∀ f ∈ fs, f.topic? = topic?) :
    told topic fs = if topic? = some topic then fs else [] := by
  split
  · rename_i htopic
    exact List.filter_eq_self.2 fun f hf ↦ decide_eq_true ((h f hf).trans htopic)
  · rename_i htopic
    exact List.filter_eq_nil_iff.2 fun f hf ↦ by rwa [decide_eq_true_iff, h f hf]

namespace Dependency

variable {d : Dependency} {k : KnownPack} {known : List KnownPack} {active : List String}
  {path : Path}

def Outside (d : Dependency) (known : List KnownPack) : Prop :=
  ∃ text range k v, d.version = some text ∧ VersionRange.parse text = .ok range ∧
    d.known? known = some k ∧ Version.parse k.version = .ok v ∧ ¬ range.contains v

def Unversioned (d : Dependency) (known : List KnownPack) : Prop :=
  ∃ text range k e, d.version = some text ∧ VersionRange.parse text = .ok range ∧
    d.known? known = some k ∧ Version.parse k.version = .error e

theorem mismatch?_eq_some {cause : Fault} (h : d.mismatch? k = some cause) :
    ∃ text range, d.version = some text ∧ VersionRange.parse text = .ok range ∧
      ((∃ v, Version.parse k.version = .ok v ∧ ¬ range.contains v ∧
          cause = .wrongDependency k.id v range.source) ∨
        ∃ e, Version.parse k.version = .error e ∧ cause = .invalidKnownVersion k.id e) := by
  rw [mismatch?] at h
  split at h
  · rename_i range hrange
    obtain ⟨text, htext, hparse⟩ := Option.map_eq_some_iff.1 hrange
    refine ⟨text, range, htext, hparse, ?_⟩
    split at h
    · rename_i v hv
      split at h
      · cases h
      · rename_i hcontains
        exact .inl ⟨v, hv, hcontains, (Option.some_inj.1 h).symm⟩
    · rename_i e he
      exact .inr ⟨e, he, (Option.some_inj.1 h).symm⟩
  · cases h

theorem mismatch?_eq_none {text : String} {range : VersionRange} (htext : d.version = some text)
    (hrange : VersionRange.parse text = .ok range) (h : d.mismatch? k = none) :
    ∃ v, Version.parse k.version = .ok v ∧ range.contains v := by
  rw [mismatch?, htext, Option.map_some, hrange] at h
  dsimp only at h
  split at h
  · rename_i v hv
    refine ⟨v, hv, ?_⟩
    by_contra hcontains
    rw [if_neg hcontains] at h
    cases h
  · cases h

/-- What speaks against a conflict is also a version that cannot be read. -/
theorem fits_iff : (d.known? known).all (fun k ↦ (d.mismatch? k).isNone) ↔
    ¬ d.Outside known ∧ ¬ d.Unversioned known := by
  rw [Option.all_eq_true]
  constructor
  · intro h
    constructor
    · rintro ⟨text, range, k, v, htext, hrange, hk, hv, hcontains⟩
      obtain ⟨v', hv', hin⟩ := mismatch?_eq_none htext hrange (Option.isNone_iff_eq_none.1 (h k hk))
      rw [hv] at hv'
      obtain rfl := Except.ok.inj hv'
      exact hcontains hin
    · rintro ⟨text, range, k, e, htext, hrange, hk, he⟩
      obtain ⟨v', hv', -⟩ := mismatch?_eq_none htext hrange (Option.isNone_iff_eq_none.1 (h k hk))
      rw [he] at hv'
      cases hv'
  · rintro ⟨houtside, hunversioned⟩ k hk
    rw [Option.isNone_iff_eq_none]
    by_contra hmismatch
    obtain ⟨cause, hcause⟩ := Option.ne_none_iff_exists'.1 hmismatch
    obtain ⟨text, range, htext, hrange, ⟨v, hv, hcontains, -⟩ | ⟨e, he, -⟩⟩ :=
      mismatch?_eq_some hcause
    · exact houtside ⟨text, range, k, v, htext, hrange, hk, hv, hcontains⟩
    · exact hunversioned ⟨text, range, k, e, htext, hrange, hk, he⟩

theorem mem_checkConflict_iff {f : Finding} : f ∈ d.checkConflict known active path ↔
    d.packId ∈ active ∧ ¬ d.Outside known ∧ ¬ d.Unversioned known ∧
      f = .fault (path.key "packId") (.conflict d.packId) := by
  rw [← and_assoc (a := ¬ _), ← fits_iff, checkConflict]
  simp [and_assoc]

theorem topic?_of_mem_checkRequired {f : Finding} (h : f ∈ d.checkRequired known path) :
    f.topic? = none := by
  rw [checkRequired] at h
  split at h
  · rw [Option.toList_map] at h
    obtain ⟨cause, hcause, rfl⟩ := List.mem_map.1 h
    obtain ⟨_, _, -, -, ⟨_, -, -, rfl⟩ | ⟨_, -, rfl⟩⟩ :=
      mismatch?_eq_some (Option.mem_toList.1 hcause) <;> rfl
  · split at h
    · cases h
    · rw [List.mem_singleton.1 h]
      rfl

end Dependency

namespace Metadata

variable (m : Metadata) (known : List KnownPack) (active : List String)

def dependencyLists : List (String × List Dependency) :=
  [("requires", m.dependencies.requires), ("optional", m.dependencies.optional),
    ("conflicts", m.dependencies.conflicts)]

def namePlace (field : String) (i : Nat) : Path :=
  [.key "metadata", .key "dependencies", .key field, .index i, .key "packId"]

def selfPlaces : List Path :=
  m.dependencyLists.flatMap fun list ↦
    (list.2.zipIdx.filter (·.1.packId = m.id)).map fun e ↦ namePlace list.1 e.2

theorem selfDependencies_eq (field : String) (entries : List Dependency) :
    m.selfDependencies field entries =
    ((entries.zipIdx.filter (·.1.packId = m.id)).map fun e ↦ namePlace field e.2).map
      (.fault · (.selfDependency m.id)) := by
  rw [selfDependencies, Path.each, List.map_map]
  induction entries.zipIdx with
  | nil => rfl
  | cons e rest ih =>
    rw [List.flatMap_cons, ih, List.filter_cons, Finding.ensure]
    by_cases h : e.1.packId = m.id <;> simp [h, namePlace, dependencyPath, Path.key, Path.index]

theorem checkSelf_eq : m.checkSelf = m.selfPlaces.map (.fault · (.selfDependency m.id)) := by
  simp [checkSelf, selfPlaces, dependencyLists, selfDependencies_eq]

def checkRequirements : List Finding :=
  (dependencyPath.key "requires").each m.dependencies.requires fun path d ↦
    if d.packId = m.id then [] else d.checkRequired known path

def checkConflicts : List Finding :=
  (dependencyPath.key "conflicts").each m.dependencies.conflicts fun path d ↦
    if d.packId = m.id then [] else d.checkConflict known active path

theorem checkDependencies_split : m.checkDependencies known active =
    m.checkSelf ++ m.dependencyCycles known ++
      (m.checkRequirements known ++ m.checkConflicts known active) :=
  m.checkDependencies_eq known active

variable {m known active} {f : Finding}

theorem mem_checkConflicts_iff : f ∈ m.checkConflicts known active ↔
    ∃ i d, m.dependencies.conflicts[i]? = some d ∧ d.packId ≠ m.id ∧ d.packId ∈ active ∧
      ¬ d.Outside known ∧ ¬ d.Unversioned known ∧
      f = .fault (namePlace "conflicts" i) (.conflict d.packId) := by
  rw [checkConflicts, Path.mem_each]
  refine exists_congr fun i ↦ exists_congr fun d ↦ and_congr_right fun _ ↦ ?_
  rw [List.mem_ite_nil_left, Dependency.mem_checkConflict_iff]
  rfl

theorem topic?_of_mem_checkSelf (h : f ∈ m.checkSelf) : f.topic? = some .itself := by
  rw [checkSelf_eq] at h
  obtain ⟨place, -, rfl⟩ := List.mem_map.1 h
  rfl

theorem topic?_of_mem_dependencyCycles (h : f ∈ m.dependencyCycles known) :
    f.topic? = some .cycle := by
  obtain ⟨cycle, -, rfl⟩ := List.mem_map.1 h
  rfl

theorem topic?_of_mem_checkRequirements (h : f ∈ m.checkRequirements known) : f.topic? = none := by
  obtain ⟨i, d, -, hf⟩ := Path.mem_each.1 h
  rw [List.mem_ite_nil_left] at hf
  exact Dependency.topic?_of_mem_checkRequired hf.2

theorem topic?_of_mem_checkConflicts (h : f ∈ m.checkConflicts known active) :
    f.topic? = some .conflict := by
  obtain ⟨_, _, -, -, -, -, -, rfl⟩ := mem_checkConflicts_iff.1 h
  rfl

theorem told_checkDependencies (m : Metadata) (known : List KnownPack) (active : List String)
    (topic : DependencyTopic) : told topic (m.checkDependencies known active) =
      match topic with
      | .itself => m.checkSelf
      | .cycle => m.dependencyCycles known
      | .conflict => m.checkConflicts known active := by
  rw [checkDependencies_split, told_append, told_append, told_append,
    told_of_topic fun _ ↦ topic?_of_mem_checkSelf, told_of_topic fun _ ↦
      topic?_of_mem_dependencyCycles, told_of_topic fun _ ↦ topic?_of_mem_checkRequirements,
    told_of_topic fun _ ↦ topic?_of_mem_checkConflicts]
  cases topic <;> simp

/-- The conflicts that are told of: those with active packs, unless there is a range and the version
of the first known pack of that id lies outside it or cannot be read. -/
theorem mem_told_conflict_iff (m : Metadata) (known : List KnownPack) (active : List String)
    (f : Finding) :
    f ∈ told .conflict (m.checkDependencies known active) ↔
      ∃ i d, m.dependencies.conflicts[i]? = some d ∧ d.packId ≠ m.id ∧ d.packId ∈ active ∧
        ¬ d.Outside known ∧ ¬ d.Unversioned known ∧
        f = .fault (namePlace "conflicts" i) (.conflict d.packId) := by
  rw [told_checkDependencies]
  exact mem_checkConflicts_iff

end Metadata

namespace Sample

def rival : Metadata where
  id := "p"
  title := ⟨"P", .empty⟩
  summary := none
  version := "1.0.0"
  engine := "*"
  authors := []
  tags := []
  defaultLocale := "en-US"
  supportedLocales := []
  dependencies := { Dependencies.none with conflicts := [⟨"legacy", some "^1.0.0"⟩] }

end Sample

namespace Metadata

/-- A version that cannot be read is not known to lie outside a range, and yet the conflict
is not told of. -/
theorem untold_of_malformed :
    ∃ d, Sample.rival.dependencies.conflicts[0]? = some d ∧ d.packId ≠ Sample.rival.id ∧
    d.packId ∈ ["legacy"] ∧ ¬ d.Outside [⟨"legacy", "one", []⟩] ∧
    told .conflict (Sample.rival.checkDependencies [⟨"legacy", "one", []⟩] ["legacy"]) = [] := by
  refine ⟨_, rfl, by decide, by decide, ?_, ?_⟩
  · rintro ⟨text, range, k, v, -, -, hk, hv, -⟩
    obtain rfl : _ = k := Option.some_inj.1 hk
    cases hv
  · rw [told_checkDependencies, List.eq_nil_iff_forall_not_mem]
    intro f hf
    obtain ⟨i, d, hd, -, -, -, hversioned, -⟩ := mem_checkConflicts_iff.1 hf
    obtain rfl := List.mem_singleton.1 (List.mem_of_getElem? hd)
    exact hversioned ⟨_, _, _, _, rfl, rfl, rfl, rfl⟩

variable {m : Metadata} {known : List KnownPack}

/-- Whether a pack demands another: what the pack requires beside itself, and what is known that
others require. -/
def Demands (m : Metadata) (known : List KnownPack) (a b : String) : Prop :=
  (a = m.id ∧ b ≠ m.id ∧ ∃ d ∈ m.dependencies.requires, d.packId = b) ∨
    (a ≠ m.id ∧ ∃ k ∈ known, k.id = a ∧ b ∈ k.requires)

theorem cyclic_edge_iff {chain : List String} :
    Cyclic (m.dependencyGraph known).Edge chain ↔ Cyclic (m.Demands known) chain := by
  have hedge : (m.dependencyGraph known).Edge = m.Demands known :=
    funext fun a ↦ funext fun b ↦ propext (edge_dependencyGraph_iff a b)
  rw [hedge]

theorem dependencyCycles_eq_nil (h : ∀ chain, ¬ Cyclic (m.Demands known) chain) :
    m.dependencyCycles known = [] := by
  rw [dependencyCycles, List.map_eq_nil_iff, Graph.cycles_eq_nil_iff_circuit]
  exact fun ids hcircuit ↦ h ids (cyclic_edge_iff.1 hcircuit.cyclic)

/-- Where packs demand one another in a circle, wherever it lies, one such circle is told of. -/
theorem dependencyCycles_eq_singleton {chain : List String} (h : Cyclic (m.Demands known) chain) :
    ∃ id rest, (id :: rest).Nodup ∧ Cyclic (m.Demands known) (id :: rest) ∧ (∀ x ∈ rest, id < x) ∧
      m.dependencyCycles known =
        [.fault (dependencyPath.key "requires") (.packCycle (id :: (rest ++ [id])))] := by
  obtain ⟨a, hway⟩ := (cyclic_edge_iff.2 h).exists_transGen
  have hne : (m.dependencyGraph known).cycles (m.id :: known.map (·.id)) .first ≠ [] := fun hnil ↦
    not_transGen_edge hnil a hway
  obtain ⟨id, rest, hcycle, hcircuit, hleast⟩ := Graph.exists_cycles_first_eq hne
  refine ⟨id, rest, hcircuit.distinct, cyclic_edge_iff.1 hcircuit.cyclic, hleast, ?_⟩
  rw [dependencyCycles, hcycle]
  rfl

variable {m' : Metadata} {known' : List KnownPack}

/-- What is told of cycles depends neither on what a pack says of itself nor on what
is known of it. -/
theorem dependencyCycles_congr (hid : m'.id = m.id)
    (hrequires : m'.dependencies.requires.filter (·.packId ≠ m.id) =
        m.dependencies.requires.filter (·.packId ≠ m.id))
    (hknown : known'.filter (·.id ≠ m.id) = known.filter (·.id ≠ m.id)) :
    m'.dependencyCycles known' = m.dependencyCycles known := by
  have hids : (known'.map (·.id)).filter (· ≠ m.id) = (known.map (·.id)).filter (· ≠ m.id) := by
    rw [List.filter_map, List.filter_map]
    exact congrArg (List.map _) hknown
  have hown : (m'.dependencies.requires.map (·.packId)).filter (· ≠ m.id) =
      (m.dependencies.requires.map (·.packId)).filter (· ≠ m.id) := by
    rw [List.filter_map, List.filter_map]
    exact congrArg (List.map _) hrequires
  have hgraph : m'.dependencyGraph known' = m.dependencyGraph known := by
    rw [dependencyGraph, dependencyGraph, hid, hown, hknown]
  rw [dependencyCycles, dependencyCycles, hgraph, hid, ← Graph.cycles_cons_filter, hids,
    Graph.cycles_cons_filter]

structure ToldOfItself (m : Metadata) (known : List KnownPack) (active : List String) : Prop where
  itself : told .itself (m.checkDependencies known active) =
    m.selfPlaces.map (.fault · (.selfDependency m.id))
  cyclic : ∀ chain, Cyclic (m.Demands known) chain → ∃ id rest, (id :: rest).Nodup ∧
    Cyclic (m.Demands known) (id :: rest) ∧ (∀ x ∈ rest, id < x) ∧
      told .cycle (m.checkDependencies known active) =
        [.fault (dependencyPath.key "requires") (.packCycle (id :: (rest ++ [id])))]
  acyclic : (∀ chain, ¬ Cyclic (m.Demands known) chain) →
    told .cycle (m.checkDependencies known active) = []
  unmoved : ∀ (m' : Metadata) known' active', m'.id = m.id →
    m'.dependencies.requires.filter (·.packId ≠ m.id) =
      m.dependencies.requires.filter (·.packId ≠ m.id) →
      known'.filter (·.id ≠ m.id) = known.filter (·.id ≠ m.id) →
        told .cycle (m'.checkDependencies known' active') =
          told .cycle (m.checkDependencies known active)

theorem toldOfItself (m : Metadata) (known : List KnownPack) (active : List String) :
    m.ToldOfItself known active where
  itself := (told_checkDependencies ..).trans m.checkSelf_eq
  cyclic _ h := by
    rw [told_checkDependencies]
    exact dependencyCycles_eq_singleton h
  acyclic h := by
    rw [told_checkDependencies]
    exact dependencyCycles_eq_nil h
  unmoved m' known' active' hid hrequires hknown := by
    rw [told_checkDependencies, told_checkDependencies]
    exact dependencyCycles_congr hid hrequires hknown

end Metadata

end GamePack
