import GamePack.Proofs.Finding
import GamePack.Proofs.Schema.Mentions
import GamePack.Proofs.Sorted

namespace GamePack

/-- Whether what stands at a place of a document is what is named: its text, a formula that refers
to it, or the entry of a stat in an object that belongs to the entity. -/
def Reference.StandsAt (doc : Json) (place : Path) : Reference → Prop
  | entry kind id => doc.at? place = some (.str id) ∨
      ∃ f : Formula, doc.at? place = some f.encode ∧ (kind, id) ∈ f.entries
  | outside _ id | event id | companion id | declaration id => doc.at? place = some (.str id)
  | statOf entity stat => ∃ (object : Path) (f : Formula),
      doc.at? (object ++ [.key "entityId"]) = some (.str entity) ∧
        place = object ++ [.key "minStats", .key stat] ∧ doc.at? place = some f.encode
  | ownStat entity _ stat => ∃ (object : Path) (f : Formula),
      doc.at? (object ++ [.key "id"]) = some (.str entity) ∧
        place = object ++ [.key "progression", .key "statGrowth", .key stat] ∧
          doc.at? place = some f.encode

namespace Mention

variable {doc : Json} {path : Path} {id : String}

def StandsIn (doc : Json) (m : Mention) : Prop := m.subject.reference.StandsAt doc m.path

theorem standsIn_entry {kind : Kind} (h : doc.at? path = some (.str id)) :
    (entry path kind id).StandsIn doc := .inl h

theorem standsIn_outside {category : Category} (h : doc.at? path = some (.str id)) :
    (outside path category id).StandsIn doc := h

theorem standsIn_event (h : doc.at? path = some (.str id)) : (event path id).StandsIn doc := h

end Mention

/-- Wherever the serialization of a value of a type stands, what the value mentions stands in it. -/
def Shows {α : Type} (encode : α → Json) (mentions : Path → α → List Mention) : Prop :=
  ∀ ⦃doc path a⦄, doc.at? path = some (encode a) → ∀ m ∈ mentions path a, m.StandsIn doc

namespace Shows

variable {α : Type} {encode : α → Json} {mentions : Path → α → List Mention} {doc : Json}
  {path : Path}

theorem optional (h : Shows encode mentions) {a : Option α}
    (hdoc : doc.at? path = some (.ofOption encode a)) :
    ∀ m ∈ Mention.optional mentions path a, m.StandsIn doc := by
  cases a with
  | none => exact List.forall_mem_nil _
  | some a => exact h hdoc

theorem each (h : Shows encode mentions) {items : List α}
    (hdoc : doc.at? path = some (.arr (items.map encode))) :
    ∀ m ∈ path.each items mentions, m.StandsIn doc := by
  intro m hm
  obtain ⟨i, a, ha, hm⟩ := Path.mem_each.1 hm
  refine h (Json.at?_concat_index hdoc ?_) m hm
  rw [List.getElem?_map, ha, Option.map_some]

section

variable {mention : Path → String → Mention}
  (hmention : ∀ {doc : Json} {path : Path} {s : String}, doc.at? path = some (.str s) →
    (mention path s).StandsIn doc)

include hmention

theorem text : Shows .str fun path s ↦ [mention path s] := fun _ _ _ hdoc ↦
  List.forall_mem_singleton.2 (hmention hdoc)

theorem optional_text {s : Option String} (hdoc : doc.at? path = some (.ofOption .str s)) :
    ∀ m ∈ s.toList.map (mention path), m.StandsIn doc := by
  cases s with
  | none => exact List.forall_mem_nil _
  | some s => exact List.forall_mem_singleton.2 (hmention hdoc)

end

end Shows

open Json Mention Shows

variable {doc : Json} {path : Path}

theorem Formula.shows : Shows Formula.encode Formula.mentions := by
  intro doc path f hdoc
  simp only [Formula.mentions, List.forall_mem_map]
  exact fun e he ↦ .inr ⟨f, hdoc, he⟩

section

variable {v : Json} {kind : Kind} {key key' id : String} {f : Formula}
  (hdoc : doc.at? path = some v) (hid : v.field? key = some (.str id))

include hdoc hid

theorem Mention.standsIn_name : ∀ m ∈ [Mention.entry (path.key key) kind id], m.StandsIn doc :=
  List.forall_mem_singleton.2 (.inl (at?_concat_key hdoc hid))

theorem Mention.standsIn_amount (hf : v.field? key' = some f.encode) :
    ∀ m ∈ Mention.entry (path.key key) kind id :: f.mentions (path.key key'), m.StandsIn doc :=
  List.forall_mem_cons.2 ⟨.inl (at?_concat_key hdoc hid), Formula.shows (at?_concat_key hdoc hf)⟩

end

mutual

theorem Condition.standsIn_mentions (path : Path) :
    (c : Condition) → doc.at? path = some c.encode → ∀ m ∈ c.mentions path, m.StandsIn doc
  | .always, _ | .never, _ => List.forall_mem_nil _
  | .resourceThreshold .., hdoc | .generatorLevel .., hdoc => standsIn_amount hdoc rfl rfl
  | .upgradeOwned .., hdoc | .prestigeCount .., hdoc | .prestigeCompleted _, hdoc
  | .prestigeUnlocked _, hdoc => standsIn_name hdoc rfl
  | .flag _, hdoc | .script _, hdoc => List.forall_mem_singleton.2 (at?_concat_key hdoc rfl)
  | .allOf conditions, hdoc | .anyOf conditions, hdoc =>
    standsIn_mentionsFrom (path.key "conditions") conditions (at?_concat_key hdoc rfl) rfl
  | .not c, hdoc => standsIn_mentions (path.key "condition") c (at?_concat_key hdoc rfl)

theorem Condition.standsIn_mentionsFrom (path : Path) {whole : List Json} {i : Nat} :
    (cs : List Condition) → doc.at? path = some (.arr whole) → whole.drop i = encodeAll cs →
      ∀ m ∈ mentionsFrom path i cs, m.StandsIn doc
  | [], _, _ => List.forall_mem_nil _
  | c :: rest, hdoc, hwhole => by
    have hitem : whole[i]? = some c.encode := by
      rw [← List.head?_drop, hwhole]
      rfl
    have hrest : whole.drop (i + 1) = encodeAll rest := by
      rw [← List.tail_drop, hwhole]
      rfl
    exact List.forall_mem_append.2 ⟨standsIn_mentions _ c (at?_concat_index hdoc hitem),
      standsIn_mentionsFrom path rest hdoc hrest⟩

end

theorem Condition.shows : Shows Condition.encode Condition.mentions := fun _ path c ↦
  standsIn_mentions path c

theorem Resource.shows : Shows Resource.encode Resource.mentions := by
  intro doc path r h
  rw [Resource.mentions, List.forall_mem_append]
  exact ⟨Condition.shows.optional (at?_concat_key h rfl),
    Condition.shows.optional (at?_concat_key h rfl)⟩

theorem ResourceRate.shows : Shows ResourceRate.encode ResourceRate.mentions := fun _ _ _ h ↦
  standsIn_amount h rfl rfl

theorem Purchase.shows : Shows Purchase.encode Purchase.mentions := fun _ _ _ h ↦
  standsIn_amount h rfl rfl

theorem Generator.shows : Shows Generator.encode Generator.mentions := by
  intro doc path g h
  simp only [Generator.mentions, List.forall_mem_append, and_assoc]
  exact ⟨ResourceRate.shows.each (at?_concat_key h rfl),
    ResourceRate.shows.each (at?_concat_key h rfl), Purchase.shows (at?_concat_key h rfl),
    Condition.shows.optional (at?_concat_key h rfl),
    Condition.shows.optional (at?_concat_key h rfl)⟩

theorem UpgradeTarget.shows : Shows UpgradeTarget.encode UpgradeTarget.mentions := by
  intro doc path t h
  cases t with
  | everything => exact List.forall_mem_nil _
  | resource | generator | automation | prestigeLayer => exact standsIn_name h rfl

theorem UpgradeCost.shows : Shows UpgradeCost.encode UpgradeCost.mentions := fun _ _ _ h ↦
  standsIn_amount h rfl rfl

theorem Repetition.shows : Shows Repetition.encode Repetition.mentions := fun _ _ _ h ↦
  Formula.shows.optional (at?_concat_key h rfl)

theorem Effect.shows : Shows Effect.encode Effect.mentions := by
  intro doc path e h
  cases e with
  | resourceRate | resourceCapacity | dirtyTolerance | generatorRate | generatorCost =>
    exact standsIn_amount h rfl rfl
  | generatorConsumption =>
    rw [Effect.mentions, List.forall_mem_cons, List.forall_mem_append]
    exact ⟨.inl (at?_concat_key h rfl), optional_text standsIn_entry (at?_concat_key h rfl),
      Formula.shows (at?_concat_key h rfl)⟩
  | unlockResource | unlockGenerator | grantAutomation => exact standsIn_name h rfl
  | grantFlag | emitEvent => exact List.forall_mem_singleton.2 (at?_concat_key h rfl)

theorem Prerequisite.shows : Shows Prerequisite.encode Prerequisite.mentions := by
  intro doc path p h
  cases p with
  | upgrade id => exact List.forall_mem_singleton.2 (.inl h)
  | condition c => exact Condition.shows h

theorem Upgrade.shows : Shows Upgrade.encode Upgrade.mentions := by
  intro doc path u h
  simp only [Upgrade.mentions, List.forall_mem_append, and_assoc]
  exact ⟨UpgradeTarget.shows.each (at?_concat_key h rfl), UpgradeCost.shows (at?_concat_key h rfl),
    Repetition.shows.optional (at?_concat_key h rfl), Effect.shows.each (at?_concat_key h rfl),
    Prerequisite.shows.each (at?_concat_key h rfl), Condition.shows.optional (at?_concat_key h rfl),
    Condition.shows.optional (at?_concat_key h rfl)⟩

theorem Track.shows : Shows Track.encode Track.mentions := by
  intro doc path t h
  cases t with
  | resource | generatorLevel | customMetric => exact standsIn_amount h rfl rfl
  | upgradeOwned =>
    exact List.forall_mem_cons.2
      ⟨.inl (at?_concat_key h rfl), Formula.shows.optional (at?_concat_key h rfl)⟩
  | flag | script => exact List.forall_mem_singleton.2 (at?_concat_key h rfl)

theorem Progress.shows : Shows Progress.encode Progress.mentions := fun _ _ _ h ↦
  Formula.shows.optional (at?_concat_key h rfl)

theorem Reward.shows : Shows Reward.encode Reward.mentions := by
  intro doc path r h
  cases r with
  | grantResource => exact standsIn_amount h rfl rfl
  | grantUpgrade | unlockAutomation => exact standsIn_name h rfl
  | emitEvent | grantFlag => exact List.forall_mem_singleton.2 (at?_concat_key h rfl)

theorem Achievement.shows : Shows Achievement.encode Achievement.mentions := by
  intro doc path a h
  simp only [Achievement.mentions, List.forall_mem_append, and_assoc]
  exact ⟨Track.shows (at?_concat_key h rfl), Progress.shows.optional (at?_concat_key h rfl),
    Reward.shows.optional (at?_concat_key h rfl), (text standsIn_event).each (at?_concat_key h rfl),
    Condition.shows.optional (at?_concat_key h rfl),
      Condition.shows.optional (at?_concat_key h rfl)⟩

theorem AutomationTrigger.shows : Shows AutomationTrigger.encode AutomationTrigger.mentions := by
  intro doc path t h
  cases t with
  | interval => exact Formula.shows (at?_concat_key h rfl)
  | resourceThreshold => exact standsIn_amount h rfl rfl
  | commandQueueEmpty => exact List.forall_mem_nil _
  | event => exact List.forall_mem_singleton.2 (at?_concat_key h rfl)

theorem Automation.standsIn_targetMentions {a : Automation} (h : doc.at? path = some a.encode) :
    ∀ m ∈ a.targetMentions path, m.StandsIn doc := by
  rw [Automation.targetMentions]
  cases a.targetType.kind? with
  | none => exact optional_text standsIn_outside (at?_concat_key h rfl)
  | some kind => exact optional_text standsIn_entry (at?_concat_key h rfl)

theorem Automation.shows : Shows Automation.encode Automation.mentions := by
  intro doc path a h
  simp only [Automation.mentions, List.forall_mem_append, and_assoc]
  exact ⟨standsIn_targetMentions h, AutomationTrigger.shows (at?_concat_key h rfl),
    ResourceRate.shows.optional (at?_concat_key h rfl),
      Formula.shows.optional (at?_concat_key h rfl),
    Condition.shows.optional (at?_concat_key h rfl)⟩

theorem ResourceAmount.shows : Shows ResourceAmount.encode ResourceAmount.mentions := fun _ _ _ h ↦
  standsIn_amount h rfl rfl

theorem TransformTrigger.shows : Shows TransformTrigger.encode TransformTrigger.mentions := by
  intro doc path t h
  cases t with
  | manual => exact List.forall_mem_nil _
  | condition => exact Condition.shows (at?_concat_key h rfl)
  | event => exact List.forall_mem_singleton.2 (at?_concat_key h rfl)
  | automation => exact standsIn_name h rfl

theorem at?_concat_entry {d : Dict Formula} (h : doc.at? path = some (d.encode Formula.encode))
    {stat : String} {f : Formula} (hmem : (stat, f) ∈ d.entries) :
    doc.at? (path.key stat) = some f.encode := by
  refine at?_concat_key h ?_
  have hlookup := lookup_of_mem (nodup_of_ascending d.ascending) hmem
  rw [Dict.encode, field?, lookup_map fun _ ↦ Formula.encode, hlookup, Option.map_some]

theorem EntityRequirement.shows : Shows EntityRequirement.encode EntityRequirement.mentions := by
  intro doc path r h
  have hminStats : doc.at? (path.key "minStats") = some (r.minStats.encode Formula.encode) :=
    at?_concat_key h rfl
  simp only [EntityRequirement.mentions, List.cons_append, List.forall_mem_cons,
    List.forall_mem_append, List.forall_mem_flatMap]
  refine ⟨.inl (at?_concat_key h rfl), Formula.shows (at?_concat_key h rfl), fun e he ↦ ?_⟩
  have hminimum := at?_concat_entry hminStats he
  refine ⟨⟨path, e.2, at?_concat_key h rfl, ?_, hminimum⟩, Formula.shows hminimum⟩
  exact List.append_assoc ..

theorem Transform.standsIn_requirementMentions {t : Transform} (h : doc.at? path = some t.encode) :
    ∀ m ∈ t.requirementMentions path, m.StandsIn doc := by
  rw [requirementMentions]
  split
  · exact EntityRequirement.shows.each (at?_concat_key h rfl)
  · exact List.forall_mem_nil _

theorem Transform.shows : Shows Transform.encode Transform.mentions := by
  intro doc path t h
  simp only [Transform.mentions, List.forall_mem_append, and_assoc]
  exact ⟨ResourceAmount.shows.each (at?_concat_key h rfl),
    ResourceAmount.shows.each (at?_concat_key h rfl), Formula.shows.optional (at?_concat_key h rfl),
    Formula.shows.optional (at?_concat_key h rfl), TransformTrigger.shows (at?_concat_key h rfl),
    standsIn_requirementMentions h, Condition.shows.optional (at?_concat_key h rfl),
    Condition.shows.optional (at?_concat_key h rfl)⟩

theorem PrestigeReward.shows : Shows PrestigeReward.encode PrestigeReward.mentions := fun _ _ _ h ↦
  List.forall_mem_cons.2 ⟨.inl (at?_concat_key h rfl), List.forall_mem_append.2
    ⟨Formula.shows (at?_concat_key h rfl), Formula.shows.optional (at?_concat_key h rfl)⟩⟩

theorem Retention.shows : Shows Retention.encode Retention.mentions := by
  intro doc path r h
  cases r with
  | resource =>
    exact List.forall_mem_cons.2
      ⟨.inl (at?_concat_key h rfl), Formula.shows.optional (at?_concat_key h rfl)⟩
  | generator | upgrade => exact standsIn_name h rfl

theorem PrestigeLayer.shows : Shows PrestigeLayer.encode PrestigeLayer.mentions := by
  intro doc path l h
  simp only [PrestigeLayer.mentions, List.forall_mem_append, List.forall_mem_singleton, and_assoc]
  exact ⟨(text standsIn_entry).each (at?_concat_key h rfl),
    (text standsIn_entry).each (at?_concat_key h rfl),
    (text standsIn_entry).each (at?_concat_key h rfl), Condition.shows (at?_concat_key h rfl),
    PrestigeReward.shows (at?_concat_key h rfl), Retention.shows.each (at?_concat_key h rfl),
    at?_concat_key h rfl⟩

theorem Stat.shows : Shows Stat.encode Stat.mentions := by
  intro doc path s h
  simp only [Stat.mentions, List.forall_mem_append, and_assoc]
  exact ⟨Formula.shows (at?_concat_key h rfl), Formula.shows.optional (at?_concat_key h rfl),
    Formula.shows.optional (at?_concat_key h rfl)⟩

/-- The growth of a stat is about the entity two levels above. -/
theorem Entity.standsIn_growthMentions {e : Entity} {p : Progression}
    (h : doc.at? path = some e.encode) (hp : doc.at? (path.key "progression") = some p.encode) :
    ∀ m ∈ e.growthMentions (path.key "progression") p, m.StandsIn doc := by
  have hgrowth : doc.at? ((path.key "progression").key "statGrowth") =
      some (p.statGrowth.encode Formula.encode) := at?_concat_key hp rfl
  simp only [growthMentions, List.forall_mem_cons, List.forall_mem_append,
    List.forall_mem_flatMap, and_assoc]
  refine ⟨optional_text standsIn_entry (at?_concat_key hp rfl),
    Formula.shows (at?_concat_key hp rfl), fun g hg ↦ ?_⟩
  have hformula := at?_concat_entry hgrowth hg
  have hplace : ((path.key "progression").key "statGrowth").key g.1 =
      path ++ [.key "progression", .key "statGrowth", .key g.1] := by
    simp only [Path.key, List.append_assoc, List.cons_append, List.nil_append]
  exact ⟨⟨path, g.2, at?_concat_key h rfl, hplace, hformula⟩, Formula.shows hformula⟩

theorem Entity.shows : Shows Entity.encode Entity.mentions := by
  intro doc path e h
  have hprogression : ∀ m ∈ Mention.optional (fun path p ↦ e.growthMentions path p)
      (path.key "progression") e.progression, m.StandsIn doc := by
    have hplace :
        doc.at? (path.key "progression") = some (.ofOption Progression.encode e.progression) :=
      at?_concat_key h rfl
    cases hp : e.progression with
    | none => exact List.forall_mem_nil _
    | some p =>
      rw [hp] at hplace
      exact standsIn_growthMentions h hplace
  simp only [Entity.mentions, List.forall_mem_append, and_assoc]
  exact ⟨Stat.shows.each (at?_concat_key h rfl), Formula.shows.optional (at?_concat_key h rfl),
    hprogression, Condition.shows.optional (at?_concat_key h rfl),
    Condition.shows.optional (at?_concat_key h rfl)⟩

theorem Metric.shows : Shows Metric.encode Metric.mentions := by
  intro doc path m h
  have hsource : doc.at? (path.key "source") = some m.source.encode := at?_concat_key h rfl
  rw [Metric.mentions]
  cases hm : m.source with
  | script id =>
    rw [hm] at hsource
    exact List.forall_mem_singleton.2 (at?_concat_key hsource rfl)
  | runtime | content => exact List.forall_mem_nil _

theorem Emitter.shows : Shows Emitter.encode Emitter.mentions := by
  intro doc path e h
  have hsource : doc.at? (path.key "source") = some e.encodeSource := at?_concat_key h rfl
  cases e with
  | achievement | upgrade | transform => exact standsIn_name hsource rfl
  | script => exact List.forall_mem_singleton.2 (at?_concat_key hsource rfl)

theorem RuntimeEvent.shows : Shows RuntimeEvent.encode RuntimeEvent.mentions := fun _ _ _ h ↦
  List.forall_mem_cons.2 ⟨at?_concat_key h rfl, Emitter.shows.each (at?_concat_key h rfl)⟩

theorem Kind.shows (kind : Kind) : Shows kind.encodeEntry kind.entryMentions := by
  cases kind with
  | resource => exact Resource.shows
  | generator => exact Generator.shows
  | upgrade => exact Upgrade.shows
  | achievement => exact Achievement.shows
  | automation => exact Automation.shows
  | transform => exact Transform.shows
  | prestigeLayer => exact PrestigeLayer.shows
  | entity => exact Entity.shows
  | metric => exact Metric.shows
  | runtimeEvent => exact RuntimeEvent.shows

theorem Pack.field?_encode (p : Pack) (kind : Kind) :
    p.encode.field? kind.key = some (.arr ((p.collection kind).map kind.encodeEntry)) := by
  cases kind <;> rfl

theorem Pack.standsIn_mentions (p : Pack) : ∀ m ∈ p.mentions, m.StandsIn p.encode := by
  rw [mentions, List.forall_mem_flatMap]
  exact fun kind _ ↦ kind.shows.each ((at?_field ..).trans (p.field?_encode kind))

end GamePack
