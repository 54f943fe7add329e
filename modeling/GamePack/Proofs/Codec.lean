import GamePack.Proofs.Schema.Writers
import GamePack.Proofs.Settings

namespace GamePack

open Decode

/-- The values of a type, with how they are read and written. -/
structure Codec where
  Value : Type
  decoder : ∀ n, Decoder n Value
  encode : Value → Json

namespace Codec

def read (c : Codec) (v : Json) : Except Decode.Error c.Value := Decode.run c.decoder v

def rewrite (c : Codec) (v : Json) : Except Decode.Error Json := (c.read v).map c.encode

def ofNames {α : Type} [DecidableEq α] (names : List (String × α)) : Codec :=
  ⟨α, fun _ ↦ Decode.choice names, encodeName names⟩

def ofKind (kind : Kind) : Codec := ⟨kind.Entry, fun _ ↦ kind.entryDecoder, kind.encodeEntry⟩

def formulas : List Codec :=
  [ofNames Variable.names, ofNames BinaryOperator.names, ofNames UnaryOperator.names,
    ⟨Target, fun _ ↦ Target.decoder, Target.encode⟩,
    ⟨Expression, Expression.decoder, Expression.encode⟩,
    ⟨Option Double × Formula, fun n ↦ Formula.piece (Formula.decoder n), Formula.encodePiece⟩,
    ⟨Formula, Formula.decoder, Formula.encode⟩]

def shared : List Codec :=
  [⟨DisplayText, fun _ ↦ DisplayText.decoder, DisplayText.encode⟩,
    ofNames Comparator.names,
    ⟨Condition, Condition.decoder, Condition.encode⟩,
    ⟨Metadata, fun _ ↦ Metadata.decoder, Metadata.encode⟩,
    ⟨Dependencies, fun _ ↦ Dependencies.decoder, Dependencies.encode⟩,
    ⟨Dependency, fun _ ↦ Dependency.decoder, Dependency.encode⟩,
    ⟨Kind, fun _ ↦ Kind.decoder, fun kind ↦ .str kind.name⟩,
    ⟨Kind, fun _ ↦ Kind.keyDecoder, fun kind ↦ .str kind.key⟩]

def parts : List Codec :=
  [⟨ResourceRate, fun _ ↦ ResourceRate.decoder, ResourceRate.encode⟩,
    ⟨Purchase, fun _ ↦ Purchase.decoder, Purchase.encode⟩,
    ⟨UpgradeTarget, fun _ ↦ UpgradeTarget.decoder, UpgradeTarget.encode⟩,
    ⟨UpgradeCost, fun _ ↦ UpgradeCost.decoder, UpgradeCost.encode⟩,
    ⟨Repetition, fun _ ↦ Repetition.decoder, Repetition.encode⟩,
    ofNames Operation.names,
    ⟨Effect, fun _ ↦ Effect.decoder, Effect.encode⟩,
    ⟨Prerequisite, fun _ ↦ Prerequisite.decoder, Prerequisite.encode⟩,
    ⟨Track, fun _ ↦ Track.decoder, Track.encode⟩,
    ofNames ProgressMode.names,
    ⟨Progress, fun _ ↦ Progress.decoder, Progress.encode⟩,
    ⟨Reward, fun _ ↦ Reward.decoder, Reward.encode⟩,
    ofNames AutomationTarget.names,
    ⟨AutomationTrigger, fun _ ↦ AutomationTrigger.decoder, AutomationTrigger.encode⟩,
    ofNames TransformMode.names,
    ⟨ResourceAmount, fun _ ↦ ResourceAmount.decoder, ResourceAmount.encode⟩,
    ⟨TransformTrigger, fun _ ↦ TransformTrigger.decoder, TransformTrigger.encode⟩,
    ⟨EntityRequirement, fun _ ↦ EntityRequirement.decoder, EntityRequirement.encode⟩,
    ⟨PrestigeReward, fun _ ↦ PrestigeReward.decoder, PrestigeReward.encode⟩,
    ⟨Retention, fun _ ↦ Retention.decoder, Retention.encode⟩,
    ⟨Stat, fun _ ↦ Stat.decoder, Stat.encode⟩,
    ⟨Progression, fun _ ↦ Progression.decoder, Progression.encode⟩,
    ofNames MetricKind.names,
    ⟨MetricSource, fun _ ↦ MetricSource.decoder, MetricSource.encode⟩,
    ⟨Payload, fun _ ↦ Payload.decoder, Payload.encode⟩,
    ⟨Emitter, fun _ ↦ Emitter.source, Emitter.encodeSource⟩,
    ⟨Emitter, fun _ ↦ Emitter.decoder, Emitter.encode⟩]

def settings : List Codec :=
  [⟨Step, fun _ ↦ Step.decoder, Step.encode⟩,
    ⟨Path, fun _ ↦ Path.decoder, Path.encode⟩,
    ofNames Severity.names,
    ⟨AllowlistSpec, fun _ ↦ AllowlistSpec.decoder, AllowlistSpec.encode⟩,
    ⟨AllowlistSpecs, fun _ ↦ AllowlistSpecs.decoder, AllowlistSpecs.encode⟩,
    ⟨KnownPack, fun _ ↦ KnownPack.decoder, KnownPack.encode⟩,
    ⟨FeatureGate, fun _ ↦ FeatureGate.decoder, FeatureGate.encode⟩,
    ⟨BalanceSettings, fun _ ↦ BalanceSettings.decoder, BalanceSettings.encode⟩,
    ⟨Config, fun _ ↦ Config.decoder, Config.encode⟩]

def all : List Codec := Kind.all.map ofKind ++ formulas ++ shared ++ parts ++ settings

/-- What is read from a document is written so that it can be read again; with ascending keys, if
the keys of the document were ascending. -/
def Restores (c : Codec) : Prop :=
  ∀ order v a, v.inOrder order = v → c.read v = .ok a →
    ∀ n, Reads order (c.decoder n) (c.encode a) a

variable {α : Type}

namespace Restores

theorem of_decoder {c : Codec}
    (h : ∀ order n n', Decode.Restores order (c.decoder n) (c.decoder n') c.encode) :
    c.Restores := fun order _ a _ hrun n ↦ (h order _ n _ _ a hrun).1

theorem of_reads {c : Codec} (h : ∀ order n a, Reads order (c.decoder n) (c.encode a) a) :
    c.Restores :=
  fun order _ a _ _ n ↦ h order n a

theorem ofNames [DecidableEq α] {names : List (String × α)} (hnodup : (names.map (·.1)).Nodup) :
    (Codec.ofNames names).Restores := .of_decoder fun _ _ _ ↦ Decode.Restores.choice (α := α) hnodup

end Restores

theorem restores_formulas : ∀ c ∈ formulas, c.Restores := by
  simp only [formulas, List.forall_mem_cons]
  exact ⟨.ofNames (by decide), .ofNames (by decide), .ofNames (by decide),
    .of_decoder fun _ _ _ ↦ Target.restores, .of_decoder fun _ ↦ Expression.restores,
    .of_decoder fun _ n n' ↦ Formula.piece_restores (Formula.restores n n'),
    .of_decoder fun _ ↦ Formula.restores, nofun⟩

theorem restores_shared : ∀ c ∈ shared, c.Restores := by
  simp only [shared, List.forall_mem_cons]
  exact ⟨.of_decoder fun _ _ _ ↦ DisplayText.restores, .ofNames (by decide),
    .of_decoder fun _ ↦ Condition.restores, .of_decoder fun _ _ _ ↦ Metadata.restores,
    .of_decoder fun _ _ _ ↦ Dependencies.restores, .of_decoder fun _ _ _ ↦ Dependency.restores,
    .of_reads fun _ _ ↦ Kind.reads_name, .of_reads fun _ _ ↦ Kind.reads_key, nofun⟩

theorem restores_parts : ∀ c ∈ parts, c.Restores := by
  simp only [parts, List.forall_mem_cons]
  exact ⟨.of_decoder fun _ _ _ ↦ ResourceRate.restores, .of_decoder fun _ _ _ ↦ Purchase.restores,
    .of_decoder fun _ _ _ ↦ UpgradeTarget.restores, .of_decoder fun _ _ _ ↦ UpgradeCost.restores,
    .of_decoder fun _ _ _ ↦ Repetition.restores, .ofNames (by decide),
      .of_decoder fun _ _ _ ↦ Effect.restores,
    .of_decoder fun _ _ _ ↦ Prerequisite.restores, .of_decoder fun _ _ _ ↦ Track.restores,
    .ofNames (by decide), .of_decoder fun _ _ _ ↦ Progress.restores,
      .of_decoder fun _ _ _ ↦ Reward.restores,
    .ofNames (by decide), .of_decoder fun _ _ _ ↦ AutomationTrigger.restores, .ofNames (by decide),
    .of_decoder fun _ _ _ ↦ ResourceAmount.restores,
      .of_decoder fun _ _ _ ↦ TransformTrigger.restores,
    .of_decoder fun _ _ _ ↦ EntityRequirement.restores,
      .of_decoder fun _ _ _ ↦ PrestigeReward.restores,
    .of_decoder fun _ _ _ ↦ Retention.restores, .of_decoder fun _ _ _ ↦ Stat.restores,
    .of_decoder fun _ _ _ ↦ Progression.restores, .ofNames (by decide),
    .of_decoder fun _ _ _ ↦ MetricSource.restores, .of_decoder fun _ _ _ ↦ Payload.restores,
    .of_decoder fun _ _ _ ↦ Emitter.source_restores,
      .of_decoder fun _ _ _ ↦ Emitter.restores, nofun⟩

theorem restores_settings : ∀ c ∈ settings, c.Restores := by
  simp only [settings, List.forall_mem_cons]
  refine ⟨.of_decoder fun _ _ _ ↦ Step.restores, .of_decoder fun _ _ _ ↦ Path.restores,
    .ofNames (by decide), .of_reads fun _ _ ↦ AllowlistSpec.reads,
    .of_reads fun _ _ ↦ AllowlistSpecs.reads, .of_reads fun _ _ ↦ KnownPack.reads,
    .of_reads fun _ _ ↦ FeatureGate.reads, fun order v a hv hrun n ↦ BalanceSettings.reads ?_,
    fun order v a hv hrun n ↦ Config.reads ?_, nofun⟩
  · cases order with
    | declared => rfl
    | ascending => exact BalanceSettings.sorted_config hrun hv
  · cases order with
    | declared => rfl
    | ascending => exact Config.sorted_config hrun hv

theorem restores_all : ∀ c ∈ all, c.Restores := by
  simp only [all, List.forall_mem_append]
  refine ⟨⟨⟨⟨fun c hc ↦ ?_, restores_formulas⟩, restores_shared⟩, restores_parts⟩,
    restores_settings⟩
  obtain ⟨kind, -, rfl⟩ := List.mem_map.1 hc
  exact .of_decoder fun _ _ _ ↦ kind.restores

variable {c : Codec} {v : Json} {a : c.Value}

/-- A value is written as a document that is read as the same value, with the keys as declared or
ascending. So writing what was read is done once and for all, and two documents are written alike if
they say the same. -/
theorem read_encode (hc : c ∈ all) (h : c.read v = .ok a) :
    c.read (c.encode a) = .ok a ∧ (v.sorted = v → c.read (c.encode a).sorted = .ok a) ∧
      c.rewrite (c.encode a) = c.rewrite v ∧ ∀ w, c.rewrite w = c.rewrite v ↔ c.read w = .ok a := by
  have hrestores := restores_all c hc
  have hdeclared {w : Json} {b : c.Value} (hb : c.read w = .ok b) : c.read (c.encode b) = .ok b :=
    hrestores .declared w b rfl hb _ _ _ rfl
  have hrewrite {w : Json} {b : c.Value} (hb : c.read w = .ok b) :
      c.rewrite w = .ok (c.encode b) := by
    rw [rewrite, hb]
    rfl
  refine ⟨hdeclared h, fun hv ↦ hrestores .ascending v a hv h _ _ _ rfl, ?_,
    fun w ↦ ⟨fun hw ↦ ?_, fun hw ↦ ?_⟩⟩
  · rw [hrewrite h, hrewrite (hdeclared h)]
  · rw [hrewrite h] at hw
    obtain ⟨b, hb, heq⟩ := map_eq_ok.1 hw
    have hback := hdeclared hb
    rw [heq, hdeclared h] at hback
    exact hb.trans (congrArg Except.ok (Except.ok.inj hback).symm)
  · rw [hrewrite h, hrewrite hw]

/-- An achievement in short forms: a bare name, a value by position, a variant by
number, absent fields. -/
def shortAchievement : Json := .obj
  [("id", .str "a"),
    ("name", .str "A"),
    ("track", .arr [.str "flag", .str "f"]),
    ("unlockCondition", .obj
      [("condition", .obj [("kind", .ofNat 4), ("upgradeId", .str "u")]), ("kind", .str "not")])]

def longAchievement : Json := .obj
  [("id", .str "a"),
    ("name", .obj [("default", .str "A")]),
    ("description", .null),
    ("category", .null),
    ("track", .obj [("kind", .str "flag"), ("flagId", .str "f")]),
    ("progress", .null),
    ("reward", .null),
    ("onUnlockEvents", .arr []),
    ("unlockCondition", .obj
      [("kind", .str "not"),
        ("condition", .obj
          [("kind", .str "upgradeOwned"), ("upgradeId", .str "u"),
            ("requiredPurchases", .ofNat 1)])]),
    ("visibilityCondition", .null),
    ("tags", .arr [])]

theorem read_long_of_short : ∃ a, (ofKind .achievement).read shortAchievement = .ok a ∧
    Achievement.encode a = longAchievement ∧ (ofKind .achievement).read longAchievement = .ok a ∧
    (ofKind .achievement).read longAchievement.sorted = .ok a ∧
    (ofKind .achievement).rewrite longAchievement = .ok longAchievement := by
  have hlong : (ofKind .achievement).rewrite shortAchievement = .ok longAchievement := rfl
  have hmem : ofKind .achievement ∈ all := by simp [all, Kind.all]
  obtain ⟨a, ha, hencode⟩ := map_eq_ok.1 hlong
  obtain ⟨hdeclared, hascending, hrewrite, -⟩ := read_encode hmem ha
  rw [hencode] at hdeclared hascending hrewrite
  exact ⟨a, ha, hencode, hdeclared, hascending rfl, hrewrite.trans hlong⟩

end Codec

end GamePack
