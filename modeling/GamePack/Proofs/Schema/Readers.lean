import GamePack.Content.Pack
import GamePack.Proofs.Decode.Structure

namespace GamePack

open Decode Fields.Tracks

variable {n n' : Nat}

theorem DisplayText.full_eq_ok {mode : Mode} {v : Below n} {t : DisplayText} :
    full mode v = .ok t ↔ (∀ items, v.1 ≠ .arr items) ∧ fields.closed "" mode v = .ok t := by
  unfold full
  cases v.1 <;> simp [wrong, fail]

theorem DisplayText.tracks :
    Tracks .display (DisplayText.decoder (n := n)) (DisplayText.decoder (n := n')) := by
  have hclosed : Tracks (.record .displayText) (fields.closed "" : Decoder n DisplayText)
      (fields.closed "" : Decoder n' DisplayText) :=
    .closed ((required .string).map.seq (defaulted (.dict .string))) rfl
  refine .shorthand fun mode v v' a hrun hagree ↦ ?_
  obtain ⟨hobject, hrun⟩ := full_eq_ok.1 hrun
  obtain ⟨hrun', hstrict⟩ := hclosed mode v v' a hrun hagree
  refine ⟨full_eq_ok.2 ⟨fun items' hitems' ↦ ?_, hrun'⟩, hstrict⟩
  obtain ⟨items, hitems⟩ := Form.Agree.exists_arr (hitems' ▸ hagree.symm)
  exact hobject items hitems

theorem Dependency.tracks :
    Tracks (.record .dependency) (Dependency.decoder (n := n)) (Dependency.decoder (n := n')) :=
  .closed ((required .string).map.seq (optional .string)) rfl

theorem Dependencies.tracks :
    Tracks (.record .dependencies) (Dependencies.decoder (n := n))
      (Dependencies.decoder (n := n')) :=
  .closed ((listed Dependency.tracks).map.seq (listed Dependency.tracks)
    |>.seq (listed Dependency.tracks) |>.seq (listed .string)) rfl

theorem Metadata.tracks :
    Tracks (.record .metadata) (Metadata.decoder (n := n)) (Metadata.decoder (n := n')) :=
  .closed ((required .string).map.seq (required DisplayText.tracks)
    |>.seq (optional DisplayText.tracks) |>.seq (required .string) |>.seq (defaulted .string)
    |>.seq (listed .string) |>.seq (listed .string) |>.seq (defaulted .string)
    |>.seq (listed .string) |>.seq (defaulted Dependencies.tracks)) rfl

theorem Target.tracks :
    Tracks (.union .target) (Target.decoder (n := n)) (Target.decoder (n := n')) :=
  .tagged (.cons (.withFields (required (.choice _)).map) <|
    .cons (.withFields (required .string).map) <|
    .cons (.withFields (required .string).map) <| .cons (.withFields (required .string).map) <|
    .cons (.withFields (required .string).map) <| .cons (.withFields (required .string).map) .nil)
      rfl rfl rfl

theorem Expression.tracks : (n n' : Nat) →
    Tracks (.union .expression) (Expression.decoder n) (Expression.decoder n')
  | 0, _ => fun _ v ↦ absurd v.2 (Nat.not_lt_zero _)
  | _ + 1, 0 => fun _ _ v' ↦ absurd v'.2 (Nat.not_lt_zero _)
  | n + 1, n' + 1 =>
    .tagged (.cons (.withFields (required .double).map) <|
      .cons (.withFields (required Target.tracks).map) <|
      .cons (.withFields ((required (.choice _)).map.seq (required (tracks n n'))
        |>.seq (required (tracks n n')))) <|
      .cons (.withFields ((required (.choice _)).map.seq (required (tracks n n')))) <|
      .cons (.withFields ((required .string).map.seq (listed (tracks n n')))) .nil) rfl rfl rfl

theorem Comparator.tracks : Fields.Tracks [("comparator", .plain)] (Comparator.field (n := n))
    (Comparator.field (n := n')) := defaulted (.choice _)

theorem Formula.piece_tracks {d : Decoder n Formula} {d' : Decoder n' Formula}
    (h : Tracks .formula d d') : Tracks (.record .piece) (piece d) (piece d') :=
  .closed ((optional .double).map.seq (required h)) rfl

theorem Formula.tracks : (n n' : Nat) → Tracks .formula (Formula.decoder n) (Formula.decoder n')
  | 0, _ => fun _ v ↦ absurd v.2 (Nat.not_lt_zero _)
  | _ + 1, 0 => fun _ _ v' ↦ absurd v'.2 (Nat.not_lt_zero _)
  | n + 1, n' + 1 =>
    .tagged (.cons (.withFields (required .double).map) <|
      .cons (.withFields ((required .double).map.seq (required .double))) <|
      .cons (.withFields ((required .double).map.seq (required .double)
        |>.seq (defaulted .double))) <|
      .cons (.withFields (required (.nonEmpty .double)).map) <|
      .cons (.withFields (required (.nonEmpty (piece_tracks (tracks n n')))).map) <|
      .cons (.withFields (required (Expression.tracks n n')).map) .nil) rfl rfl rfl

theorem Comparator.threshold_tracks {α : Type} {key value : String} {role : Role}
    {build : String → Comparator → Formula → α} :
    Fields.Tracks [(key, .text role), ("comparator", .plain), (value, .formula)]
      (build <$> .required key (string (n := n)) <*> Comparator.field <*>
        .required value (Formula.decoder n))
      (build <$> .required key (string (n := n')) <*> Comparator.field <*>
        .required value (Formula.decoder n')) :=
  (required .string).map.seq Comparator.tracks |>.seq (required (Formula.tracks n n'))

theorem Condition.tracks :
    (n n' : Nat) → Tracks .condition (Condition.decoder n) (Condition.decoder n')
  | 0, _ => fun _ v ↦ absurd v.2 (Nat.not_lt_zero _)
  | _ + 1, 0 => fun _ _ v' ↦ absurd v'.2 (Nat.not_lt_zero _)
  | n + 1, n' + 1 =>
    .tagged (.cons .plain <| .cons .plain <|
      .cons (.withFields Comparator.threshold_tracks) <|
      .cons (.withFields Comparator.threshold_tracks) <|
      .cons (.withFields ((required .string).map.seq (defaulted .nat32))) <|
      .cons (.withFields ((required .string).map.seq Comparator.tracks |>.seq (required .nat32))) <|
      .cons (.withFields (required .string).map) <| .cons (.withFields (required .string).map) <|
      .cons (.withFields (required .string).map) <| .cons (.withFields (required .string).map) <|
      .cons (.withFields (required (.list (tracks n n'))).map) <|
      .cons (.withFields (required (.list (tracks n n'))).map) <|
      .cons (.withFields (required (tracks n n')).map) .nil) rfl rfl rfl

theorem Resource.tracks :
    Tracks (.record .resource) (Resource.decoder (n := n)) (Resource.decoder (n := n')) :=
  .closed ((required .string).map.seq (required DisplayText.tracks) |>.seq (defaulted .string)
    |>.seq (defaulted .nat32) |>.seq (optional .string) |>.seq (defaulted .double)
    |>.seq (optional .double) |>.seq (defaulted .bool) |>.seq (defaulted .bool)
    |>.seq (optional (Condition.tracks n n')) |>.seq (optional (Condition.tracks n n'))
    |>.seq (optional .double) |>.seq (optional .double) |>.seq (listed .string)) rfl

theorem ResourceRate.tracks :
    Tracks (.record .resourceRate) (ResourceRate.decoder (n := n))
      (ResourceRate.decoder (n := n')) :=
  .closed ((required .string).map.seq (required (Formula.tracks n n'))) rfl

theorem Purchase.tracks :
    Tracks (.record .purchase) (Purchase.decoder (n := n)) (Purchase.decoder (n := n')) :=
  .closed ((required .string).map.seq (defaulted .double) |>.seq (required (Formula.tracks n n'))
    |>.seq (optional .nat32)) rfl

theorem Generator.tracks :
    Tracks (.record .generator) (Generator.decoder (n := n)) (Generator.decoder (n := n')) :=
  .closed ((required .string).map.seq (required DisplayText.tracks)
    |>.seq (listed ResourceRate.tracks) |>.seq (listed ResourceRate.tracks)
    |>.seq (required Purchase.tracks) |>.seq (optional .nat32) |>.seq (defaulted .nat32)
    |>.seq (optional (Condition.tracks n n')) |>.seq (optional (Condition.tracks n n'))
    |>.seq (optional .double) |>.seq (listed .string)) rfl

theorem UpgradeTarget.tracks :
    Tracks (.union .upgradeTarget) (UpgradeTarget.decoder (n := n))
      (UpgradeTarget.decoder (n := n')) :=
  .tagged (.cons .plain <| .cons (.withFields (required .string).map) <|
    .cons (.withFields (required .string).map) <| .cons (.withFields (required .string).map) <|
    .cons (.withFields (required .string).map) .nil) rfl rfl rfl

theorem UpgradeCost.tracks :
    Tracks (.record .upgradeCost) (UpgradeCost.decoder (n := n)) (UpgradeCost.decoder (n := n')) :=
  .closed ((required .string).map.seq (defaulted .double)
    |>.seq (required (Formula.tracks n n'))) rfl

theorem Repetition.tracks :
    Tracks (.record .repetition) (Repetition.decoder (n := n)) (Repetition.decoder (n := n')) :=
  .closed ((optional .nat32).map.seq (optional (Formula.tracks n n'))) rfl

theorem Effect.change_tracks {key : String} {role : Role}
    {change : String → Operation → Formula → Effect} :
    Fields.Tracks [(key, .text role), ("operation", .plain), ("value", .formula)]
      (change <$> .required key (string (n := n)) <*>
          .required "operation" (choice Operation.names) <*>
        .required "value" (Formula.decoder n))
      (change <$> .required key (string (n := n')) <*>
          .required "operation" (choice Operation.names) <*>
        .required "value" (Formula.decoder n')) :=
  (required .string).map.seq (required (.choice _)) |>.seq (required (Formula.tracks n n'))

theorem Effect.tracks :
    Tracks (.union .effect) (Effect.decoder (n := n)) (Effect.decoder (n := n')) :=
  .tagged (.cons (.withFields change_tracks) <| .cons (.withFields change_tracks) <|
    .cons (.withFields (required .string).map) <| .cons (.withFields change_tracks) <|
    .cons (.withFields change_tracks) <| .cons (.withFields change_tracks) <|
    .cons (.withFields ((required .string).map.seq (optional .string) |>.seq (required (.choice _))
      |>.seq (required (Formula.tracks n n')))) <|
    .cons (.withFields (required .string).map) <| .cons (.withFields (required .string).map) <|
    .cons (.withFields ((required .string).map.seq (defaulted .bool))) <|
    .cons (.withFields (required .string).map) .nil) rfl rfl rfl

theorem Prerequisite.tracks :
    Tracks (.shorthand (.entry .upgrade) .condition) (Prerequisite.decoder (n := n))
    (Prerequisite.decoder (n := n')) := .shorthand (Condition.tracks n n').map

theorem Upgrade.tracks :
    Tracks (.record .upgrade) (Upgrade.decoder (n := n)) (Upgrade.decoder (n := n')) :=
  .closed ((required .string).map.seq (required DisplayText.tracks) |>.seq (optional .string)
    |>.seq (listed UpgradeTarget.tracks) |>.seq (required UpgradeCost.tracks)
    |>.seq (optional Repetition.tracks) |>.seq (listed Effect.tracks)
    |>.seq (listed Prerequisite.tracks) |>.seq (optional (Condition.tracks n n'))
    |>.seq (optional (Condition.tracks n n')) |>.seq (listed .string)) rfl

theorem Track.tracks : Tracks (.union .track) (Track.decoder (n := n)) (Track.decoder (n := n')) :=
  .tagged (
    .cons (.withFields Comparator.threshold_tracks) <|
    .cons (.withFields ((required .string).map.seq (required (Formula.tracks n n')))) <|
    .cons (.withFields ((required .string).map.seq (optional (Formula.tracks n n')))) <|
    .cons (.withFields (required .string).map) <| .cons (.withFields (required .string).map) <|
    .cons (.withFields ((required .string).map.seq (required (Formula.tracks n n')))) .nil)
      rfl rfl rfl

theorem Progress.tracks :
    Tracks (.record .progress) (Progress.decoder (n := n)) (Progress.decoder (n := n')) :=
  .closed ((optional (Formula.tracks n n')).map.seq (defaulted (.choice _))) rfl

theorem Reward.tracks :
    Tracks (.union .reward) (Reward.decoder (n := n)) (Reward.decoder (n := n')) :=
  .tagged (.cons (.withFields ((required .string).map.seq (required (Formula.tracks n n')))) <|
    .cons (.withFields (required .string).map) <| .cons (.withFields (required .string).map) <|
    .cons (.withFields (required .string).map) <|
    .cons (.withFields ((required .string).map.seq (defaulted .bool))) .nil) rfl rfl rfl

theorem Achievement.tracks :
    Tracks (.record .achievement) (Achievement.decoder (n := n)) (Achievement.decoder (n := n')) :=
  .closed ((required .string).map.seq (required DisplayText.tracks)
    |>.seq (optional DisplayText.tracks) |>.seq (optional .string) |>.seq (required Track.tracks)
    |>.seq (optional Progress.tracks) |>.seq (optional Reward.tracks) |>.seq (listed .string)
    |>.seq (optional (Condition.tracks n n')) |>.seq (optional (Condition.tracks n n'))
    |>.seq (listed .string)) rfl

theorem AutomationTrigger.tracks :
    Tracks (.union .automationTrigger) (AutomationTrigger.decoder (n := n))
      (AutomationTrigger.decoder (n := n')) :=
  .tagged (.cons (.withFields (required (Formula.tracks n n')).map) <|
    .cons (.withFields Comparator.threshold_tracks) <|
    .cons .plain <| .cons (.withFields (required .string).map) .nil) rfl rfl rfl

theorem Automation.tracks :
    Tracks (.record .automation) (Automation.decoder (n := n)) (Automation.decoder (n := n')) :=
  .closed ((required .string).map.seq (required DisplayText.tracks)
    |>.seq (optional DisplayText.tracks) |>.seq (required (.choice _)) |>.seq (optional .string)
    |>.seq (optional .string) |>.seq (required AutomationTrigger.tracks)
    |>.seq (optional ResourceRate.tracks) |>.seq (optional (Formula.tracks n n'))
    |>.seq (optional (Condition.tracks n n')) |>.seq (defaulted .bool)
    |>.seq (optional .double)) rfl

theorem ResourceAmount.tracks :
    Tracks (.record .resourceAmount) (ResourceAmount.decoder (n := n))
      (ResourceAmount.decoder (n := n')) :=
  .closed ((required .string).map.seq (required (Formula.tracks n n'))) rfl

theorem TransformTrigger.tracks :
    Tracks (.union .transformTrigger) (TransformTrigger.decoder (n := n))
      (TransformTrigger.decoder (n := n')) :=
  .tagged (.cons .plain <| .cons (.withFields (required (Condition.tracks n n')).map) <|
    .cons (.withFields (required .string).map) <|
    .cons (.withFields (required .string).map) .nil) rfl rfl rfl

theorem EntityRequirement.tracks :
    Tracks (.record .entityRequirement) (EntityRequirement.decoder (n := n))
      (EntityRequirement.decoder (n := n')) :=
  .closed ((required .string).map.seq (defaulted (Formula.tracks n n'))
    |>.seq (defaulted (.dict (Formula.tracks n n'))) |>.seq (defaulted .bool)) rfl

theorem Transform.tracks :
    Tracks (.record .transform) (Transform.decoder (n := n)) (Transform.decoder (n := n')) :=
  .closed ((required .string).map.seq (required DisplayText.tracks)
    |>.seq (optional DisplayText.tracks) |>.seq (required (.choice _))
    |>.seq (listed ResourceAmount.tracks) |>.seq (listed ResourceAmount.tracks)
    |>.seq (optional (Formula.tracks n n')) |>.seq (optional (Formula.tracks n n'))
    |>.seq (defaulted TransformTrigger.tracks)
    |>.seq (defaulted EntityRequirement.tracks.list.onMission)
    |>.seq (optional (Condition.tracks n n')) |>.seq (optional (Condition.tracks n n'))
    |>.seq (listed .string)) rfl

theorem PrestigeReward.tracks :
    Tracks (.record .prestigeReward) (PrestigeReward.decoder (n := n))
      (PrestigeReward.decoder (n := n')) :=
  .closed ((required .string).map.seq (required (Formula.tracks n n'))
    |>.seq (optional (Formula.tracks n n'))) rfl

theorem Retention.tracks :
    Tracks (.union .retention) (Retention.decoder (n := n)) (Retention.decoder (n := n')) :=
  .tagged (.cons (.withFields ((required .string).map.seq (optional (Formula.tracks n n')))) <|
    .cons (.withFields (required .string).map) <|
    .cons (.withFields (required .string).map) .nil) rfl rfl rfl

theorem PrestigeLayer.tracks :
    Tracks (.record .prestigeLayer) (PrestigeLayer.decoder (n := n))
      (PrestigeLayer.decoder (n := n')) :=
  .closed ((required .string).map.seq (required DisplayText.tracks)
    |>.seq (optional DisplayText.tracks) |>.seq (listed .string) |>.seq (listed .string)
    |>.seq (listed .string) |>.seq (required (Condition.tracks n n'))
    |>.seq (required PrestigeReward.tracks) |>.seq (listed Retention.tracks)) rfl

theorem Stat.tracks : Tracks (.record .stat) (Stat.decoder (n := n)) (Stat.decoder (n := n')) :=
  .closed ((required .string).map.seq (required DisplayText.tracks)
    |>.seq (required (Formula.tracks n n')) |>.seq (optional (Formula.tracks n n'))
    |>.seq (optional (Formula.tracks n n'))) rfl

theorem Progression.tracks :
    Tracks (.record .progression) (Progression.decoder (n := n)) (Progression.decoder (n := n')) :=
  .closed ((optional .string).map.seq (required (Formula.tracks n n')) |>.seq (optional .nat32)
    |>.seq (defaulted (.dict (Formula.tracks n n')))) rfl

theorem Entity.tracks :
    Tracks (.record .entity) (Entity.decoder (n := n)) (Entity.decoder (n := n')) :=
  .closed ((required .string).map.seq (required DisplayText.tracks)
    |>.seq (optional DisplayText.tracks) |>.seq (listed Stat.tracks)
    |>.seq (optional (Formula.tracks n n')) |>.seq (defaulted .nat32) |>.seq (defaulted .bool)
    |>.seq (optional Progression.tracks) |>.seq (optional (Condition.tracks n n'))
    |>.seq (optional (Condition.tracks n n')) |>.seq (listed .string)) rfl

theorem MetricSource.tracks :
    Tracks (.union .metricSource) (MetricSource.decoder (n := n))
      (MetricSource.decoder (n := n')) :=
  .tagged (.cons .plain <| .cons .plain <| .cons (.withFields (required .string).map) .nil)
    rfl rfl rfl

theorem Metric.tracks :
    Tracks (.record .metric) (Metric.decoder (n := n)) (Metric.decoder (n := n')) :=
  .closed ((required .string).map.seq (required DisplayText.tracks)
    |>.seq (optional DisplayText.tracks) |>.seq (required (.choice _)) |>.seq (defaulted .string)
    |>.seq (optional .string) |>.seq (listed .string) |>.seq (defaulted MetricSource.tracks)) rfl

theorem Payload.tracks :
    Tracks (.record .payload) (Payload.decoder (n := n)) (Payload.decoder (n := n')) :=
  .closed ((required .string).map.seq (optional .string)) rfl

theorem Emitter.source_tracks :
    Tracks (.union .emitterSource) (Emitter.source (n := n)) (Emitter.source (n := n')) :=
  .tagged (.cons (.withFields (required .string).map) <|
    .cons (.withFields (required .string).map) <|
    .cons (.withFields (required .string).map) <|
    .cons (.withFields (required .string).map) .nil) rfl rfl rfl

theorem Emitter.tracks :
    Tracks (.record .emitter) (Emitter.decoder (n := n)) (Emitter.decoder (n := n')) :=
  .closed (required source_tracks) rfl

theorem RuntimeEvent.tracks :
    Tracks (.record .runtimeEvent) (RuntimeEvent.decoder (n := n))
      (RuntimeEvent.decoder (n := n')) :=
  .closed ((required .string).map.seq (defaulted .nat32) |>.seq (optional Payload.tracks)
    |>.seq (listed Emitter.tracks) |>.seq (listed .string)) rfl

theorem Kind.tracks : (kind : Kind) → Tracks (.record kind.record) (kind.entryDecoder (n := n))
    (kind.entryDecoder (n := n'))
  | resource => Resource.tracks
  | generator => Generator.tracks
  | upgrade => Upgrade.tracks
  | achievement => Achievement.tracks
  | automation => Automation.tracks
  | transform => Transform.tracks
  | prestigeLayer => PrestigeLayer.tracks
  | entity => Entity.tracks
  | metric => Metric.tracks
  | runtimeEvent => RuntimeEvent.tracks

end GamePack
