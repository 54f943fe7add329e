import GamePack.Content.Pack
import GamePack.Proofs.Decode.Locates

namespace GamePack

open Decode Fields.Locates

variable {n : Nat}

theorem DisplayText.locates : Locates (DisplayText.decoder (n := n)) := .orElse

theorem Prerequisite.locates : Locates (Prerequisite.decoder (n := n)) := .orElse

theorem Formula.locates : (n : Nat) → Locates (Formula.decoder n)
  | 0 => fun _ v ↦ absurd v.2 (Nat.not_lt_zero _)
  | _ + 1 => .tagged

theorem Condition.locates : (n : Nat) → Locates (Condition.decoder n)
  | 0 => fun _ v ↦ absurd v.2 (Nat.not_lt_zero _)
  | _ + 1 => .tagged

theorem Dependency.locates : Locates (Dependency.decoder (n := n)) :=
  .closed ((required .string).map.seq (optional .string))

theorem Dependencies.locates : Locates (Dependencies.decoder (n := n)) :=
  .closed ((listed Dependency.locates).map.seq (listed Dependency.locates)
    |>.seq (listed Dependency.locates) |>.seq (listed .string))

theorem Metadata.locates : Locates (Metadata.decoder (n := n)) :=
  .closed ((required .string).map.seq (required DisplayText.locates)
    |>.seq (optional DisplayText.locates) |>.seq (required .string) |>.seq (defaulted .string)
    |>.seq (listed .string) |>.seq (listed .string) |>.seq (defaulted .string)
    |>.seq (listed .string) |>.seq (defaulted Dependencies.locates))

theorem Resource.locates : Locates (Resource.decoder (n := n)) :=
  .closed ((required .string).map.seq (required DisplayText.locates) |>.seq (defaulted .string)
    |>.seq (defaulted .nat32) |>.seq (optional .string) |>.seq (defaulted .double)
    |>.seq (optional .double) |>.seq (defaulted .bool) |>.seq (defaulted .bool)
    |>.seq (optional (Condition.locates n)) |>.seq (optional (Condition.locates n))
    |>.seq (optional .double) |>.seq (optional .double) |>.seq (listed .string))

theorem ResourceRate.locates : Locates (ResourceRate.decoder (n := n)) :=
  .closed ((required .string).map.seq (required (Formula.locates n)))

theorem Purchase.locates : Locates (Purchase.decoder (n := n)) :=
  .closed ((required .string).map.seq (defaulted .double) |>.seq (required (Formula.locates n))
    |>.seq (optional .nat32))

theorem Generator.locates : Locates (Generator.decoder (n := n)) :=
  .closed ((required .string).map.seq (required DisplayText.locates)
    |>.seq (listed ResourceRate.locates) |>.seq (listed ResourceRate.locates)
    |>.seq (required Purchase.locates) |>.seq (optional .nat32) |>.seq (defaulted .nat32)
    |>.seq (optional (Condition.locates n)) |>.seq (optional (Condition.locates n))
    |>.seq (optional .double) |>.seq (listed .string))

theorem UpgradeCost.locates : Locates (UpgradeCost.decoder (n := n)) :=
  .closed ((required .string).map.seq (defaulted .double) |>.seq (required (Formula.locates n)))

theorem Repetition.locates : Locates (Repetition.decoder (n := n)) :=
  .closed ((optional .nat32).map.seq (optional (Formula.locates n)))

theorem Upgrade.locates : Locates (Upgrade.decoder (n := n)) :=
  .closed ((required .string).map.seq (required DisplayText.locates) |>.seq (optional .string)
    |>.seq (listed .tagged) |>.seq (required UpgradeCost.locates)
    |>.seq (optional Repetition.locates) |>.seq (listed .tagged)
    |>.seq (listed Prerequisite.locates) |>.seq (optional (Condition.locates n))
    |>.seq (optional (Condition.locates n)) |>.seq (listed .string))

theorem Progress.locates : Locates (Progress.decoder (n := n)) :=
  .closed ((optional (Formula.locates n)).map.seq (defaulted (.choice _)))

theorem Achievement.locates : Locates (Achievement.decoder (n := n)) :=
  .closed ((required .string).map.seq (required DisplayText.locates)
    |>.seq (optional DisplayText.locates) |>.seq (optional .string) |>.seq (required .tagged)
    |>.seq (optional Progress.locates) |>.seq (optional .tagged) |>.seq (listed .string)
    |>.seq (optional (Condition.locates n)) |>.seq (optional (Condition.locates n))
    |>.seq (listed .string))

theorem Automation.locates : Locates (Automation.decoder (n := n)) :=
  .closed ((required .string).map.seq (required DisplayText.locates)
    |>.seq (optional DisplayText.locates) |>.seq (required (.choice _)) |>.seq (optional .string)
    |>.seq (optional .string) |>.seq (required .tagged) |>.seq (optional ResourceRate.locates)
    |>.seq (optional (Formula.locates n)) |>.seq (optional (Condition.locates n))
    |>.seq (defaulted .bool) |>.seq (optional .double))

theorem ResourceAmount.locates : Locates (ResourceAmount.decoder (n := n)) :=
  .closed ((required .string).map.seq (required (Formula.locates n)))

theorem EntityRequirement.locates : Locates (EntityRequirement.decoder (n := n)) :=
  .closed ((required .string).map.seq (defaulted (Formula.locates n))
    |>.seq (defaulted (Formula.locates n).dict) |>.seq (defaulted .bool))

theorem Transform.locates : Locates (Transform.decoder (n := n)) :=
  .closed ((required .string).map.seq (required DisplayText.locates)
    |>.seq (optional DisplayText.locates) |>.seq (required (.choice _))
    |>.seq (listed ResourceAmount.locates) |>.seq (listed ResourceAmount.locates)
    |>.seq (optional (Formula.locates n)) |>.seq (optional (Formula.locates n))
    |>.seq (defaulted .tagged) |>.seq (listed EntityRequirement.locates)
    |>.seq (optional (Condition.locates n)) |>.seq (optional (Condition.locates n))
    |>.seq (listed .string))

theorem PrestigeReward.locates : Locates (PrestigeReward.decoder (n := n)) :=
  .closed ((required .string).map.seq (required (Formula.locates n))
    |>.seq (optional (Formula.locates n)))

theorem PrestigeLayer.locates : Locates (PrestigeLayer.decoder (n := n)) :=
  .closed ((required .string).map.seq (required DisplayText.locates)
    |>.seq (optional DisplayText.locates) |>.seq (listed .string) |>.seq (listed .string)
    |>.seq (listed .string) |>.seq (required (Condition.locates n))
    |>.seq (required PrestigeReward.locates) |>.seq (listed .tagged))

theorem Stat.locates : Locates (Stat.decoder (n := n)) :=
  .closed ((required .string).map.seq (required DisplayText.locates)
    |>.seq (required (Formula.locates n)) |>.seq (optional (Formula.locates n))
    |>.seq (optional (Formula.locates n)))

theorem Progression.locates : Locates (Progression.decoder (n := n)) :=
  .closed ((optional .string).map.seq (required (Formula.locates n)) |>.seq (optional .nat32)
    |>.seq (defaulted (Formula.locates n).dict))

theorem Entity.locates : Locates (Entity.decoder (n := n)) :=
  .closed ((required .string).map.seq (required DisplayText.locates)
    |>.seq (optional DisplayText.locates) |>.seq (listed Stat.locates)
    |>.seq (optional (Formula.locates n)) |>.seq (defaulted .nat32) |>.seq (defaulted .bool)
    |>.seq (optional Progression.locates) |>.seq (optional (Condition.locates n))
    |>.seq (optional (Condition.locates n)) |>.seq (listed .string))

theorem Metric.locates : Locates (Metric.decoder (n := n)) :=
  .closed ((required .string).map.seq (required DisplayText.locates)
    |>.seq (optional DisplayText.locates) |>.seq (required (.choice _)) |>.seq (defaulted .string)
    |>.seq (optional .string) |>.seq (listed .string) |>.seq (defaulted .tagged))

theorem Payload.locates : Locates (Payload.decoder (n := n)) :=
  .closed ((required .string).map.seq (optional .string))

theorem Emitter.locates : Locates (Emitter.decoder (n := n)) := .closed (required .tagged)

theorem RuntimeEvent.locates : Locates (RuntimeEvent.decoder (n := n)) :=
  .closed ((required .string).map.seq (defaulted .nat32) |>.seq (optional Payload.locates)
    |>.seq (listed Emitter.locates) |>.seq (listed .string))

theorem Kind.locates : (kind : Kind) → Locates (kind.entryDecoder (n := n))
  | resource => Resource.locates
  | generator => Generator.locates
  | upgrade => Upgrade.locates
  | achievement => Achievement.locates
  | automation => Automation.locates
  | transform => Transform.locates
  | prestigeLayer => PrestigeLayer.locates
  | entity => Entity.locates
  | metric => Metric.locates
  | runtimeEvent => RuntimeEvent.locates

end GamePack
