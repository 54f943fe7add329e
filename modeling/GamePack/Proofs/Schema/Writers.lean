import GamePack.Content.Pack
import GamePack.Proofs.Decode.Restores
import GamePack.Proofs.Schema.Readers

namespace GamePack

open Decode Fields.Restores

variable {n n' : Nat} {order : FieldOrder}

theorem DisplayText.reads (t : DisplayText) :
    Reads order (DisplayText.decoder (n := n)) t.encode t := by
  have hfull {written : List (String × Json)}
      (h : Reads order (n := n) (fields.closed "") (.obj written) t) :
      Reads order (full (n := n)) (.obj written) t := by
    intro mode v hv
    refine full_eq_ok.2 ⟨fun items heq ↦ ?_, h mode v hv⟩
    cases order <;> cases hv.symm.trans heq
  obtain ⟨text, variants⟩ := t
  unfold encode
  split
  · rename_i hnone
    obtain ⟨entries, hascending⟩ := variants
    obtain rfl := List.isEmpty_iff.1 hnone
    refine .full (hfull fun mode v hv ↦ ?_)
    obtain ⟨v, below⟩ := v
    cases order <;> (cases hv; rfl)
  · exact .full (hfull
      (.closed ((Fields.Reads.required .string).map.seq (.defaulted (.dict fun _ _ ↦ .string)))
      (Record.nodup_fields .displayText)))

theorem DisplayText.restores :
    Restores order (DisplayText.decoder (n := n)) (DisplayText.decoder (n := n'))
      DisplayText.encode :=
  fun _ _ t _ ↦ ⟨t.reads, nofun⟩

theorem Dependency.restores :
    Restores order (Dependency.decoder (n := n)) (Dependency.decoder (n := n')) Dependency.encode :=
  .closed ((required .string).map.seq (optional .string)) (fun _ ↦ rfl)
    (Record.nodup_fields .dependency)

theorem Dependencies.restores :
    Restores order (Dependencies.decoder (n := n)) (Dependencies.decoder (n := n'))
      Dependencies.encode :=
  .closed ((listed Dependency.restores).map.seq (listed Dependency.restores)
    |>.seq (listed Dependency.restores) |>.seq (listed .string))
    (fun _ ↦ rfl) (Record.nodup_fields .dependencies)

theorem Dependencies.reads_none :
    Reads order (Dependencies.decoder (n := n)) Dependencies.none.encode Dependencies.none :=
  Restores.reads (d := fun _ ↦ decoder) (.obj []) restores rfl

theorem Metadata.restores :
    Restores order (Metadata.decoder (n := n)) (Metadata.decoder (n := n')) Metadata.encode :=
  .closed ((required .string).map.seq (required DisplayText.restores)
    |>.seq (optional DisplayText.restores) |>.seq (required .string)
    |>.seq (defaulted .string .string) |>.seq (listed .string) |>.seq (listed .string)
    |>.seq (defaulted .string .string) |>.seq (listed .string)
    |>.seq (defaulted Dependencies.restores Dependencies.reads_none))
    (fun _ ↦ rfl) (Record.nodup_fields .metadata)

theorem Target.restores :
    Restores order (Target.decoder (n := n)) (Target.decoder (n := n')) Target.encode :=
  .tagged .target (
    .cons (.withFields (required (.choice (by decide))).map fun _ ↦ rfl) <|
    .cons (.withFields (required .string).map fun _ ↦ rfl) <|
    .cons (.withFields (required .string).map fun _ ↦ rfl) <|
    .cons (.withFields (required .string).map fun _ ↦ rfl) <|
    .cons (.withFields (required .string).map fun _ ↦ rfl) <|
    .cons (.withFields (required .string).map fun _ ↦ rfl) .nil) rfl rfl rfl

theorem Expression.encodeAll_eq_map (es : List Expression) : encodeAll es = es.map encode := by
  induction es with
  | nil => rfl
  | cons e rest ih => rw [encodeAll, ih, List.map_cons]

theorem Expression.encode_call (name : String) (args : List Expression) :
    (call name args).encode =
      encodeVariant "kind" "call" [("name", .str name), ("args", .arr (args.map encode))] := by
  rw [encode, encodeAll_eq_map]

theorem Expression.encode_ne_null (e : Expression) : e.encode ≠ .null := by
  cases e <;> nofun

theorem Expression.restores :
    (n n' : Nat) → Restores order (Expression.decoder n) (Expression.decoder n') Expression.encode
  | 0, _ => fun _ v ↦ absurd v.2 (Nat.not_lt_zero _)
  | _ + 1, 0 => fun _ _ e _ ↦ ⟨fun _ v' ↦ absurd v'.2 (Nat.not_lt_zero _), e.encode_ne_null⟩
  | n + 1, n' + 1 =>
    .tagged .expression (
      .cons (.withFields (required .double).map fun _ ↦ rfl) <|
      .cons (.withFields (required Target.restores).map fun _ ↦ rfl) <|
      .cons (.withFields ((required (.choice (by decide))).map.seq (required (restores n n'))
        |>.seq (required (restores n n'))) fun _ ↦ rfl) <|
      .cons (.withFields ((required (.choice (by decide))).map.seq (required (restores n n')))
        fun _ ↦ rfl) <|
      .cons (.withFields ((required .string).map.seq (listed (restores n n')))
        fun s ↦ encode_call s.1 s.2) .nil) rfl rfl rfl

theorem Comparator.restores :
    Fields.Restores order (Comparator.field (n := n)) (Comparator.field (n := n')) id
      fun c ↦ [("comparator", c.encode)] :=
  defaulted (.choice (by decide)) (.choice (by decide) (by decide))

def Formula.encodePiece (p : Option Double × Formula) : Json :=
  .obj [("untilLevel", .ofOption .ofDouble p.1), ("formula", p.2.encode)]

theorem Formula.encodePieces_eq_map (pieces : List (Option Double × Formula)) :
    encodePieces pieces = pieces.map encodePiece := by
  induction pieces with
  | nil => rfl
  | cons p rest ih =>
    rw [encodePieces, ih, List.map_cons]
    rfl

theorem Formula.encode_piecewise (pieces : List (Option Double × Formula)) :
    (piecewise pieces).encode =
      encodeVariant "kind" "piecewise" [("pieces", .arr (pieces.map encodePiece))] := by
  rw [encode, encodePieces_eq_map]

theorem Formula.encode_ne_null (f : Formula) : f.encode ≠ .null := by
  cases f <;> nofun

theorem Formula.piece_restores {d : Decoder n Formula} {d' : Decoder n' Formula}
    (h : Restores order d d' Formula.encode) :
    Restores order (piece d) (piece d') Formula.encodePiece :=
  .closed ((optional .double).map.seq (required h)) (fun _ ↦ rfl) (Record.nodup_fields .piece)

theorem Formula.restores :
    (n n' : Nat) → Restores order (Formula.decoder n) (Formula.decoder n') Formula.encode
  | 0, _ => fun _ v ↦ absurd v.2 (Nat.not_lt_zero _)
  | _ + 1, 0 => fun _ _ f _ ↦ ⟨fun _ v' ↦ absurd v'.2 (Nat.not_lt_zero _), f.encode_ne_null⟩
  | n + 1, n' + 1 =>
    .tagged .formula (
      .cons (.withFields (required .double).map fun _ ↦ rfl) <|
      .cons (.withFields ((required .double).map.seq (required .double)) fun _ ↦ rfl) <|
      .cons (.withFields ((required .double).map.seq (required .double)
        |>.seq (defaulted .double .double)) fun _ ↦ rfl) <|
      .cons (.withFields (required (.nonEmpty .double)).map fun _ ↦ rfl) <|
      .cons (.withFields
        (required (.nonEmpty (piece_restores (restores n n')))).map encode_piecewise) <|
      .cons (.withFields (required (Expression.restores n n')).map fun _ ↦ rfl) .nil) rfl rfl rfl

theorem Formula.reads_constant (x : Double) :
    Reads order (Formula.decoder n) (constant x).encode (constant x) :=
  Restores.reads (d := Formula.decoder) (.obj [("kind", .str "constant"), ("value", .ofDouble x)])
    (restores _ n) rfl

theorem Comparator.threshold_restores {α : Type} {key value : String}
    {build : String → Comparator → Formula → α} :
    Fields.Restores order
      (build <$> .required key (string (n := n)) <*> Comparator.field <*>
        .required value (Formula.decoder n))
      (build <$> .required key (string (n := n')) <*> Comparator.field <*>
        .required value (Formula.decoder n'))
      (fun s : (String × Comparator) × Formula ↦ build s.1.1 s.1.2 s.2)
      fun s ↦ [(key, .str s.1.1), ("comparator", s.1.2.encode), (value, s.2.encode)] :=
  (required .string).map.seq Comparator.restores |>.seq (required (Formula.restores n n'))

theorem Condition.encodeAll_eq_map (conditions : List Condition) :
    encodeAll conditions = conditions.map encode := by
  induction conditions with
  | nil => rfl
  | cons c rest ih => rw [encodeAll, ih, List.map_cons]

theorem Condition.encode_allOf (conditions : List Condition) : (allOf conditions).encode =
    encodeVariant "kind" "allOf" [("conditions", .arr (conditions.map encode))] := by
  rw [encode, encodeAll_eq_map]

theorem Condition.encode_anyOf (conditions : List Condition) : (anyOf conditions).encode =
    encodeVariant "kind" "anyOf" [("conditions", .arr (conditions.map encode))] := by
  rw [encode, encodeAll_eq_map]

theorem Condition.exists_encode_eq (c : Condition) : ∃ fields, c.encode = .obj fields := by
  cases c <;> exact ⟨_, rfl⟩

theorem Condition.encode_ne_null (c : Condition) : c.encode ≠ .null := by
  cases c <;> nofun

theorem Condition.restores :
    (n n' : Nat) → Restores order (Condition.decoder n) (Condition.decoder n') Condition.encode
  | 0, _ => fun _ v ↦ absurd v.2 (Nat.not_lt_zero _)
  | _ + 1, 0 => fun _ _ c _ ↦ ⟨fun _ v' ↦ absurd v'.2 (Nat.not_lt_zero _), c.encode_ne_null⟩
  | n + 1, n' + 1 =>
    .tagged .condition (.cons (.plain rfl) <| .cons (.plain rfl) <|
      .cons (.withFields Comparator.threshold_restores fun _ ↦ rfl) <|
      .cons (.withFields Comparator.threshold_restores fun _ ↦ rfl) <|
      .cons (.withFields ((required .string).map.seq (defaulted .nat32 (.nat32 (by decide))))
        fun _ ↦ rfl) <|
      .cons (.withFields ((required .string).map.seq Comparator.restores |>.seq (required .nat32))
        fun _ ↦ rfl) <|
      .cons (.withFields (required .string).map fun _ ↦ rfl) <|
      .cons (.withFields (required .string).map fun _ ↦ rfl) <|
      .cons (.withFields (required .string).map fun _ ↦ rfl) <|
      .cons (.withFields (required .string).map fun _ ↦ rfl) <|
      .cons (.withFields (required (.list (restores n n'))).map encode_allOf) <|
      .cons (.withFields (required (.list (restores n n'))).map encode_anyOf) <|
      .cons (.withFields (required (restores n n')).map fun _ ↦ rfl) .nil) rfl rfl rfl

theorem Resource.restores :
    Restores order (Resource.decoder (n := n)) (Resource.decoder (n := n')) Resource.encode :=
  .closed ((required .string).map.seq (required DisplayText.restores)
    |>.seq (defaulted .string .string) |>.seq (defaulted .nat32 (.nat32 (by decide)))
    |>.seq (optional .string) |>.seq (defaulted .double .double) |>.seq (optional .double)
    |>.seq (defaulted .bool .bool) |>.seq (defaulted .bool .bool)
    |>.seq (optional (Condition.restores n n')) |>.seq (optional (Condition.restores n n'))
    |>.seq (optional .double) |>.seq (optional .double)
    |>.seq (listed .string)) (fun _ ↦ rfl) (Record.nodup_fields .resource)

theorem ResourceRate.restores :
    Restores order (ResourceRate.decoder (n := n)) (ResourceRate.decoder (n := n'))
      ResourceRate.encode :=
  .closed ((required .string).map.seq (required (Formula.restores n n'))) (fun _ ↦ rfl)
    (Record.nodup_fields .resourceRate)

theorem Purchase.restores :
    Restores order (Purchase.decoder (n := n)) (Purchase.decoder (n := n')) Purchase.encode :=
  .closed ((required .string).map.seq (defaulted .double .double)
    |>.seq (required (Formula.restores n n'))
    |>.seq (optional .nat32)) (fun _ ↦ rfl) (Record.nodup_fields .purchase)

theorem Generator.restores :
    Restores order (Generator.decoder (n := n)) (Generator.decoder (n := n')) Generator.encode :=
  .closed ((required .string).map.seq (required DisplayText.restores)
    |>.seq (listed ResourceRate.restores) |>.seq (listed ResourceRate.restores)
    |>.seq (required Purchase.restores) |>.seq (optional .nat32)
    |>.seq (defaulted .nat32 (.nat32 (by decide))) |>.seq (optional (Condition.restores n n'))
    |>.seq (optional (Condition.restores n n')) |>.seq (optional .double)
    |>.seq (listed .string)) (fun _ ↦ rfl) (Record.nodup_fields .generator)

theorem UpgradeTarget.restores :
    Restores order (UpgradeTarget.decoder (n := n)) (UpgradeTarget.decoder (n := n'))
      UpgradeTarget.encode :=
  .tagged .upgradeTarget (.cons (.plain rfl) <|
    .cons (.withFields (required .string).map fun _ ↦ rfl) <|
    .cons (.withFields (required .string).map fun _ ↦ rfl) <|
    .cons (.withFields (required .string).map fun _ ↦ rfl) <|
    .cons (.withFields (required .string).map fun _ ↦ rfl) .nil) rfl rfl rfl

theorem UpgradeCost.restores :
    Restores order (UpgradeCost.decoder (n := n)) (UpgradeCost.decoder (n := n'))
      UpgradeCost.encode :=
  .closed ((required .string).map.seq (defaulted .double .double)
    |>.seq (required (Formula.restores n n')))
    (fun _ ↦ rfl) (Record.nodup_fields .upgradeCost)

theorem Repetition.restores :
    Restores order (Repetition.decoder (n := n)) (Repetition.decoder (n := n')) Repetition.encode :=
  .closed ((optional .nat32).map.seq (optional (Formula.restores n n'))) (fun _ ↦ rfl)
    (Record.nodup_fields .repetition)

theorem Effect.change_restores {key : String} {change : String → Operation → Formula → Effect} :
    Fields.Restores order
      (change <$> .required key (string (n := n)) <*>
          .required "operation" (choice Operation.names) <*>
        .required "value" (Formula.decoder n))
      (change <$> .required key (string (n := n')) <*>
          .required "operation" (choice Operation.names) <*>
        .required "value" (Formula.decoder n'))
      (fun s : (String × Operation) × Formula ↦ change s.1.1 s.1.2 s.2)
      fun s ↦ [(key, .str s.1.1), ("operation", encodeName Operation.names s.1.2),
        ("value", s.2.encode)] :=
  (required .string).map.seq (required (.choice (by decide)))
    |>.seq (required (Formula.restores n n'))

theorem Effect.restores :
    Restores order (Effect.decoder (n := n)) (Effect.decoder (n := n')) Effect.encode :=
  .tagged .effect (.cons (.withFields change_restores fun _ ↦ rfl) <|
    .cons (.withFields change_restores fun _ ↦ rfl) <|
    .cons (.withFields (required .string).map fun _ ↦ rfl) <|
    .cons (.withFields change_restores fun _ ↦ rfl) <|
    .cons (.withFields change_restores fun _ ↦ rfl) <|
    .cons (.withFields change_restores fun _ ↦ rfl) <|
    .cons (.withFields ((required .string).map.seq (optional .string)
      |>.seq (required (.choice (by decide))) |>.seq (required (Formula.restores n n')))
      fun _ ↦ rfl) <|
    .cons (.withFields (required .string).map fun _ ↦ rfl) <|
    .cons (.withFields (required .string).map fun _ ↦ rfl) <|
    .cons (.withFields ((required .string).map.seq (defaulted .bool .bool)) fun _ ↦ rfl) <|
    .cons (.withFields (required .string).map fun _ ↦ rfl) .nil) rfl rfl rfl

theorem Prerequisite.restores :
    Restores order (Prerequisite.decoder (n := n)) (Prerequisite.decoder (n := n'))
      Prerequisite.encode := by
  intro mode v p h
  rcases orElse_eq_ok.1 h with h | ⟨-, h⟩
  · obtain ⟨id, -, rfl⟩ := map_eq_ok.1 h
    exact ⟨.short, nofun⟩
  · obtain ⟨c, hc, rfl⟩ := map_eq_ok.1 h
    have hrestores : Restores order (Condition.decoder n) (Condition.decoder n') Condition.encode :=
      Condition.restores n n'
    obtain ⟨hreads, hpresent⟩ := hrestores .aside v c hc
    refine ⟨?_, hpresent⟩
    obtain ⟨fields, hfields⟩ := c.exists_encode_eq
    rw [hfields] at hreads
    rw [encode, hfields]
    exact .full hreads.map

theorem Upgrade.restores :
    Restores order (Upgrade.decoder (n := n)) (Upgrade.decoder (n := n')) Upgrade.encode :=
  .closed ((required .string).map.seq (required DisplayText.restores) |>.seq (optional .string)
    |>.seq (listed UpgradeTarget.restores) |>.seq (required UpgradeCost.restores)
    |>.seq (optional Repetition.restores) |>.seq (listed Effect.restores)
    |>.seq (listed Prerequisite.restores) |>.seq (optional (Condition.restores n n'))
    |>.seq (optional (Condition.restores n n')) |>.seq (listed .string)) (fun _ ↦ rfl)
    (Record.nodup_fields .upgrade)

theorem Track.restores :
    Restores order (Track.decoder (n := n)) (Track.decoder (n := n')) Track.encode :=
  .tagged .track (.cons (.withFields Comparator.threshold_restores fun _ ↦ rfl) <|
    .cons (.withFields ((required .string).map.seq (required (Formula.restores n n')))
      fun _ ↦ rfl) <|
    .cons (.withFields ((required .string).map.seq (optional (Formula.restores n n')))
      fun _ ↦ rfl) <|
    .cons (.withFields (required .string).map fun _ ↦ rfl) <|
    .cons (.withFields (required .string).map fun _ ↦ rfl) <|
    .cons (.withFields ((required .string).map.seq (required (Formula.restores n n'))) fun _ ↦ rfl)
      .nil) rfl rfl rfl

theorem Progress.restores :
    Restores order (Progress.decoder (n := n)) (Progress.decoder (n := n')) Progress.encode :=
  .closed ((optional (Formula.restores n n')).map.seq
    (defaulted (.choice (by decide)) (.choice (by decide) (by decide)))) (fun _ ↦ rfl)
    (Record.nodup_fields .progress)

theorem Reward.restores :
    Restores order (Reward.decoder (n := n)) (Reward.decoder (n := n')) Reward.encode :=
  .tagged .reward (
    .cons (.withFields ((required .string).map.seq (required (Formula.restores n n')))
      fun _ ↦ rfl) <|
    .cons (.withFields (required .string).map fun _ ↦ rfl) <|
    .cons (.withFields (required .string).map fun _ ↦ rfl) <|
    .cons (.withFields (required .string).map fun _ ↦ rfl) <|
    .cons (.withFields ((required .string).map.seq (defaulted .bool .bool)) fun _ ↦ rfl) .nil)
      rfl rfl rfl

theorem Achievement.restores :
    Restores order (Achievement.decoder (n := n)) (Achievement.decoder (n := n'))
      Achievement.encode :=
  .closed ((required .string).map.seq (required DisplayText.restores)
    |>.seq (optional DisplayText.restores) |>.seq (optional .string)
    |>.seq (required Track.restores) |>.seq (optional Progress.restores)
    |>.seq (optional Reward.restores) |>.seq (listed .string)
    |>.seq (optional (Condition.restores n n')) |>.seq (optional (Condition.restores n n'))
    |>.seq (listed .string)) (fun _ ↦ rfl)
    (Record.nodup_fields .achievement)

theorem AutomationTrigger.restores :
    Restores order (AutomationTrigger.decoder (n := n)) (AutomationTrigger.decoder (n := n'))
      AutomationTrigger.encode :=
  .tagged .automationTrigger
    (.cons (.withFields (required (Formula.restores n n')).map fun _ ↦ rfl) <|
    .cons (.withFields Comparator.threshold_restores fun _ ↦ rfl) <| .cons (.plain rfl) <|
    .cons (.withFields (required .string).map fun _ ↦ rfl) .nil) rfl rfl rfl

theorem Automation.restores :
    Restores order (Automation.decoder (n := n)) (Automation.decoder (n := n')) Automation.encode :=
  .closed ((required .string).map.seq (required DisplayText.restores)
    |>.seq (optional DisplayText.restores) |>.seq (required (.choice (by decide)))
    |>.seq (optional .string) |>.seq (optional .string) |>.seq (required AutomationTrigger.restores)
    |>.seq (optional ResourceRate.restores) |>.seq (optional (Formula.restores n n'))
    |>.seq (optional (Condition.restores n n')) |>.seq (defaulted .bool .bool)
    |>.seq (optional .double)) (fun _ ↦ rfl) (Record.nodup_fields .automation)

theorem ResourceAmount.restores :
    Restores order (ResourceAmount.decoder (n := n)) (ResourceAmount.decoder (n := n'))
      ResourceAmount.encode :=
  .closed ((required .string).map.seq (required (Formula.restores n n'))) (fun _ ↦ rfl)
    (Record.nodup_fields .resourceAmount)

theorem TransformTrigger.restores :
    Restores order (TransformTrigger.decoder (n := n)) (TransformTrigger.decoder (n := n'))
      TransformTrigger.encode :=
  .tagged .transformTrigger (.cons (.plain rfl) <|
    .cons (.withFields (required (Condition.restores n n')).map fun _ ↦ rfl) <|
    .cons (.withFields (required .string).map fun _ ↦ rfl) <|
    .cons (.withFields (required .string).map fun _ ↦ rfl) .nil) rfl rfl rfl

theorem TransformTrigger.reads_manual :
    Reads order (TransformTrigger.decoder (n := n)) manual.encode manual :=
  Restores.reads (d := fun _ ↦ decoder) (.obj [("kind", .str "manual")]) restores rfl

theorem EntityRequirement.restores :
    Restores order (EntityRequirement.decoder (n := n)) (EntityRequirement.decoder (n := n'))
      EntityRequirement.encode :=
  .closed ((required .string).map.seq
    (defaulted (Formula.restores n n') (Formula.reads_constant .one))
    |>.seq (defaulted (.dict (Formula.restores n n')) .empty)
    |>.seq (defaulted .bool .bool)) (fun _ ↦ rfl) (Record.nodup_fields .entityRequirement)

theorem Transform.restores :
    Restores order (Transform.decoder (n := n)) (Transform.decoder (n := n')) Transform.encode :=
  .closed ((required .string).map.seq (required DisplayText.restores)
    |>.seq (optional DisplayText.restores) |>.seq (required (.choice (by decide)))
    |>.seq (listed ResourceAmount.restores) |>.seq (listed ResourceAmount.restores)
    |>.seq (optional (Formula.restores n n')) |>.seq (optional (Formula.restores n n'))
    |>.seq (defaulted TransformTrigger.restores TransformTrigger.reads_manual)
    |>.seq (listed EntityRequirement.restores) |>.seq (optional (Condition.restores n n'))
    |>.seq (optional (Condition.restores n n')) |>.seq (listed .string)) (fun _ ↦ rfl)
    (Record.nodup_fields .transform)

theorem PrestigeReward.restores :
    Restores order (PrestigeReward.decoder (n := n)) (PrestigeReward.decoder (n := n'))
      PrestigeReward.encode :=
  .closed ((required .string).map.seq (required (Formula.restores n n'))
    |>.seq (optional (Formula.restores n n'))) (fun _ ↦ rfl) (Record.nodup_fields .prestigeReward)

theorem Retention.restores :
    Restores order (Retention.decoder (n := n)) (Retention.decoder (n := n')) Retention.encode :=
  .tagged .retention (
    .cons (.withFields ((required .string).map.seq (optional (Formula.restores n n')))
      fun _ ↦ rfl) <|
    .cons (.withFields (required .string).map fun _ ↦ rfl) <|
    .cons (.withFields (required .string).map fun _ ↦ rfl) .nil) rfl rfl rfl

theorem PrestigeLayer.restores :
    Restores order (PrestigeLayer.decoder (n := n)) (PrestigeLayer.decoder (n := n'))
      PrestigeLayer.encode :=
  .closed ((required .string).map.seq (required DisplayText.restores)
    |>.seq (optional DisplayText.restores) |>.seq (listed .string) |>.seq (listed .string)
    |>.seq (listed .string) |>.seq (required (Condition.restores n n'))
    |>.seq (required PrestigeReward.restores)
    |>.seq (listed Retention.restores)) (fun _ ↦ rfl) (Record.nodup_fields .prestigeLayer)

theorem Stat.restores :
    Restores order (Stat.decoder (n := n)) (Stat.decoder (n := n')) Stat.encode :=
  .closed ((required .string).map.seq (required DisplayText.restores)
    |>.seq (required (Formula.restores n n')) |>.seq (optional (Formula.restores n n'))
    |>.seq (optional (Formula.restores n n'))) (fun _ ↦ rfl) (Record.nodup_fields .stat)

theorem Progression.restores :
    Restores order (Progression.decoder (n := n)) (Progression.decoder (n := n'))
      Progression.encode :=
  .closed ((optional .string).map.seq (required (Formula.restores n n')) |>.seq (optional .nat32)
    |>.seq (defaulted (.dict (Formula.restores n n')) .empty)) (fun _ ↦ rfl)
    (Record.nodup_fields .progression)

theorem Entity.restores :
    Restores order (Entity.decoder (n := n)) (Entity.decoder (n := n')) Entity.encode :=
  .closed ((required .string).map.seq (required DisplayText.restores)
    |>.seq (optional DisplayText.restores) |>.seq (listed Stat.restores)
    |>.seq (optional (Formula.restores n n')) |>.seq (defaulted .nat32 (.nat32 (by decide)))
    |>.seq (defaulted .bool .bool) |>.seq (optional Progression.restores)
    |>.seq (optional (Condition.restores n n')) |>.seq (optional (Condition.restores n n'))
    |>.seq (listed .string)) (fun _ ↦ rfl)
    (Record.nodup_fields .entity)

theorem MetricSource.restores :
    Restores order (MetricSource.decoder (n := n)) (MetricSource.decoder (n := n'))
      MetricSource.encode :=
  .tagged .metricSource (.cons (.plain rfl) <| .cons (.plain rfl) <|
    .cons (.withFields (required .string).map fun _ ↦ rfl) .nil) rfl rfl rfl

theorem MetricSource.reads_runtime :
    Reads order (MetricSource.decoder (n := n)) runtime.encode runtime :=
  Restores.reads (d := fun _ ↦ decoder) (.obj [("kind", .str "runtime")]) restores rfl

theorem Metric.restores :
    Restores order (Metric.decoder (n := n)) (Metric.decoder (n := n')) Metric.encode :=
  .closed ((required .string).map.seq (required DisplayText.restores)
    |>.seq (optional DisplayText.restores) |>.seq (required (.choice (by decide)))
    |>.seq (defaulted .string .string) |>.seq (optional .string) |>.seq (listed .string)
    |>.seq (defaulted MetricSource.restores MetricSource.reads_runtime))
    (fun _ ↦ rfl) (Record.nodup_fields .metric)

theorem Payload.restores :
    Restores order (Payload.decoder (n := n)) (Payload.decoder (n := n')) Payload.encode :=
  .closed ((required .string).map.seq (optional .string)) (fun _ ↦ rfl)
    (Record.nodup_fields .payload)

theorem Emitter.source_restores :
    Restores order (Emitter.source (n := n)) (Emitter.source (n := n')) Emitter.encodeSource :=
  .tagged .emitterSource (.cons (.withFields (required .string).map fun _ ↦ rfl) <|
    .cons (.withFields (required .string).map fun _ ↦ rfl) <|
    .cons (.withFields (required .string).map fun _ ↦ rfl) <|
    .cons (.withFields (required .string).map fun _ ↦ rfl) .nil) rfl rfl rfl

theorem Emitter.restores :
    Restores order (Emitter.decoder (n := n)) (Emitter.decoder (n := n')) Emitter.encode :=
  .closed (required source_restores) (fun _ ↦ rfl) (Record.nodup_fields .emitter)

theorem RuntimeEvent.restores :
    Restores order (RuntimeEvent.decoder (n := n)) (RuntimeEvent.decoder (n := n'))
      RuntimeEvent.encode :=
  .closed ((required .string).map.seq (defaulted .nat32 (.nat32 (by decide)))
    |>.seq (optional Payload.restores) |>.seq (listed Emitter.restores)
    |>.seq (listed .string)) (fun _ ↦ rfl)
    (Record.nodup_fields .runtimeEvent)

theorem Kind.restores : (kind : Kind) →
    Restores order (kind.entryDecoder (n := n)) (kind.entryDecoder (n := n')) kind.encodeEntry
  | resource => Resource.restores
  | generator => Generator.restores
  | upgrade => Upgrade.restores
  | achievement => Achievement.restores
  | automation => Automation.restores
  | transform => Transform.restores
  | prestigeLayer => PrestigeLayer.restores
  | entity => Entity.restores
  | metric => Metric.restores
  | runtimeEvent => RuntimeEvent.restores

end GamePack
