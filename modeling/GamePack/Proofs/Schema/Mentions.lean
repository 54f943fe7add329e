import GamePack.Frozen
import GamePack.Proofs.Schema.Occurrence
import GamePack.Reference.Mention
import Mathlib.Data.List.Perm.Basic

namespace GamePack

def Subject.reference : Subject → Reference
  | .entry kind id => .entry kind id
  | .outside category id => .outside category id
  | .event id => .event id
  | .statOf entity stat => .statOf entity stat
  | .ownStat e stat => .ownStat e.id (e.stats.map (·.id)) stat
  | .companion layer => .companion layer.id
  | .declaration id => .declaration id

def Mention.occurrence (m : Mention) : Occurrence := ⟨m.path, m.subject.reference⟩

def occurrencesOf (mentions : List Mention) : List Occurrence := mentions.map Mention.occurrence

section

variable {α : Type} {path : Path}

@[simp]
theorem occurrencesOf_nil : occurrencesOf [] = [] := rfl

@[simp]
theorem occurrencesOf_cons (m : Mention) (rest : List Mention) :
    occurrencesOf (m :: rest) = m.occurrence :: occurrencesOf rest := rfl

@[simp]
theorem occurrencesOf_append (ms ms' : List Mention) :
    occurrencesOf (ms ++ ms') = occurrencesOf ms ++ occurrencesOf ms' := List.map_append

@[simp]
theorem occurrencesOf_flatMap (items : List α) (f : α → List Mention) :
    occurrencesOf (items.flatMap f) = items.flatMap fun a ↦ occurrencesOf (f a) := List.map_flatMap

@[simp]
theorem occurrencesOf_each (items : List α) (f : Path → α → List Mention) :
    occurrencesOf (path.each items f) = path.each items fun path a ↦ occurrencesOf (f path a) :=
  List.map_flatMap

@[simp]
theorem occurrencesOf_optional (f : Path → α → List Mention) (a : Option α) :
    occurrencesOf (Mention.optional f path a) =
      (a.map fun a ↦ occurrencesOf (f path a)).getD [] := by
  cases a <;> rfl

@[simp]
theorem occurrence_mk (path : Path) (s : Subject) :
    (⟨path, s⟩ : Mention).occurrence = ⟨path, s.reference⟩ := rfl

@[simp]
theorem occurrence_entry (kind : Kind) (id : String) :
    (Mention.entry path kind id).occurrence = ⟨path, .entry kind id⟩ := rfl

@[simp]
theorem occurrence_outside (category : Category) (id : String) :
    (Mention.outside path category id).occurrence = ⟨path, .outside category id⟩ := rfl

@[simp]
theorem occurrence_event (id : String) :
    (Mention.event path id).occurrence = ⟨path, .event id⟩ := rfl

end

namespace Form

variable {path : Path} {around : List (List (String × Json))} {spot : Spot}

def part (spot : Spot) (v : Json) : Option Form → List Occurrence
  | none => []
  | some f => f.occurrences spot v

theorem fieldOccurrences_eq (f : Form) (hf : f.keyRole = .nothing) (spot : Spot)
    (whole fields : List (String × Json)) :
    f.fieldOccurrences spot whole fields = fields.flatMap fun e ↦
      part (spot.into (f = formula) (.key e.1) (some whole)) e.2
        (f.within (.obj whole) (.key e.1)) := by
  induction fields with
  | nil => rfl
  | cons e rest ih =>
    rw [fieldOccurrences, ih, List.flatMap_cons]
    cases hw : f.within (.obj whole) (.key e.1) <;> simp [hf, part, KeyRole.references]

theorem occurrences_record (r : Record) (spot : Spot) (fields : List (String × Json)) :
    (record r).occurrences spot (.obj fields) = fields.flatMap fun e ↦
      part (spot.into false (.key e.1) (some fields)) e.2 (r.fields.lookup e.1) := by
  rw [occurrences]
  exact fieldOccurrences_eq (record r) rfl spot fields fields

theorem branch?_encodeVariant (u : Union) (tag : String) (fields : List (String × Json)) :
    u.branch? (encodeVariant u.key tag fields) = u.branches.find? (·.tag = tag) := by
  simp [encodeVariant, Union.branch?, Union.branchOf]

theorem occurrences_variant (u : Union) (spot : Spot) (tag : String)
    (fields : List (String × Json)) :
    (union u).occurrences spot (encodeVariant u.key tag fields) = fields.flatMap fun e ↦
      part (spot.into (u = .formula) (.key e.1) (some ((u.key, .str tag) :: fields))) e.2
        (if e.1 = u.key then none
          else (u.branches.find? (·.tag = tag)).bind (·.fields.lookup e.1)) := by
  have hbranch := branch?_encodeVariant u tag fields
  rw [encodeVariant] at hbranch
  rw [encodeVariant, occurrences]
  refine (fieldOccurrences_eq (union u) rfl spot _ _).trans ?_
  rw [List.flatMap_cons, within, if_pos rfl, part, List.nil_append]
  refine List.flatMap_congr fun e _ ↦ ?_
  rw [within, hbranch]
  simp [formula]

@[simp]
theorem part_none (spot : Spot) (v : Json) : part spot v none = [] := rfl

@[simp]
theorem part_some (spot : Spot) (v : Json) (f : Form) :
    part spot v (some f) = f.occurrences spot v := rfl

@[simp]
theorem into_key (key : String) (object : Option (List (String × Json))) :
    (⟨path, false, around⟩ : Spot).into false (.key key) object =
      ⟨path.key key, false, object.toList ++ around⟩ := rfl

@[simp]
theorem into_index (i : Nat) (object : Option (List (String × Json))) :
    (⟨path, false, around⟩ : Spot).into false (.index i) object =
      ⟨path.index i, false, object.toList ++ around⟩ := rfl

theorem itemOccurrences_list (f : Form) (spot : Spot) (whole items : List Json) (i : Nat) :
    (list f).itemOccurrences spot whole i items = (items.zipIdx i).flatMap fun item ↦
      f.occurrences (spot.into false (.index item.2) none) item.1 := by
  induction items generalizing i with
  | nil => rfl
  | cons v rest ih =>
    rw [itemOccurrences, ih, List.zipIdx_cons, List.flatMap_cons]
    rfl

theorem itemOccurrences_text (role : Role) (spot : Spot) (whole items : List Json) (i : Nat) :
    (text role).itemOccurrences spot whole i items = [] := by
  induction items generalizing i with
  | nil => rfl
  | cons v rest ih =>
    rw [itemOccurrences, ih]
    rfl

@[simp]
theorem occurrences_plain (spot : Spot) (v : Json) : plain.occurrences spot v = [] := by
  cases v with
  | arr items => exact itemOccurrences_text .nothing spot items items 0
  | obj fields =>
    rw [occurrences]
    refine (fieldOccurrences_eq plain rfl spot fields fields).trans ?_
    simp [within]
  | _ => rfl

theorem occurrences_list {α : Type} {f : Form} {encode : α → Json} (items : List α) :
    (list f).occurrences ⟨path, false, around⟩ (.arr (items.map encode)) =
      path.each items fun path a ↦ f.occurrences ⟨path, false, around⟩ (encode a) := by
  rw [occurrences]
  refine (itemOccurrences_list f _ _ _ 0).trans ?_
  rw [List.zipIdx_map, List.flatMap_map]
  rfl

theorem occurrences_optionalName (kind : Kind) (id : Option String) :
    (name kind).occurrences ⟨path, false, around⟩ (.ofOption .str id) =
      occurrencesOf (id.toList.map (.entry path kind)) := by
  cases id <;> rfl

@[simp]
theorem occurrences_plains (spot : Spot) (v : Json) : plains.occurrences spot v = [] := by
  cases v with
  | arr items =>
    rw [occurrences]
    refine (itemOccurrences_list plain spot items items 0).trans ?_
    simp
  | obj fields =>
    rw [occurrences]
    refine (fieldOccurrences_eq plains rfl spot fields fields).trans ?_
    simp [within]
  | _ => rfl

theorem occurrences_dict {α : Type} {f : Form} {encode : α → Json} (keys : KeyRole) (d : Dict α) :
    (dict keys f).occurrences ⟨path, false, around⟩ (d.encode encode) = d.entries.flatMap fun e ↦
      let inner : Spot := ⟨path.key e.1, false, d.entries.map (fun e ↦ (e.1, encode e.2)) :: around⟩
      (keys.references ⟨path, false, around⟩ e.1).map (⟨path.key e.1, ·⟩) ++
        f.occurrences inner (encode e.2) := by
  have walk (whole : List (String × Json)) (entries : List (String × α)) :
      (dict keys f).fieldOccurrences ⟨path, false, around⟩ whole
          (entries.map fun e ↦ (e.1, encode e.2)) = entries.flatMap fun e ↦
        (keys.references ⟨path, false, around⟩ e.1).map (⟨path.key e.1, ·⟩) ++
          f.occurrences ⟨path.key e.1, false, whole :: around⟩ (encode e.2) := by
    induction entries with
    | nil => rfl
    | cons e rest ih =>
      rw [List.map_cons, fieldOccurrences, ih, List.flatMap_cons]
      rfl
  exact walk _ d.entries

@[simp]
theorem occurrences_plainDict {α : Type} (spot : Spot) (d : Dict α) (encode : α → Json) :
    (dict .nothing plain).occurrences spot (d.encode encode) = [] := by
  rw [Dict.encode, occurrences]
  refine (fieldOccurrences_eq (dict .nothing plain) rfl spot _ _).trans ?_
  simp [within]

@[simp]
theorem occurrences_display (spot : Spot) (t : DisplayText) :
    display.occurrences spot t.encode = [] := by
  have hrecord :
      display.occurrences spot t.encode = (record .displayText).occurrences spot t.encode := rfl
  rw [hrecord, DisplayText.encode, occurrences_record]
  split <;> simp [Record.fields, List.lookup_cons]

@[simp]
theorem occurrences_optionalDisplay (spot : Spot) (t : Option DisplayText) :
    display.occurrences spot (.ofOption DisplayText.encode t) = [] := by
  cases t with
  | none => rfl
  | some t => exact occurrences_display spot t

theorem occurrences_shorthand (role : Role) (full : Form) (hfull : full.counts spot)
    (fields : List (String × Json)) :
    (shorthand role full).occurrences spot (.obj fields) = full.occurrences spot (.obj fields) := by
  rw [occurrences, occurrences, if_pos hfull]
  rfl

theorem occurrences_ofOption {α : Type} (f : Form) (spot : Spot) (encode : α → Json)
    (a : Option α) :
    f.occurrences spot (.ofOption encode a) =
      (a.map fun a ↦ f.occurrences spot (encode a)).getD [] := by
  cases a <;> rfl

theorem occurrences_onMission (f : Form) (spot : Spot) (v : Json) :
    (onMission (list f)).occurrences spot v =
      if spot.text? "mode" = some "mission" then (list f).occurrences spot v else [] := by
  cases v <;> simp [occurrences, counts, core, role]

@[simp]
theorem occurrences_text (role : Role) (spot : Spot) (s : String) :
    (text role).occurrences spot (.str s) = (role.references spot s).map (⟨spot.place, ·⟩) := rfl

@[simp]
theorem references_nothing (spot : Spot) (s : String) : Role.nothing.references spot s = [] := rfl

theorem occurrences_items (f : Form) (spot : Spot) (items : List Json) :
    (list f).occurrences spot (.arr items) = (list f).itemOccurrences spot items 0 items := rfl

theorem itemOccurrences_cons (f : Form) (spot : Spot) (whole rest : List Json)
    (i : Nat) (v : Json) :
    (list f).itemOccurrences spot whole i (v :: rest) =
      f.occurrences (spot.into false (.index i) none) v ++
        (list f).itemOccurrences spot whole (i + 1) rest := rfl

@[simp]
theorem into_sealed (b : Bool) (step : Step) (object : Option (List (String × Json))) :
    (⟨path, true, around⟩ : Spot).into b step object = ⟨path, true, object.toList ++ around⟩ := by
  simp [Spot.into]

@[simp]
theorem into_formula (step : Step) (object : Option (List (String × Json))) :
    spot.into true step object = ⟨spot.place, true, object.toList ++ spot.around⟩ := by
  simp [Spot.into]

end Form

def entriesAt (place : Path) (entries : List (Kind × String)) : List Occurrence :=
  entries.map fun e ↦ ⟨place, .entry e.1 e.2⟩

theorem entriesAt_append (place : Path) (xs ys : List (Kind × String)) :
    entriesAt place (xs ++ ys) = entriesAt place xs ++ entriesAt place ys := List.map_append

theorem occurrencesOf_formula (path : Path) (f : Formula) :
    occurrencesOf (f.mentions path) = entriesAt path f.entries := by
  rw [Formula.mentions, occurrencesOf, List.map_map]
  rfl

open Form

theorem Target.occurrences_encode (path : Path) (around : List (List (String × Json)))
    (t : Target) :
    (union .target).occurrences ⟨path, true, around⟩ t.encode =
      entriesAt path t.referent?.toList := by
  have walk := occurrences_variant .target ⟨path, true, around⟩
  cases t <;> refine (walk _ _).trans ?_ <;>
    simp [Union.key, Union.branches, List.lookup_cons, entriesAt, Target.referent?, Role.references]

mutual

theorem Expression.occurrences_encode (path : Path) (around : List (List (String × Json))) :
    (e : Expression) → (union .expression).occurrences ⟨path, true, around⟩ e.encode =
      entriesAt path e.entries
  | .literal value => by
    refine (occurrences_variant .expression ⟨path, true, around⟩ _ _).trans ?_
    simp [Union.key, Union.branches, List.lookup_cons, Expression.entries, entriesAt]
  | .ref target => by
    refine (occurrences_variant .expression ⟨path, true, around⟩ _ _).trans ?_
    simp [Union.key, Union.branches, List.lookup_cons, Expression.entries,
      Target.occurrences_encode]
  | .binary op left right => by
    refine (occurrences_variant .expression ⟨path, true, around⟩ _ _).trans ?_
    simp [Union.key, Union.branches, List.lookup_cons, Expression.entries, entriesAt_append,
      Expression.occurrences_encode path _ left, Expression.occurrences_encode path _ right]
  | .unary op operand => by
    refine (occurrences_variant .expression ⟨path, true, around⟩ _ _).trans ?_
    simp [Union.key, Union.branches, List.lookup_cons, Expression.entries,
      Expression.occurrences_encode path _ operand]
  | .call name args => by
    refine (occurrences_variant .expression ⟨path, true, around⟩ _ _).trans ?_
    simp [Union.key, Union.branches, List.lookup_cons, Expression.entries, occurrences_items,
      Expression.itemOccurrences_encodeAll path _ _ _ args]

theorem Expression.itemOccurrences_encodeAll (path : Path) (around : List (List (String × Json)))
    (whole : List Json) (i : Nat) :
    (es : List Expression) → (unions .expression).itemOccurrences ⟨path, true, around⟩ whole i
      (encodeAll es) = entriesAt path (entriesAll es)
  | [] => rfl
  | e :: rest => by
    rw [encodeAll, entriesAll, itemOccurrences_cons, entriesAt_append, into_sealed,
      Expression.occurrences_encode path _ e,
      Expression.itemOccurrences_encodeAll path _ whole _ rest]

end

mutual

/-- A formula is one place, whatever it is part of. -/
theorem Formula.occurrences_encode (spot : Spot) :
    (f : Formula) → formula.occurrences spot f.encode = entriesAt spot.place f.entries
  | .constant value => by
    refine (occurrences_variant .formula spot _ _).trans ?_
    simp [Union.key, Union.branches, List.lookup_cons, Formula.entries, entriesAt]
  | .linear base slope => by
    refine (occurrences_variant .formula spot _ _).trans ?_
    simp [Union.key, Union.branches, List.lookup_cons, Formula.entries, entriesAt]
  | .exponential base growth offset => by
    refine (occurrences_variant .formula spot _ _).trans ?_
    simp [Union.key, Union.branches, List.lookup_cons, Formula.entries, entriesAt]
  | .polynomial coefficients => by
    refine (occurrences_variant .formula spot _ _).trans ?_
    simp [Union.key, Union.branches, List.lookup_cons, Formula.entries, entriesAt]
  | .piecewise pieces => by
    refine (occurrences_variant .formula spot _ _).trans ?_
    simp [Union.key, Union.branches, List.lookup_cons, Formula.entries, occurrences_items,
      Formula.itemOccurrences_encodePieces spot.place _ _ _ pieces]
  | .expression e => by
    refine (occurrences_variant .formula spot _ _).trans ?_
    simp [Union.key, Union.branches, List.lookup_cons, Formula.entries,
      Expression.occurrences_encode spot.place _ e]

theorem Formula.itemOccurrences_encodePieces (path : Path) (around : List (List (String × Json)))
    (whole : List Json) (i : Nat) :
    (pieces : List (Option Double × Formula)) →
      (records .piece).itemOccurrences ⟨path, true, around⟩ whole i (encodePieces pieces) =
        entriesAt path (entriesPieces pieces)
  | [] => rfl
  | (untilLevel, f) :: rest => by
    rw [encodePieces, entriesPieces, itemOccurrences_cons, entriesAt_append, into_sealed,
      occurrences_record, Formula.itemOccurrences_encodePieces path _ whole _ rest]
    simp [Record.fields, List.lookup_cons, Formula.occurrences_encode _ f]

end

theorem Formula.occurrences_mentions (spot : Spot) (f : Formula) :
    formula.occurrences spot f.encode = occurrencesOf (f.mentions spot.place) := by
  rw [Formula.occurrences_encode, occurrencesOf_formula]

mutual

theorem Condition.occurrences_encode (path : Path) (around : List (List (String × Json))) :
    (c : Condition) → condition.occurrences ⟨path, false, around⟩ c.encode =
      occurrencesOf (c.mentions path)
  | .always | .never | .upgradeOwned .. | .prestigeCount .. | .prestigeCompleted _
  | .prestigeUnlocked _
  | .flag _ | .script _ => by
    refine (occurrences_variant .condition ⟨path, false, around⟩ _ _).trans ?_
    simp [Union.key, Union.branches, List.lookup_cons, Condition.mentions, Role.references]
  | .resourceThreshold .. | .generatorLevel .. => by
    refine (occurrences_variant .condition ⟨path, false, around⟩ _ _).trans ?_
    simp [Union.key, Union.branches, List.lookup_cons, Condition.mentions, Role.references,
      Formula.occurrences_mentions]
  | .allOf conditions | .anyOf conditions => by
    refine (occurrences_variant .condition ⟨path, false, around⟩ _ _).trans ?_
    simp [Union.key, Union.branches, List.lookup_cons, Condition.mentions, occurrences_items,
      Condition.itemOccurrences_encodeAll _ _ _ _ conditions]
  | .not c => by
    refine (occurrences_variant .condition ⟨path, false, around⟩ _ _).trans ?_
    simp [Union.key, Union.branches, List.lookup_cons, Condition.mentions,
      Condition.occurrences_encode _ _ c]

theorem Condition.itemOccurrences_encodeAll (path : Path) (around : List (List (String × Json)))
    (whole : List Json) (i : Nat) :
    (cs : List Condition) → (unions .condition).itemOccurrences ⟨path, false, around⟩ whole i
      (encodeAll cs) = occurrencesOf (mentionsFrom path i cs)
  | [] => rfl
  | c :: rest => by
    rw [encodeAll, mentionsFrom, itemOccurrences_cons, occurrencesOf_append, into_index,
      Condition.occurrences_encode _ _ c, Condition.itemOccurrences_encodeAll path _ whole _ rest]

end

/-- What occurs in the serialization of values of a type is what the values mention. -/
def Mirrors {α : Type} (f : Form) (encode : α → Json) (mentions : Path → α → List Mention) : Prop :=
  ∀ path around a, f.occurrences ⟨path, false, around⟩ (encode a) = occurrencesOf (mentions path a)

namespace Mirrors

variable {α : Type} {f : Form} {encode : α → Json} {mentions : Path → α → List Mention}
  {path : Path} {around : List (List (String × Json))}

theorem at_spot (h : Mirrors f encode mentions) (a : α) :
    f.occurrences ⟨path, false, around⟩ (encode a) = occurrencesOf (mentions path a) :=
  h path around a

theorem optional (h : Mirrors f encode mentions) (a : Option α) :
    f.occurrences ⟨path, false, around⟩ (.ofOption encode a) =
      occurrencesOf (Mention.optional mentions path a) := by
  cases a with
  | none => rfl
  | some a => exact h path around a

theorem each (h : Mirrors f encode mentions) (items : List α) :
    (list f).occurrences ⟨path, false, around⟩ (.arr (items.map encode)) =
      occurrencesOf (path.each items mentions) := by
  rw [occurrences_list, occurrencesOf_each]
  exact congrArg (path.each items) (funext fun path ↦ funext fun a ↦ h path around a)

variable {m : Mention}

theorem prefix_of_mem (h : Mirrors f encode mentions) {a : α} (hm : m ∈ mentions path a) :
    path <+: m.path :=
  f.prefix_of_mem_occurrences ⟨path, false, []⟩ (encode a) m.occurrence
    ((h path [] a).symm ▸ List.mem_map_of_mem hm)

theorem prefix_of_mem_optional (h : Mirrors f encode mentions) {a : Option α}
    (hm : m ∈ Mention.optional mentions path a) : path <+: m.path := by
  cases a with
  | none => cases hm
  | some a => exact h.prefix_of_mem hm

theorem prefix_of_mem_each (h : Mirrors f encode mentions) {items : List α}
    (hm : m ∈ path.each items mentions) : path <+: m.path :=
  (list f).prefix_of_mem_occurrences ⟨path, false, []⟩ (.arr (items.map encode)) m.occurrence
    ((h.each items).symm ▸ List.mem_map_of_mem hm)

end Mirrors

theorem Formula.mirrors : Mirrors formula Formula.encode Formula.mentions := fun path around f ↦
  Formula.occurrences_mentions ⟨path, false, around⟩ f

theorem Condition.mirrors : Mirrors condition Condition.encode Condition.mentions :=
  Condition.occurrences_encode

theorem Resource.mirrors : Mirrors (record .resource) Resource.encode Resource.mentions := by
  intro path around r
  rw [Resource.encode, occurrences_record, Resource.mentions]
  simp [Record.fields, List.lookup_cons, optionalCondition, Condition.mirrors.optional]

theorem ResourceRate.mirrors :
    Mirrors (record .resourceRate) ResourceRate.encode ResourceRate.mentions := by
  intro path around r
  rw [ResourceRate.encode, occurrences_record, ResourceRate.mentions]
  simp [Record.fields, List.lookup_cons, Role.references, Formula.mirrors.at_spot]

theorem Purchase.mirrors : Mirrors (record .purchase) Purchase.encode Purchase.mentions := by
  intro path around p
  rw [Purchase.encode, occurrences_record, Purchase.mentions]
  simp [Record.fields, List.lookup_cons, Role.references, Formula.mirrors.at_spot]

theorem Generator.mirrors : Mirrors (record .generator) Generator.encode Generator.mentions := by
  intro path around g
  rw [Generator.encode, occurrences_record, Generator.mentions]
  simp [Record.fields, List.lookup_cons, ResourceRate.mirrors.each, Purchase.mirrors.at_spot,
    optionalCondition, Condition.mirrors.optional]

theorem UpgradeTarget.mirrors :
    Mirrors (union .upgradeTarget) UpgradeTarget.encode UpgradeTarget.mentions := by
  intro path around t
  cases t <;> refine (occurrences_variant .upgradeTarget ⟨path, false, around⟩ _ _).trans ?_ <;>
    simp [Union.key, Union.branches, List.lookup_cons, UpgradeTarget.mentions, Role.references]

theorem UpgradeCost.mirrors :
    Mirrors (record .upgradeCost) UpgradeCost.encode UpgradeCost.mentions := by
  intro path around c
  rw [UpgradeCost.encode, occurrences_record, UpgradeCost.mentions]
  simp [Record.fields, List.lookup_cons, Role.references, Formula.mirrors.at_spot]

theorem Repetition.mirrors :
    Mirrors (record .repetition) Repetition.encode Repetition.mentions := by
  intro path around r
  rw [Repetition.encode, occurrences_record, Repetition.mentions]
  simp [Record.fields, List.lookup_cons, optionalFormula, Formula.mirrors.optional]

theorem Effect.mirrors : Mirrors (union .effect) Effect.encode Effect.mentions := by
  intro path around e
  cases e <;> refine (occurrences_variant .effect ⟨path, false, around⟩ _ _).trans ?_ <;>
    simp [Union.key, Union.branches, List.lookup_cons, Effect.mentions, Effect.change,
      Role.references, Formula.mirrors.at_spot, occurrences_optionalName]

theorem Prerequisite.mirrors : Mirrors (.shorthand (.entry .upgrade) .condition) Prerequisite.encode
    Prerequisite.mentions := by
  intro path around r
  cases r with
  | upgrade id => rfl
  | condition c =>
    obtain ⟨fields, hfields⟩ : ∃ fields, c.encode = .obj fields := by
      cases c <;> exact ⟨_, rfl⟩
    have h := Condition.mirrors path around c
    rw [hfields] at h
    rw [Prerequisite.encode, hfields, occurrences_shorthand _ _ rfl, h]
    rfl

theorem Upgrade.mirrors : Mirrors (record .upgrade) Upgrade.encode Upgrade.mentions := by
  intro path around u
  rw [Upgrade.encode, occurrences_record, Upgrade.mentions]
  simp [Record.fields, List.lookup_cons, UpgradeTarget.mirrors.each, UpgradeCost.mirrors.at_spot,
    Repetition.mirrors.optional, Effect.mirrors.each, Prerequisite.mirrors.each, optionalCondition,
    Condition.mirrors.optional]

theorem Track.mirrors : Mirrors (union .track) Track.encode Track.mentions := by
  intro path around t
  cases t <;> refine (occurrences_variant .track ⟨path, false, around⟩ _ _).trans ?_ <;>
    simp [Union.key, Union.branches, List.lookup_cons, Track.mentions, Role.references,
      Formula.mirrors.at_spot, optionalFormula, Formula.mirrors.optional]

theorem Progress.mirrors : Mirrors (record .progress) Progress.encode Progress.mentions := by
  intro path around p
  rw [Progress.encode, occurrences_record, Progress.mentions]
  simp [Record.fields, List.lookup_cons, optionalFormula, Formula.mirrors.optional]

theorem Reward.mirrors : Mirrors (union .reward) Reward.encode Reward.mentions := by
  intro path around r
  cases r <;> refine (occurrences_variant .reward ⟨path, false, around⟩ _ _).trans ?_ <;>
    simp [Union.key, Union.branches, List.lookup_cons, Reward.mentions, Role.references,
      Formula.mirrors.at_spot]

theorem mirrors_texts {role : Role} {mention : Path → String → Mention}
    (h : ∀ spot s,
      (role.references spot s).map (⟨spot.place, ·⟩) = [(mention spot.place s).occurrence]) :
    Mirrors (text role) .str fun path s ↦ [mention path s] := by
  intro path around s
  rw [occurrences_text, h]
  rfl

theorem Achievement.mirrors :
    Mirrors (record .achievement) Achievement.encode Achievement.mentions := by
  intro path around a
  have hevents : Mirrors (text .event) .str fun path id ↦ [.event path id] :=
    mirrors_texts fun _ _ ↦ rfl
  rw [Achievement.encode, occurrences_record, Achievement.mentions]
  simp [Record.fields, List.lookup_cons, Track.mirrors.at_spot, Progress.mirrors.optional,
    Reward.mirrors.optional, Json.ofStrings, hevents.each, optionalCondition,
    Condition.mirrors.optional]

theorem AutomationTrigger.mirrors :
    Mirrors (union .automationTrigger) AutomationTrigger.encode AutomationTrigger.mentions := by
  intro path around t
  cases t <;> refine (occurrences_variant .automationTrigger ⟨path, false, around⟩ _ _).trans ?_ <;>
    simp [Union.key, Union.branches, List.lookup_cons, AutomationTrigger.mentions, Role.references,
      Formula.mirrors.at_spot]

theorem ResourceAmount.mirrors :
    Mirrors (record .resourceAmount) ResourceAmount.encode ResourceAmount.mentions := by
  intro path around r
  rw [ResourceAmount.encode, occurrences_record, ResourceAmount.mentions]
  simp [Record.fields, List.lookup_cons, Role.references, Formula.mirrors.at_spot]

theorem TransformTrigger.mirrors :
    Mirrors (union .transformTrigger) TransformTrigger.encode TransformTrigger.mentions := by
  intro path around t
  cases t <;> refine (occurrences_variant .transformTrigger ⟨path, false, around⟩ _ _).trans ?_ <;>
    simp [Union.key, Union.branches, List.lookup_cons, TransformTrigger.mentions, Role.references,
      Condition.mirrors.at_spot]

namespace Automation

theorem targetKind?_nameIn (t : AutomationTarget) :
    targetKind? (nameIn AutomationTarget.names t) = t.kind? := by
  cases t <;> rfl

theorem nameIn_eq_system (t : AutomationTarget) :
    nameIn AutomationTarget.names t = "system" ↔ t.kind? = none := by
  cases t <;> decide

theorem occurrences_target (spot : Spot) (t : AutomationTarget)
    (h : spot.text? "targetType" = some (nameIn AutomationTarget.names t)) (id : Option String) :
    (text .target).occurrences spot (.ofOption .str id) =
      t.kind?.toList.flatMap fun kind ↦ occurrencesOf (id.toList.map (.entry spot.place kind)) := by
  cases id with
  | none => cases t.kind? <;> rfl
  | some id =>
    rw [Json.ofOption, occurrences_text, Role.references, h, Option.bind_some, targetKind?_nameIn]
    cases t.kind? <;> rfl

theorem occurrences_systemTarget (spot : Spot) (t : AutomationTarget)
    (h : spot.text? "targetType" = some (nameIn AutomationTarget.names t)) (id : Option String) :
    (text .systemTarget).occurrences spot (.ofOption .str id) =
      if t.kind? = none then occurrencesOf
        (id.toList.map (.outside spot.place .systemTargets)) else [] := by
  cases id with
  | none => simp [Json.ofOption, occurrences]
  | some id =>
    rw [Json.ofOption, occurrences_text, Role.references, h]
    simp only [Option.some_inj, nameIn_eq_system]
    split <;> rfl

theorem mirrors : Mirrors (record .automation) Automation.encode Automation.mentions := by
  intro path around a
  rw [Automation.encode, occurrences_record, Automation.mentions, targetMentions]
  cases hkind : a.targetType.kind? <;>
    simp [Record.fields, List.lookup_cons, occurrences_target _ a.targetType,
      occurrences_systemTarget _ a.targetType, Spot.text?, encodeName, Json.str?, hkind,
      AutomationTrigger.mirrors.at_spot, ResourceRate.mirrors.optional, optionalFormula,
      Formula.mirrors.optional, optionalCondition, Condition.mirrors.optional]

end Automation

theorem EntityRequirement.mirrors :
    Mirrors (record .entityRequirement) EntityRequirement.encode EntityRequirement.mentions := by
  intro path around r
  rw [EntityRequirement.encode, occurrences_record, EntityRequirement.mentions]
  simp [Record.fields, List.lookup_cons, Role.references, Formula.mirrors.at_spot, occurrences_dict,
    KeyRole.references, Spot.text?, Subject.reference, Json.str?]

theorem Transform.nameIn_eq_mission (mode : TransformMode) :
    nameIn TransformMode.names mode = "mission" ↔ mode = .mission := by
  cases mode <;> decide

theorem Transform.mirrors : Mirrors (record .transform) Transform.encode Transform.mentions := by
  intro path around t
  rw [Transform.encode, occurrences_record, Transform.mentions, requirementMentions]
  by_cases hmode : t.mode = .mission <;>
    simp [Record.fields, List.lookup_cons, ResourceAmount.mirrors.each, optionalFormula,
      Formula.mirrors.optional, TransformTrigger.mirrors.at_spot, occurrences_onMission, Spot.text?,
      encodeName, Json.str?, Transform.nameIn_eq_mission, hmode, EntityRequirement.mirrors.each,
      optionalCondition, Condition.mirrors.optional]

theorem PrestigeReward.mirrors :
    Mirrors (record .prestigeReward) PrestigeReward.encode PrestigeReward.mentions := by
  intro path around r
  rw [PrestigeReward.encode, occurrences_record, PrestigeReward.mentions]
  simp [Record.fields, List.lookup_cons, Role.references, Formula.mirrors.at_spot, optionalFormula,
    Formula.mirrors.optional]

theorem Retention.mirrors : Mirrors (union .retention) Retention.encode Retention.mentions := by
  intro path around r
  cases r <;> refine (occurrences_variant .retention ⟨path, false, around⟩ _ _).trans ?_ <;>
    simp [Union.key, Union.branches, List.lookup_cons, Retention.mentions, Role.references,
      optionalFormula, Formula.mirrors.optional]

theorem Stat.mirrors : Mirrors (record .stat) Stat.encode Stat.mentions := by
  intro path around s
  rw [Stat.encode, occurrences_record, Stat.mentions]
  simp [Record.fields, List.lookup_cons, Formula.mirrors.at_spot, optionalFormula,
    Formula.mirrors.optional]

theorem Entity.occurrences_progression {path : Path} {around : List (List (String × Json))}
    (e : Entity) (fields : List (String × Json)) (hid : fields.lookup "id" = some (.str e.id))
    (hstats : fields.lookup "stats" = some (.arr (e.stats.map Stat.encode))) (p : Progression) :
    (record .progression).occurrences ⟨path, false, fields :: around⟩ p.encode =
      occurrencesOf (e.growthMentions path p) := by
  have hids : (e.stats.map Stat.encode).filterMap (fun v ↦ (v.field? "id").bind Json.str?) =
      e.stats.map (·.id) := by
    rw [List.filterMap_map, ← List.filterMap_eq_map]
    rfl
  rw [Progression.encode, occurrences_record, growthMentions]
  simp [Record.fields, List.lookup_cons, occurrences_optionalName, Formula.mirrors.at_spot,
    occurrences_dict, KeyRole.references, Spot.outerText?, Spot.outerIds, hid, hstats, hids,
    Subject.reference, Json.str?, Json.items?]

theorem Entity.mirrors : Mirrors (record .entity) Entity.encode Entity.mentions := by
  intro path around e
  rw [Entity.encode, occurrences_record, Entity.mentions]
  simp [Record.fields, List.lookup_cons, Stat.mirrors.each, optionalFormula,
    Formula.mirrors.optional, occurrences_ofOption (record .progression),
    Entity.occurrences_progression e, optionalCondition, Condition.mirrors.optional]

theorem Metric.occurrences_source (path : Path) (around : List (List (String × Json)))
    (m : Metric) :
    (union .metricSource).occurrences ⟨path.key "source", false, around⟩ m.source.encode =
      occurrencesOf (m.mentions path) := by
  have walk := occurrences_variant .metricSource ⟨path.key "source", false, around⟩
  rw [Metric.mentions]
  cases m.source <;> refine (walk _ _).trans ?_ <;>
    simp [Union.key, Union.branches, List.lookup_cons, Role.references]

theorem Metric.mirrors : Mirrors (record .metric) Metric.encode Metric.mentions := by
  intro path around m
  rw [Metric.encode, occurrences_record]
  simp [Record.fields, List.lookup_cons, Metric.occurrences_source]

theorem Emitter.occurrences_source (path : Path) (around : List (List (String × Json)))
    (e : Emitter) :
    (union .emitterSource).occurrences ⟨path.key "source", false, around⟩ e.encodeSource =
      occurrencesOf (e.mentions path) := by
  have walk := occurrences_variant .emitterSource ⟨path.key "source", false, around⟩
  cases e <;> refine (walk _ _).trans ?_ <;>
    simp [Union.key, Union.branches, List.lookup_cons, Role.references, Emitter.mentions]

theorem Emitter.mirrors : Mirrors (record .emitter) Emitter.encode Emitter.mentions := by
  intro path around e
  rw [Emitter.encode, occurrences_record]
  simp [Record.fields, List.lookup_cons, Emitter.occurrences_source]

theorem Payload.occurrences_encode (spot : Spot) (p : Option Payload) :
    (record .payload).occurrences spot (.ofOption Payload.encode p) = [] := by
  cases p with
  | none => rfl
  | some p =>
    rw [Json.ofOption, Payload.encode, occurrences_record]
    simp [Record.fields, List.lookup_cons]

theorem RuntimeEvent.mirrors :
    Mirrors (record .runtimeEvent) RuntimeEvent.encode RuntimeEvent.mentions := by
  intro path around e
  rw [RuntimeEvent.encode, occurrences_record, RuntimeEvent.mentions]
  simp [Record.fields, List.lookup_cons, Emitter.mirrors.each, Payload.occurrences_encode,
    Role.references, Subject.reference]

theorem mirrors_names (kind : Kind) :
    Mirrors (name kind) .str fun path id ↦ [.entry path kind id] :=
  mirrors_texts fun _ _ ↦ rfl

/-- The companion of a layer occurs at its id, the first field, and is mentioned last. -/
theorem PrestigeLayer.occurrences_encode (path : Path) (around : List (List (String × Json)))
    (l : PrestigeLayer) :
    ((record .prestigeLayer).occurrences ⟨path, false, around⟩ l.encode).Perm
      (occurrencesOf (l.mentions path)) := by
  rw [PrestigeLayer.encode, occurrences_record, PrestigeLayer.mentions, occurrencesOf_append]
  refine List.Perm.trans ?_ List.perm_append_comm
  simp [Record.fields, List.lookup_cons, Json.ofStrings, (mirrors_names .resource).each,
    (mirrors_names .generator).each, (mirrors_names .upgrade).each, Condition.mirrors.at_spot,
    PrestigeReward.mirrors.at_spot, Retention.mirrors.each, Role.references, Subject.reference]

theorem Dependency.mirrors : Mirrors (record .dependency) Dependency.encode fun _ _ ↦ [] := by
  intro path around d
  rw [Dependency.encode, occurrences_record]
  simp [Record.fields, List.lookup_cons]

theorem Dependencies.mirrors : Mirrors (record .dependencies) Dependencies.encode fun _ _ ↦ [] := by
  intro path around d
  rw [Dependencies.encode, occurrences_record]
  simp [Record.fields, List.lookup_cons, Dependency.mirrors.each, Path.each]

theorem Metadata.mirrors : Mirrors (record .metadata) Metadata.encode fun _ _ ↦ [] := by
  intro path around m
  rw [Metadata.encode, occurrences_record]
  simp [Record.fields, List.lookup_cons, Dependencies.mirrors.at_spot]

namespace Kind

theorem occurrences_encodeEntry (kind : Kind) (path : Path) (around : List (List (String × Json)))
    (e : kind.Entry) :
    ((Form.record kind.record).occurrences ⟨path, false, around⟩ (kind.encodeEntry e)).Perm
      (occurrencesOf (kind.entryMentions path e)) := by
  cases kind with
  | resource => exact .of_eq (Resource.mirrors path around e)
  | generator => exact .of_eq (Generator.mirrors path around e)
  | upgrade => exact .of_eq (Upgrade.mirrors path around e)
  | achievement => exact .of_eq (Achievement.mirrors path around e)
  | automation => exact .of_eq (Automation.mirrors path around e)
  | transform => exact .of_eq (Transform.mirrors path around e)
  | prestigeLayer => exact PrestigeLayer.occurrences_encode path around e
  | entity => exact .of_eq (Entity.mirrors path around e)
  | metric => exact .of_eq (Metric.mirrors path around e)
  | runtimeEvent => exact .of_eq (RuntimeEvent.mirrors path around e)

theorem prefix_of_mem_entryMentions {kind : Kind} {path : Path} {e : kind.Entry} {m : Mention}
    (hm : m ∈ kind.entryMentions path e) : path <+: m.path :=
  (Form.record kind.record).prefix_of_mem_occurrences ⟨path, false, []⟩
    (kind.encodeEntry e) m.occurrence
    ((kind.occurrences_encodeEntry path [] e).mem_iff.2 (List.mem_map_of_mem hm))

theorem occurrences_encodeEntries (kind : Kind) (path : Path) (around : List (List (String × Json)))
    (entries : List kind.Entry) :
    ((Form.records kind.record).occurrences ⟨path, false, around⟩
        (.arr (entries.map kind.encodeEntry))).Perm
      (occurrencesOf (path.each entries kind.entryMentions)) := by
  rw [occurrences_list, occurrencesOf_each]
  exact List.Perm.flatMap_left _ fun item _ ↦ kind.occurrences_encodeEntry _ around item.1

theorem lookup_packFields (kind : Kind) :
    Record.pack.fields.lookup kind.key = some (.records kind.record) := by
  cases kind <;> decide

end Kind

namespace Pack

theorem occurrences_fields (m : Metadata) (entries : (kind : Kind) → List kind.Entry)
    (rest : List (String × Json)) (hrest : ∀ e ∈ rest, Record.pack.fields.lookup e.1 = none) :
    (Json.obj (("metadata", m.encode) ::
        (Kind.all.map fun kind ↦ (kind.key, .arr ((entries kind).map kind.encodeEntry))) ++
          rest)).occurrences.Perm
      (Kind.all.flatMap fun kind ↦
        occurrencesOf (Path.each [.key kind.key] (entries kind) kind.entryMentions)) := by
  have hnone : ∀ (spot : List (String × Json) → Step → Spot) (whole : List (String × Json)),
      rest.flatMap (fun e ↦ part (spot whole (.key e.1)) e.2 (Record.pack.fields.lookup e.1)) =
        [] := by
    intro spot whole
    rw [List.flatMap_eq_nil_iff]
    intro e he
    rw [hrest e he, part_none]
  rw [Json.occurrences, occurrences_record, List.cons_append, List.flatMap_cons,
    List.flatMap_append,
    hnone fun whole step ↦ (⟨[], false, []⟩ : Spot).into false step (some whole),
    List.append_nil, List.flatMap_map]
  have hmetadata : Record.pack.fields.lookup "metadata" = some (.record .metadata) := rfl
  rw [hmetadata, part_some, into_key, Metadata.mirrors.at_spot, occurrencesOf_nil, List.nil_append]
  refine List.Perm.flatMap_left _ fun kind _ ↦ ?_
  rw [kind.lookup_packFields, part_some, into_key]
  exact kind.occurrences_encodeEntries _ _ _

/-- What is mentioned is what the format finds in the serialized pack. -/
theorem occurrences_encode (p : Pack) : p.encode.occurrences.Perm (occurrencesOf p.mentions) := by
  have h := occurrences_fields p.metadata p.collection [] fun _ he ↦ absurd he List.not_mem_nil
  rw [List.append_nil] at h
  rw [mentions, occurrencesOf_flatMap]
  exact h

end Pack

theorem FrozenPack.occurrences_encode (p : Pack) :
    (FrozenPack.ofPack p).encode.occurrences.Perm (occurrencesOf p.mentions) := by
  rw [Pack.mentions, occurrencesOf_flatMap]
  refine Pack.occurrences_fields p.metadata p.collection
    [("digest", (Digest.ofShape p.shape).encode)] ?_
  intro e he
  rw [List.mem_singleton.1 he]
  rfl

end GamePack
