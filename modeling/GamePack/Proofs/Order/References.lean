import GamePack.Proofs.Order.Structure
import GamePack.Proofs.Reference
import GamePack.Validation

namespace GamePack

namespace Spot

variable {spot spot' : Spot}

theorem text?_of_around (h : spot.around = spot'.around) (key : String) :
    spot.text? key = spot'.text? key := by
  rw [text?, text?, h]

theorem around_into (h : spot.around = spot'.around) (inFormula : Bool) (step : Step)
    (object : Option (List (String × Json))) :
    (spot.into inFormula step object).around = (spot'.into inFormula step object).around := by
  rw [into, into, h]

end Spot

namespace Form

section

variable {spot spot' : Spot}

theorem references_of_around (h : spot.around = spot'.around) (s : String) (role : Role) :
    role.references spot s = role.references spot' s := by
  cases role with
  | target | systemTarget => rw [Role.references, Role.references, Spot.text?_of_around h]
  | _ => rfl

theorem keyReferences_of_around (h : spot.around = spot'.around) (key : String) (role : KeyRole) :
    role.references spot key = role.references spot' key := by
  cases role with
  | nothing => rfl
  | requiredStat => rw [KeyRole.references, KeyRole.references, Spot.text?_of_around h]
  | ownStat =>
    rw [KeyRole.references, KeyRole.references, Spot.outerText?, Spot.outerText?, Spot.outerIds,
      Spot.outerIds, h]

theorem counts_of_around (h : spot.around = spot'.around) (f : Form) :
    f.counts spot = f.counts spot' := by
  cases f with
  | onMission form => rw [counts, counts, Spot.text?_of_around h]
  | _ => rfl

end

mutual

/-- What is named in a value does not depend on its place, only on what is around it. -/
theorem map_reference_occurrences (f : Form) {spot spot' : Spot} (h : spot.around = spot'.around) :
    (v : Json) →
    (f.occurrences spot v).map (·.reference) = (f.occurrences spot' v).map (·.reference)
  | .str s => by
    rw [occurrences, occurrences, counts_of_around h, references_of_around h]
    split
    · simp
    · rfl
  | .arr items => by
    rw [occurrences, occurrences, counts_of_around h]
    split
    · exact map_reference_itemOccurrences f.core h items 0 items
    · rfl
  | .obj fields => by
    rw [occurrences, occurrences, counts_of_around h]
    split
    · exact map_reference_fieldOccurrences f.core h fields fields
    · rfl
  | .null | .bool _ | .num _ => rfl

theorem map_reference_itemOccurrences (f : Form) {spot spot' : Spot}
    (h : spot.around = spot'.around) (whole : List Json) (i : Nat) :
    (items : List Json) → (f.itemOccurrences spot whole i items).map (·.reference) =
      (f.itemOccurrences spot' whole i items).map (·.reference)
  | [] => rfl
  | v :: rest => by
    rw [itemOccurrences, itemOccurrences, List.map_append, List.map_append,
      map_reference_itemOccurrences f h whole (i + 1) rest]
    cases f.within (.arr whole) (.index i) with
    | none => rfl
    | some part =>
      dsimp only
      rw [map_reference_occurrences part (Spot.around_into h _ _ _) v]

theorem map_reference_fieldOccurrences (f : Form) {spot spot' : Spot}
    (h : spot.around = spot'.around) (whole : List (String × Json)) :
    (fields : List (String × Json)) → (f.fieldOccurrences spot whole fields).map (·.reference) =
      (f.fieldOccurrences spot' whole fields).map (·.reference)
  | [] => rfl
  | (key, v) :: rest => by
    rw [fieldOccurrences, fieldOccurrences, List.map_append, List.map_append,
      map_reference_fieldOccurrences f h whole rest]
    cases f.within (.obj whole) (.key key) with
    | none => rfl
    | some part =>
      dsimp only
      rw [List.map_append, List.map_append,
        map_reference_occurrences part (Spot.around_into h _ _ _) v, keyReferences_of_around h]
      simp

end

end Form

theorem Kind.references_entryMentions (kind : Kind) (path path' : Path) (e : kind.Entry) :
    ((kind.entryMentions path e).map (·.subject.reference)).Perm
      ((kind.entryMentions path' e).map (·.subject.reference)) := by
  have hat (path : Path) : ((kind.entryMentions path e).map (·.subject.reference)).Perm
      (((Form.record kind.record).occurrences ⟨path, false, []⟩ (kind.encodeEntry e)).map
        (·.reference)) := by
    have h := (kind.occurrences_encodeEntry path [] e).symm.map (·.reference)
    rwa [occurrencesOf, List.map_map] at h
  have hplace :
      ((Form.record kind.record).occurrences ⟨path, false, []⟩ (kind.encodeEntry e)).map
        (·.reference) =
      ((Form.record kind.record).occurrences ⟨path', false, []⟩ (kind.encodeEntry e)).map
        (·.reference) :=
    have haround : Spot.around ⟨path, false, []⟩ = Spot.around ⟨path', false, []⟩ := rfl
    Form.map_reference_occurrences _ haround _
  exact (hat path).trans (hplace ▸ (hat path').symm)

theorem Reference.isIssue_finding (r : Reference) (allowlists : Allowlists) (c : Config)
    (place place' : Path) :
    (r.finding allowlists c place).isIssue = (r.finding allowlists c place').isIssue := by
  cases r with
  | outside =>
    rw [finding, finding]
    split <;> rfl
  | event =>
    rw [finding, finding]
    split <;> rfl
  | _ => rfl

namespace Pack.Shuffled

variable {p q : Pack} {allowlists : Allowlists} {c : Config}

theorem references (h : p.Shuffled q) :
    (p.mentions.map (·.subject.reference)).Perm (q.mentions.map (·.subject.reference)) :=
  h.map_each_perm Kind.references_entryMentions

theorem find?_last (h : p.Shuffled q) {kind : Kind} (hnodup : (p.ids kind).Nodup) (id : String) :
    (p.collection kind).reverse.find? (kind.entryId · = id) =
      (q.collection kind).reverse.find? (kind.entryId · = id) := by
  have hreverse : (p.collection kind).reverse.Perm (q.collection kind).reverse :=
    ((List.reverse_perm _).trans (h.collection kind)).trans (List.reverse_perm _).symm
  refine find?_key_perm hreverse ?_ id
  rw [List.map_reverse, List.nodup_reverse]
  exact hnodup

theorem offends (h : p.Shuffled q) (hnodup : (p.ids .entity).Nodup) (catalogue : List String) :
    Reference.offends p allowlists catalogue = Reference.offends q allowlists catalogue := by
  have hids (kind : Kind) (id : String) : id ∈ p.ids kind ↔ id ∈ q.ids kind := (h.ids kind).mem_iff
  have hentity : p.lastEntity? = q.lastEntity? := funext (h.find?_last hnodup)
  funext r
  cases r with
  | statOf => rw [Reference.offends, Reference.offends, hentity]
  | _ => simp only [Reference.offends, hids]

/-- As many references offend in every order, and as many of them are mere warnings. -/
theorem alike_references (h : p.Shuffled q) (hnodup : (p.ids .entity).Nodup) :
    Alike (p.checkReferences allowlists c) (q.checkReferences allowlists c) := by
  let verdict (offends : Reference → Bool) (r : Reference) : List Bool :=
    if offends r then [(r.finding allowlists c []).isIssue] else []
  have hresolve (p : Pack) (m : Mention) :
      ((Scope.ofConfig p allowlists c).resolve m).map Finding.isIssue =
      verdict (Reference.offends p allowlists c.eventCatalogue) m.subject.reference := by
    rw [Scope.resolve_ofConfig, apply_ite (List.map Finding.isIssue), List.map_singleton,
      Reference.isIssue_finding _ _ _ _ []]
    rfl
  have hcheck (p : Pack) : (Scope.ofConfig p allowlists c).check.map Finding.isIssue =
      (p.mentions.map (·.subject.reference)).flatMap
        (verdict (Reference.offends p allowlists c.eventCatalogue)) := by
    rw [Scope.check, List.map_flatMap, List.flatMap_map]
    exact List.flatMap_congr fun m _ ↦ hresolve p m
  rw [checkReferences, checkReferences, h.checkCompatibility]
  refine .append (.refl _) ?_
  rw [Alike, hcheck, hcheck, h.offends hnodup]
  exact h.references.flatMap_right _

end Pack.Shuffled

end GamePack
