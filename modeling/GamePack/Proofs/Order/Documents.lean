import GamePack.Proofs.Frozen
import GamePack.Proofs.Order.Cycles
import GamePack.Proofs.Order.References
import GamePack.Proofs.Run
import GamePack.Proofs.Soundness

namespace GamePack

inductive ShuffledField : String × Json → String × Json → Prop
  | same (f : String × Json) : ShuffledField f f
  | entries (kind : Kind) {items items' : List Json} :
      items.Perm items' → ShuffledField (kind.key, .arr items) (kind.key, .arr items')

/-- The same document but for the order of the entries in each collection. -/
inductive Json.Shuffled : Json → Json → Prop
  | same (doc : Json) : Shuffled doc doc
  | fields {fields fields' : List (String × Json)} :
      List.Forall₂ ShuffledField fields fields' → Shuffled (.obj fields) (.obj fields')

namespace ShuffledField

variable {f f' : String × Json} {fields fields' : List (String × Json)}

theorem key_eq (h : ShuffledField f f') : f.1 = f'.1 := by cases h <;> rfl

theorem lookup (h : List.Forall₂ ShuffledField fields fields') (key : String) :
    fields.lookup key = none ∧ fields'.lookup key = none ∨
      ∃ v v', fields.lookup key = some v ∧ fields'.lookup key = some v' ∧
        ShuffledField (key, v) (key, v') := by
  induction h with
  | nil => exact .inl ⟨rfl, rfl⟩
  | @cons f f' rest rest' hf _ ih =>
    rw [lookup_cons, lookup_cons, ← hf.key_eq]
    by_cases hkey : key = f.1
    · have hfield : ShuffledField (f.1, f.2) (f'.1, f'.2) := hf
      rw [← hf.key_eq, ← hkey] at hfield
      rw [if_pos hkey, if_pos hkey]
      exact .inr ⟨f.2, f'.2, rfl, rfl, hfield⟩
    · rw [if_neg hkey, if_neg hkey]
      exact ih

theorem lookup_metadata (h : List.Forall₂ ShuffledField fields fields') :
    fields.lookup "metadata" = fields'.lookup "metadata" := by
  rcases lookup h "metadata" with ⟨hnone, hnone'⟩ | ⟨v, v', hv, hv', hfield⟩
  · rw [hnone, hnone']
  · have hvalue : v = v' := by
      generalize hkey : "metadata" = key at hfield
      cases hfield with
      | same => rfl
      | entries kind => cases kind <;> exact absurd hkey (by decide)
    rw [hv, hv', hvalue]

theorem unknownKeys (h : List.Forall₂ ShuffledField fields fields') :
    Pack.unknownKeys fields = Pack.unknownKeys fields' := by
  induction h with
  | nil => rfl
  | cons hf _ ih =>
    rw [Pack.unknownKeys, Pack.unknownKeys] at ih ⊢
    rw [List.filter_cons, List.filter_cons, hf.key_eq]
    split
    · rw [List.map_cons, List.map_cons, ih, hf.key_eq]
    · exact ih

end ShuffledField

namespace Pack

variable {fields fields' : List (String × Json)}

theorem toOption_readAt {α : Type} (d : ∀ n, Decoder n α) (path : Path) (v : Json) :
    (readAt d path v).toOption = (Decode.run d v).toOption := by
  rw [readAt]
  cases Decode.run d v <;> rfl

theorem toOption_readCollection (fields : List (String × Json)) (kind : Kind) :
    (readCollection fields kind).map Except.toOption =
      match fields.lookup kind.key with
      | none => []
      | some (.arr items) => items.map fun v ↦ (Decode.run (fun _ ↦ kind.entryDecoder) v).toOption
      | some _ => [none] := by
  unfold readCollection
  cases fields.lookup kind.key with
  | none => rfl
  | some v =>
    cases v with
    | arr items =>
      dsimp only
      rw [List.map_map]
      conv_rhs => rw [← List.zipIdx_map_fst 0 items, List.map_map]
      exact List.map_congr_left fun x _ ↦ toOption_readAt _ _ _
    | _ => rfl

theorem toOption_readCollection_perm (h : List.Forall₂ ShuffledField fields fields') (kind : Kind) :
    ((readCollection fields kind).map Except.toOption).Perm
      ((readCollection fields' kind).map Except.toOption) := by
  rw [toOption_readCollection, toOption_readCollection]
  rcases ShuffledField.lookup h kind.key with ⟨hnone, hnone'⟩ | ⟨v, v', hv, hv', hfield⟩
  · rw [hnone, hnone']
  · rw [hv, hv']
    generalize hkey : kind.key = key at hfield
    cases hfield with
    | same => exact .refl _
    | entries _ hitems => exact hitems.map _

theorem alike_unread (h : List.Forall₂ ShuffledField fields fields') :
    Alike (unread fields) (unread fields') := by
  have herrors {α : Type} (entries : List (Except Issue α)) :
      (entries.filterMap error?).map Finding.isIssue =
      (entries.map Except.toOption).filterMap fun o ↦ if o.isNone then some true else none := by
    rw [List.map_filterMap, List.filterMap_map]
    exact List.filterMap_congr fun entry _ ↦ by cases entry <;> rfl
  have hcollection (kind : Kind) :
      Alike ((readCollection fields kind).filterMap error?)
        ((readCollection fields' kind).filterMap error?) := by
    rw [Alike, herrors, herrors]
    exact (toOption_readCollection_perm h kind).filterMap _
  have hmetadata : readMetadata fields = readMetadata fields' := by
    rw [readMetadata, readMetadata, ShuffledField.lookup_metadata h]
  rw [unread, unread, ShuffledField.unknownKeys h, hmetadata]
  exact .append (.refl _) (.flatMap (.refl _) fun kind _ ↦ hcollection kind)

theorem shuffled_of_parse (h : List.Forall₂ ShuffledField fields fields') {p q : Pack}
    (hp : (parse (.obj fields)).1 = some p) (hq : (parse (.obj fields')).1 = some q) :
    p.Shuffled q := by
  obtain ⟨_, heq, -, hmetadata, hcollections⟩ := parse_eq_some_iff.1 hp
  obtain ⟨_, heq', -, hmetadata', hcollections'⟩ := parse_eq_some_iff.1 hq
  cases heq
  cases heq'
  refine ⟨?_, fun kind ↦ ?_⟩
  · rw [readMetadata, ← ShuffledField.lookup_metadata h, ← readMetadata, hmetadata] at hmetadata'
    exact Except.ok.inj hmetadata'
  · have hread : ((readCollection fields kind).filterMap Except.toOption).Perm
        ((readCollection fields' kind).filterMap Except.toOption) := by
      have hfound := (toOption_readCollection_perm h kind).filterMap fun o ↦ o
      rwa [List.filterMap_map, List.filterMap_map] at hfound
    rwa [hcollections, hcollections', filterMap_toOption_map_ok, filterMap_toOption_map_ok] at hread

/-- Either both documents are read, as packs that differ in the order of entries, or neither is, for
reasons that are as many. -/
theorem parse_shuffled {doc doc' : Json} (h : doc.Shuffled doc') :
    (∃ p q, (parse doc).1 = some p ∧ (parse doc').1 = some q ∧ p.Shuffled q) ∨
      (parse doc).1 = none ∧ (parse doc').1 = none ∧ Alike (parse doc).2 (parse doc').2 := by
  cases h with
  | same =>
    cases hparse : (parse doc).1 with
    | some p => exact .inl ⟨p, p, rfl, rfl, rfl, fun _ ↦ .refl _⟩
    | none => exact .inr ⟨rfl, rfl, .refl _⟩
  | @fields fields fields' h =>
    have hunread := alike_unread h
    rcases parse_obj fields with ⟨hnil, hsome⟩ | ⟨hne, hparse⟩ <;>
      rcases parse_obj fields' with ⟨hnil', hsome'⟩ | ⟨hne', hparse'⟩
    · obtain ⟨p, hp⟩ := Option.isSome_iff_exists.1 hsome
      obtain ⟨q, hq⟩ := Option.isSome_iff_exists.1 hsome'
      exact .inl ⟨p, q, hp, hq, shuffled_of_parse h hp hq⟩
    · rw [hnil] at hunread
      exact absurd (List.map_eq_nil_iff.1 (List.nil_perm.1 hunread)) hne'
    · rw [hnil'] at hunread
      exact absurd (List.map_eq_nil_iff.1 (List.perm_nil.1 hunread)) hne
    · rw [hparse, hparse']
      exact .inr ⟨rfl, rfl, hunread⟩

end Pack

/-- Outcomes that agree in all but the order of entries and findings and what is
said about these. -/
inductive Outcome.Matches : Outcome → Outcome → Prop
  | accepted {v v' : Validated} : v.warnings.length = v'.warnings.length →
      (∀ kind id, (v.pack.collection kind).get? id = (v'.pack.collection kind).get? id) →
      Matches (.ok v) (.ok v')
  | rejected (packId : Option String) {issues issues' : List Issue} :
      issues.length = issues'.length →
      Matches (.error (.rejected packId issues)) (.error (.rejected packId issues'))
  | badAllowlist (e : AllowlistError) :
      Matches (.error (.badAllowlist e)) (.error (.badAllowlist e))

variable {c : Config} {allowlists : Allowlists} {before before' : List Finding}

namespace Pack.Shuffled

variable {p q : Pack}

theorem get?_ofPack (h : p.Shuffled q) (hnodup : ∀ kind, (p.ids kind).Nodup) (kind : Kind)
    (id : String) :
    ((FrozenPack.ofPack p).collection kind).get? id =
      ((FrozenPack.ofPack q).collection kind).get? id := by
  have hfind (p : Pack) : ((FrozenPack.ofPack p).collection kind).get? id =
      (p.collection kind).reverse.find? (kind.entryId · = id) := Frozen.get?_ofList _ _ _
  rw [hfind, hfind, h.find?_last (hnodup kind)]

theorem outcome_matches (h : p.Shuffled q) (hnodup : ∀ kind, (p.ids kind).Nodup)
    (hbefore : Alike before before') : Outcome.Matches (p.validate none c allowlists before).outcome
      (q.validate none c allowlists before').outcome := by
  have hchecks : Alike (before ++ p.checks allowlists c) (before' ++ q.checks allowlists c) :=
    .append hbefore (.append (h.alike_references (hnodup .entity)) (h.alike_cycles c))
  rw [outcome_validate, outcome_validate, hchecks.hasIssues]
  split
  · rw [Pack.id, Pack.id, h.metadata]
    exact .rejected _ hchecks.length_issuesOf
  · exact .accepted hchecks.length_warningsOf (h.get?_ofPack hnodup)

end Pack.Shuffled

namespace Json.Shuffled

variable {doc doc' : Json}

theorem packId? (h : doc.Shuffled doc') : doc.packId? = doc'.packId? := by
  cases h with
  | same => rfl
  | fields h =>
    rw [Json.packId?, Json.packId?, Json.at?, Json.at?, Json.field?, Json.field?,
      ShuffledField.lookup_metadata h]

theorem outcome_matches (h : doc.Shuffled doc') (before : List Finding) :
    Outcome.Matches (doc.validate none c allowlists before).outcome
      (doc'.validate none c allowlists before).outcome := by
  rw [Json.outcome_validate, Json.outcome_validate, h.packId?]
  rcases Pack.parse_shuffled h with ⟨p, q, hp, hq, hpq⟩ | ⟨hp, hq, hfindings⟩
  · have hknown : Alike (before ++ (Pack.parse doc).2) (before ++ (Pack.parse doc').2) := by
      rw [Pack.check_of_parse hp, Pack.check_of_parse hq]
      exact .append (.refl _) hpq.alike_structure
    rw [hp, hq]
    dsimp only
    rw [← hknown.hasIssues]
    split
    · exact .rejected _ hknown.length_issuesOf
    · rename_i hissues
      have hstructure : hasIssues (Structure.check p) = false := by
        rw [Bool.not_eq_true, hasIssues_append, Pack.check_of_parse hp] at hissues
        exact hissues.2
      exact hpq.outcome_matches (Structure.hasIssues_check.1 hstructure).distinct hknown
  · rw [hp, hq]
    exact .rejected _ (Alike.append (.refl before) hfindings).length_issuesOf

end Json.Shuffled

/-- In whatever order the entries of its collections stand, a document is validated with
the same outcome: it is accepted with as many warnings and the same entries, or rejected
with as many issues. -/
theorem matches_of_shuffled {doc doc' : Json} (h : doc.Shuffled doc') (c : Config) :
    Outcome.Matches (validate none c doc).outcome (validate none c doc').outcome := by
  cases hnormal : Allowlists.normalize c.allowlists with
  | mk dropped allowlists =>
    cases allowlists with
    | error e =>
      rw [validate, validate, hnormal]
      exact .badAllowlist e
    | ok allowlists =>
      rw [outcome_validate hnormal, outcome_validate hnormal]
      exact h.outcome_matches dropped

namespace Json

def turnField (f : String × Json) : String × Json :=
  match Kind.ofKey? f.1, f.2 with
  | some _, .arr items => (f.1, .arr items.reverse)
  | _, _ => f

def turned : Json → Json
  | .obj fields => .obj (fields.map turnField)
  | v => v

theorem shuffled_turnField (f : String × Json) : ShuffledField f (turnField f) := by
  obtain ⟨key, v⟩ := f
  cases hkind : Kind.ofKey? key with
  | none =>
    rw [turnField, hkind]
    exact .same _
  | some kind =>
    obtain rfl : kind.key = key :=
      of_decide_eq_true (List.find?_some (p := fun kind : Kind ↦ kind.key = key) hkind)
    cases v with
    | arr items =>
      rw [turnField, hkind]
      exact .entries kind (List.reverse_perm items).symm
    | _ =>
      rw [turnField, hkind]
      exact .same _

theorem shuffled_turned (doc : Json) : doc.Shuffled doc.turned := by
  cases doc with
  | obj fields =>
    refine .fields ?_
    rw [List.forall₂_map_right_iff, List.forall₂_same]
    exact fun f _ ↦ shuffled_turnField f
  | _ => exact .same _

end Json

theorem matches_of_shuffled_small : ∃ v v', (validate none .initial Sample.small).outcome = .ok v ∧
    (validate none .initial Sample.small.turned).outcome = .ok v' ∧
    v.warnings.length = v'.warnings.length ∧
    ∀ kind id, (v.pack.collection kind).get? id = (v'.pack.collection kind).get? id := by
  obtain ⟨v, hv⟩ := Sample.small_accepted
  have hmatches := matches_of_shuffled Sample.small.shuffled_turned .initial
  rw [hv] at hmatches
  cases hv' : (validate none .initial Sample.small.turned).outcome with
  | error e =>
    rw [hv'] at hmatches
    cases hmatches
  | ok v' =>
    rw [hv'] at hmatches
    cases hmatches with
    | accepted hwarnings hfind => exact ⟨v, v', hv, rfl, hwarnings, hfind⟩

end GamePack
