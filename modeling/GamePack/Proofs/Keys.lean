import GamePack.Proofs.Parse
import GamePack.Proofs.Schema.Readers

namespace GamePack

theorem Decode.run_tracks {α : Type} {f : Form} {d : ∀ n, Decoder n α}
    (hd : ∀ n n', Tracks f (d n) (d n')) {v v' : Json} {a : α} (hrun : run d v = .ok a)
    (hagree : f.Agree v v') : run d v' = .ok a ∧ f.Strict v :=
  hd _ _ .direct _ _ a hrun hagree

namespace Pack

variable {p : Pack} {doc doc' : Json} {fields fields' : List (String × Json)}

theorem unknownKeys_eq_nil : unknownKeys fields = [] ↔
    ∀ key ∈ fields.map (·.1), key ∈ Record.pack.fields.map (·.1) := by
  have hdeclared (key : String) : key ∈ Record.pack.fields.map (·.1) ↔
      key = "metadata" ∨ ∃ kind : Kind, kind.key = key := by
    rw [Record.fields, List.map_cons, List.mem_cons, List.map_map, List.mem_map]
    exact or_congr Iff.rfl (exists_congr fun kind ↦ and_iff_right kind.mem_all)
  have hkind (key : String) : (Kind.ofKey? key).isSome ↔ ∃ kind : Kind, kind.key = key := by
    rw [Kind.ofKey?, List.find?_isSome]
    exact exists_congr fun kind ↦ (and_iff_right kind.mem_all).trans decide_eq_true_iff
  rw [unknownKeys, List.map_eq_nil_iff, List.filter_eq_nil_iff, List.forall_mem_map]
  refine forall₂_congr fun e _ ↦ ?_
  rw [hdeclared, ← hkind]
  cases (Kind.ofKey? e.1) <;> simp

theorem within_metadata :
    (Form.record .pack).within (.obj fields) (.key "metadata") = some (.record .metadata) := rfl

theorem within_key (kind : Kind) :
    (Form.record .pack).within (.obj fields) (.key kind.key) = some (.records kind.record) := by
  cases kind <;> rfl

theorem readMetadata_agree {m : Metadata} (h : readMetadata fields = .ok m)
    (hagree : (Form.record .pack).Agree (.obj fields) (.obj fields')) :
    readMetadata fields' = .ok m ∧
      ∀ v, fields.lookup "metadata" = some v → (Form.record .metadata).Strict v := by
  obtain ⟨v, hv, hrun⟩ := readMetadata_eq_ok.1 h
  have hpart := hagree.lookup_eq within_metadata
  rw [hv] at hpart
  obtain ⟨v', hv', hagree'⟩ := Option.map_eq_some_iff.1 hpart.symm
  obtain ⟨hrun', hstrict⟩ := Decode.run_tracks (fun _ _ ↦ Metadata.tracks) hrun hagree'.symm
  refine ⟨readMetadata_eq_ok.2 ⟨v', hv', hrun'⟩, fun w hw ↦ ?_⟩
  obtain rfl := Option.some.inj (hv.symm.trans hw)
  exact hstrict

theorem entries_agree {kind : Kind} {items items' : List Json} {entries : List kind.Entry}
    (h : List.Forall₂ (fun v e ↦ Decode.run (fun _ ↦ kind.entryDecoder) v = .ok e) items entries)
    (hagree : items.map (Form.record kind.record).trim =
        items'.map (Form.record kind.record).trim) :
    List.Forall₂ (fun v e ↦ Decode.run (fun _ ↦ kind.entryDecoder) v = .ok e) items' entries ∧
      ∀ v ∈ items, (Form.record kind.record).Strict v := by
  induction h generalizing items' with
  | nil =>
    obtain rfl := List.map_eq_nil_iff.1 hagree.symm
    exact ⟨.nil, fun v hv ↦ absurd hv List.not_mem_nil⟩
  | @cons v e items entries hv _ ih =>
    obtain ⟨v', rest', rfl, hv', hrest⟩ := List.map_eq_cons_iff.1 hagree.symm
    obtain ⟨hrun, hstrict⟩ := Decode.run_tracks (fun _ _ ↦ kind.tracks) hv hv'.symm
    obtain ⟨hothers, hall⟩ := ih hrest.symm
    exact ⟨.cons hrun hothers, List.forall_mem_cons.2 ⟨hstrict, hall⟩⟩

theorem readCollection_agree {kind : Kind} {entries : List kind.Entry}
    (h : readCollection fields kind = entries.map .ok)
    (hagree : (Form.record .pack).Agree (.obj fields) (.obj fields')) :
    readCollection fields' kind = entries.map .ok ∧
      ∀ v, fields.lookup kind.key = some v → (Form.records kind.record).Strict v := by
  have hpart := hagree.lookup_eq (within_key kind)
  rw [readCollection_eq_ok] at h ⊢
  rcases h with ⟨hnone, hnil⟩ | ⟨items, hitems, hread⟩
  · rw [hnone] at hpart
    refine ⟨.inl ⟨Option.map_eq_none_iff.1 hpart.symm, hnil⟩, fun v hv ↦ ?_⟩
    rw [hnone] at hv
    cases hv
  · rw [hitems] at hpart
    obtain ⟨v', hv', hagree'⟩ := Option.map_eq_some_iff.1 hpart.symm
    obtain ⟨items', rfl⟩ := Form.Agree.exists_arr hagree'.symm
    rw [Form.trim_list, Form.trim_list] at hagree'
    obtain ⟨hread', hstrict⟩ := entries_agree hread (Json.arr.inj hagree').symm
    refine ⟨.inr ⟨items', hv', hread'⟩, fun w hw ↦ ?_⟩
    obtain rfl := Option.some.inj (hitems.symm.trans hw)
    exact Form.strict_list hstrict

/-- Documents that agree are read as the same pack, and what is read as a pack is strict. -/
theorem parse_agree (h : (parse doc).1 = some p) (hagree : (Form.record .pack).Agree doc doc') :
    (parse doc').1 = some p ∧ (Form.record .pack).Strict doc := by
  obtain ⟨fields, rfl, hunknown, hmetadata, hcollections⟩ := parse_eq_some_iff.1 h
  obtain ⟨fields', rfl⟩ := hagree.exists_obj
  obtain ⟨hmetadata', hstrict⟩ := readMetadata_agree hmetadata hagree
  have hread (kind : Kind) := readCollection_agree (hcollections kind) hagree
  rw [unknownKeys_eq_nil] at hunknown
  refine ⟨parse_eq_some_iff.2 ⟨fields', rfl, ?_, hmetadata', fun kind ↦ (hread kind).1⟩,
    Record.strict_obj hunknown fun f hf w hw ↦ ?_⟩
  · rw [unknownKeys_eq_nil, ← hagree.keys_eq rfl]
    exact hunknown
  · rcases List.mem_cons.1 hf with rfl | hf
    · exact hstrict w hw
    · obtain ⟨kind, -, rfl⟩ := List.mem_map.1 hf
      exact (hread kind).2 w hw

/-- In a document that is read as a pack, an object that is no bare variant has declared keys only.
A further key makes the document unreadable there, and goes unseen in a bare variant. -/
theorem declared_of_parse {path : Path} {form : Form} {keys : List String}
    (h : (parse doc).1 = some p)
    (hpath : (Form.record .pack).follow path doc = some (form, .obj fields))
    (hkeys : form.keys? (.obj fields) = some keys) :
    (form.isBare (.obj fields) = false → ∀ e ∈ fields, e.1 ∈ keys) ∧
      ∀ key value, key ∉ keys →
        (parse (doc.setFieldAt path key value)).1 =
          if form.isBare (.obj fields) then some p else none := by
  have hstrict {doc : Json} {p : Pack} (h : (parse doc).1 = some p) :
      (Form.record .pack).Strict doc :=
    (parse_agree h rfl).2
  refine ⟨hstrict h path form _ hpath fields keys rfl hkeys, fun key value hkey ↦ ?_⟩
  have hhead := form.sameHead_setField hkeys hkey value
  cases hbare : form.isBare (.obj fields) with
  | true =>
    have hagree := Form.agree_modifyAt (h := (·.setField key value)) hpath
      (Form.agree_setField hkeys hbare hkey value)
    exact (parse_agree h hagree.symm).1
  | false =>
    have hpath' := Form.follow_modifyAt (h := (·.setField key value)) hpath
    rw [if_neg Bool.false_ne_true, Option.eq_none_iff_forall_ne_some]
    -- If the changed document were a pack, it would be strict, and the new key declared.
    intro q hq
    have hmem :=
      hstrict hq path form _ hpath' _ keys rfl (hhead.keys.trans hkeys) (hhead.bare.trans hbare)
    exact hkey (hmem (key, value) (Json.mem_insertField key value fields))

def overloadedCondition : Json := .obj [("extra", .ofNat 1), ("kind", .str "always")]

def overloadedResource : Json := .obj
  [("id", .str "p.r"), ("name", .str "R"), ("unlockCondition", overloadedCondition)]

def overloaded : Json := .obj
  [("metadata", .obj [("id", .str "p"), ("title", .str "T"), ("version", .str "1.0.0")]),
    ("resources", .arr [overloadedResource])]

theorem declared_overloaded : ∃ p, (parse overloaded).1 = some p ∧
    (∀ key value, key ∉ ["kind"] → (parse (overloaded.setFieldAt
      [.key "resources", .index 0, .key "unlockCondition"] key value)).1 = some p) ∧
    ∀ key value, key ∉ Record.resource.fields.map (·.1) →
      (parse (overloaded.setFieldAt [.key "resources", .index 0] key value)).1 = none := by
  obtain ⟨p, hp⟩ := Option.isSome_iff_exists.1 (by decide +kernel : (parse overloaded).1.isSome)
  have hcondition : Form.condition.keys? overloadedCondition = some ["kind"] := rfl
  have hresource : (Form.record .resource).keys? overloadedResource =
      some (Record.resource.fields.map (·.1)) := rfl
  exact ⟨p, hp, (declared_of_parse hp rfl hcondition).2, (declared_of_parse hp rfl hresource).2⟩

/-- The document is read as a pack although the condition holds an undeclared key. -/
theorem undeclared_overloaded : (parse overloaded).1.isSome ∧ ∃ path form fields keys,
    (Form.record .pack).follow path overloaded = some (form, .obj fields) ∧
      form.keys? (.obj fields) = some keys ∧ ∃ e ∈ fields, e.1 ∉ keys := by
  have hcondition : Form.condition.keys? overloadedCondition = some ["kind"] := rfl
  refine ⟨by decide +kernel, [.key "resources", .index 0, .key "unlockCondition"],
    .condition, _, ["kind"], rfl, hcondition, ("extra", .ofNat 1), List.mem_cons_self, ?_⟩
  decide

end Pack

end GamePack
