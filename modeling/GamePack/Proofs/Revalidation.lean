import GamePack.Proofs.Keys
import GamePack.Proofs.Schema.Writers
import GamePack.Proofs.Soundness

namespace GamePack

variable {doc : Json} {order : FieldOrder}

def Json.withoutField (key : String) : Json → Json
  | .obj fields => .obj (fields.filter (·.1 ≠ key))
  | v => v

namespace Pack

variable {p : Pack} {fields : List (String × Json)}

theorem readMetadata_written (hparse : (parse doc).1 = some p)
    (h : fields.lookup "metadata" = some (p.metadata.encode.inOrder order)) :
    readMetadata fields = .ok p.metadata := by
  obtain ⟨_, -, -, hmetadata, -⟩ := parse_eq_some_iff.1 hparse
  obtain ⟨v, -, hrun⟩ := readMetadata_eq_ok.1 hmetadata
  exact readMetadata_eq_ok.2 ⟨_, h, (Metadata.restores _ _ _ hrun).1 _ _ rfl⟩

theorem run_encodeEntry (hparse : (parse doc).1 = some p) {kind : Kind} {e : kind.Entry}
    (he : e ∈ p.collection kind) :
    Decode.run (fun _ ↦ kind.entryDecoder) ((kind.encodeEntry e).inOrder order) = .ok e := by
  obtain ⟨fields, -, -, -, hcollections⟩ := parse_eq_some_iff.1 hparse
  rcases readCollection_eq_ok.1 (hcollections kind) with ⟨-, hnil⟩ | ⟨items, -, hread⟩
  · rw [hnil] at he
    cases he
  · obtain ⟨v, -, hrun⟩ := exists_of_mem_of_forall₂ hread.flip he
    exact (kind.restores _ _ _ hrun).1 _ _ rfl

theorem readCollection_written (hparse : (parse doc).1 = some p) {kind : Kind}
    (h : fields.lookup kind.key = some ((p.encodeCollection kind).inOrder order)) :
    readCollection fields kind = (p.collection kind).map .ok := by
  rw [encodeCollection, Json.inOrder_arr, List.map_map] at h
  refine readCollection_eq_ok.2 (.inr ⟨_, h, ?_⟩)
  rw [List.forall₂_map_left_iff, List.forall₂_same]
  exact fun e he ↦ run_encodeEntry hparse he

/-- Without its digest, the serialized pack is read as the pack it was made of. -/
theorem parse_withoutDigest (order : FieldOrder) (hparse : (parse doc).1 = some p) :
    (parse (((FrozenPack.ofPack p).encode.inOrder order).withoutField "digest")).1 = some p := by
  have hkeys : (FrozenPack.ofPack p).encode.fields?.map (·.map (·.1)) =
      some (Record.pack.fields.map (·.1) ++ ["digest"]) := rfl
  obtain ⟨written, hwritten⟩ : ∃ written, (FrozenPack.ofPack p).encode = .obj written := ⟨_, rfl⟩
  rw [hwritten] at hkeys
  replace hkeys : written.map (·.1) = Record.pack.fields.map (·.1) ++ ["digest"] :=
    Option.some.inj hkeys
  have hnodup : (written.map (·.1)).Nodup := hkeys ▸ by decide
  obtain ⟨fields, hfields, hlookup⟩ := Json.exists_inOrder_obj order hnodup
  have hfind {key : String} {v : Json} (hkey : key ≠ "digest") (h : written.lookup key = some v) :
      (fields.filter (·.1 ≠ "digest")).lookup key = some (v.inOrder order) := by
    rw [lookup_filter (· ≠ "digest"), if_pos (decide_eq_true hkey), hlookup, h]
    rfl
  rw [hwritten, hfields]
  refine parse_eq_some_iff.2 ⟨_, rfl, unknownKeys_eq_nil.2 fun key hkey ↦ ?_,
    readMetadata_written hparse (hfind (by decide) ?_),
    fun kind ↦ readCollection_written hparse (hfind (by cases kind <;> decide) ?_)⟩
  · rw [keys_filter (· ≠ "digest"), List.mem_filter, ← isSome_lookup_iff, hlookup,
      Option.isSome_map, isSome_lookup_iff, hkeys, List.mem_append] at hkey
    exact hkey.1.resolve_right fun hdigest ↦ of_decide_eq_true hkey.2 (List.mem_singleton.1 hdigest)
  · cases hwritten
    rfl
  · cases hwritten
    cases kind <;> rfl

end Pack

theorem validate_of_parse_eq {check : Option BalanceCheck} {c : Config} {doc' : Json}
    {v : Validated} (hparse : Pack.parse doc' = Pack.parse doc)
    (h : (validate check c doc).outcome = .ok v) : (validate check c doc').outcome = .ok v := by
  unfold validate at h ⊢
  generalize Allowlists.normalize c.allowlists = normalized at h ⊢
  obtain ⟨dropped, allowlists⟩ := normalized
  cases allowlists with
  | error e => cases h
  | ok allowlists =>
    dsimp only [Run.after] at h ⊢
    unfold Json.validate at h ⊢
    rw [hparse]
    generalize Pack.parse doc = parsed at h ⊢
    obtain ⟨pack, findings⟩ := parsed
    cases pack with
    | none => cases h
    | some p =>
      dsimp only [Run.after] at h ⊢
      split at h
      · cases h
      · rename_i hissues
        rw [if_neg hissues]
        exact h

/-- The serialized pack without its digest passes again, as the same pack with the same warnings. -/
theorem revalidate {check : Option BalanceCheck} {c : Config} {v : Validated}
    (h : (validate check c doc).outcome = .ok v) (order : FieldOrder) :
    (validate check c ((v.pack.encode.inOrder order).withoutField "digest")).outcome = .ok v := by
  obtain ⟨allowlists, before, hrun⟩ := exists_json_of_validate h
  obtain ⟨p, known, hparse, -, hrun⟩ := Json.of_validate hrun
  obtain ⟨-, -, hpack⟩ := Pack.of_validate hrun
  have hagain := Pack.parse_withoutDigest order hparse
  refine validate_of_parse_eq (Prod.ext ?_ ?_) h <;> rw [hpack]
  · rw [hagain, hparse]
  · rw [Pack.check_of_parse hagain, Pack.check_of_parse hparse]

theorem revalidate_small : ∃ v, (validate none .initial Sample.small).outcome = .ok v ∧
    (validate none .initial ((v.pack.encode.inOrder .ascending).withoutField "digest")).outcome =
      .ok v := by
  obtain ⟨v, h⟩ := Sample.small_accepted
  exact ⟨v, h, revalidate h .ascending⟩

end GamePack
