import GamePack.Cache
import GamePack.Proofs.Decode.Fields
import GamePack.Proofs.Parse
import GamePack.Sample.Packs
import Mathlib.Data.List.Forall2

namespace GamePack

open Fields

theorem Metadata.lookup_of_decoder {n : Nat} {mode : Mode} {v : Below n} {m : Metadata}
    {fields : List (String × Json)} (hv : v.1 = .obj fields) (h : Metadata.decoder mode v = .ok m) :
    fields.lookup "id" = some (.str m.id) ∧ fields.lookup "version" = some (.str m.version) := by
  let P (m : Metadata) : Prop :=
    fields.lookup "id" = some (.str m.id) ∧ fields.lookup "version" = some (.str m.version)
  refine closed_object (P := P) (fun find hfind ↦ ?_) hv h
  -- The version is followed by the engine, lists, locales and dependencies.
  iterate 6 refine Ensures.rest ?_
  refine Ensures.seq (R := fun s ↦ fields.lookup "version" = some (.str s)) ?_
    (Ensures.string fun s hs ↦ ?_)
  · iterate 2 refine Ensures.rest ?_
    refine Ensures.map (Ensures.string fun id hid title summary version hversion e a t l s d ↦ ?_)
    exact ⟨(hfind "id").symm.trans hid, hversion⟩
  · exact (hfind "version").symm.trans hs

theorem Kind.lookup_of_entryDecoder (kind : Kind) {n : Nat} {mode : Mode} {v : Below n}
    {e : kind.Entry} {fields : List (String × Json)} (hv : v.1 = .obj fields)
    (h : kind.entryDecoder mode v = .ok e) : fields.lookup "id" = some (.str (kind.entryId e)) := by
  let P (e : kind.Entry) : Prop := fields.lookup "id" = some (.str (kind.entryId e))
  cases kind
  all_goals
    refine closed_object (P := P) (fun find hfind ↦ ?_) hv h
    repeat' refine Ensures.rest ?_
    refine Ensures.map (Ensures.string fun id hid ↦ ?_)
    intros
    exact (hfind "id").symm.trans hid

/-- Whether the parts of a document that carry ids are objects. Metadata without a text
may be an array. -/
def Json.IsKeyed (doc : Json) (m : Metadata) : Prop :=
  ((∃ fields, doc.field? "metadata" = some (.obj fields)) ∨ m.id = "" ∧ m.version = "") ∧
    ∀ kind : Kind, ∀ items, doc.field? kind.key = some (.arr items) →
      ∀ v ∈ items, ∃ fields, v = .obj fields

theorem Json.eq_obj_of_fields? {fields : List (String × Json)} {v : Json}
    (h : v.fields? = some fields) : v = .obj fields := by
  cases v with
  | obj => exact congrArg Json.obj (Option.some.inj h)
  | _ => cases h

theorem Json.field?_eq_none {key : String} {v : Json} (h : v.fields? = none) :
    v.field? key = none := by
  cases v with
  | obj fields => cases h
  | _ => rfl

namespace Shape

def shownId (v : Json) : Option String := (v.field? "id").bind Json.str?

/-- Items that show their ids or are no objects: all ids are shown if all items are objects. -/
theorem filterMap_shown_eq_iff {α : Type} {shown : Json → Option String} {id : α → String}
    (hshown : ∀ v : Json, v.fields? = none → shown v = none) {items : List Json} {entries : List α}
    (h : List.Forall₂ (fun v e ↦ ∀ fields, v = .obj fields → shown v = some (id e)) items entries) :
    items.filterMap shown = entries.map id ↔ ∀ v ∈ items, ∃ fields, v = .obj fields := by
  have hlength (items : List Json) (entries : List α)
      (h : List.Forall₂ (fun v e ↦ ∀ fields, v = .obj fields → shown v = some (id e))
        items entries) :
      (items.filterMap shown).length ≤ (entries.map id).length := by
    rw [List.length_map, ← h.length_eq]
    exact List.length_filterMap_le ..
  induction h with
  | nil => simp
  | @cons v e items entries hv hrest ih =>
    rw [List.forall_mem_cons, List.map_cons]
    refine Iff.trans ?_ (and_congr_right fun _ ↦ ih)
    cases v with
    | obj fields => simp [hv fields rfl]
    | _ =>
      have hle := hlength items entries hrest
      rw [List.filterMap_cons_none (hshown _ rfl)]
      simp only [reduceCtorEq, exists_const, false_and, iff_false]
      intro heq
      have hmore := congrArg List.length heq
      rw [List.length_cons] at hmore
      exact absurd hmore (Nat.ne_of_lt (Nat.lt_succ_of_le hle))

variable {p : Pack} {fields : List (String × Json)}

theorem ids_ofDocument_iff {kind : Kind}
    (h : Pack.readCollection fields kind = (p.collection kind).map .ok) :
    (ofDocument (.obj fields)).ids kind = p.ids kind ↔
      ∀ items, fields.lookup kind.key = some (.arr items) →
        ∀ v ∈ items, ∃ fields, v = .obj fields := by
  have hshown : (ofDocument (.obj fields)).ids kind =
      (((fields.lookup kind.key).bind Json.items?).getD []).filterMap shownId := rfl
  rw [hshown, Pack.ids]
  rcases Pack.readCollection_eq_ok.1 h with ⟨hlookup, hnil⟩ | ⟨items, hlookup, hread⟩
  · rw [hlookup, hnil]
    simp
  · rw [hlookup]
    have hentries : List.Forall₂
        (fun v e ↦ ∀ fields, v = .obj fields → shownId v = some (kind.entryId e))
        items (p.collection kind) := by
      refine hread.imp fun v e hrun fields hv ↦ ?_
      have hid := kind.lookup_of_entryDecoder (v := ⟨v, Nat.lt_succ_self _⟩) hv hrun
      rw [hv, shownId, Json.field?, hid]
      rfl
    have hnone (v : Json) (hv : v.fields? = none) : shownId v = none := by
      rw [shownId, Json.field?_eq_none hv]
      rfl
    refine (filterMap_shown_eq_iff hnone hentries).trans ?_
    simp

theorem metadata_ofDocument_iff (h : Pack.readMetadata fields = .ok p.metadata) :
    (ofDocument (.obj fields)).id = p.metadata.id ∧
        (ofDocument (.obj fields)).version = p.metadata.version ↔
      (∃ inner, fields.lookup "metadata" = some (.obj inner)) ∨
        p.metadata.id = "" ∧ p.metadata.version = "" := by
  rw [Pack.readMetadata] at h
  cases hlookup : fields.lookup "metadata" with
  | none => rw [hlookup] at h; cases h
  | some v =>
    rw [hlookup] at h
    have hread := Pack.readAt_eq_ok.1 h
    have hshown (key : String) : (Json.obj fields).at? [.key "metadata", .key key] =
        v.field? key := by
      simp [Json.at?, Json.field?, hlookup]
    rw [ofDocument, Json.packId?, hshown, hshown]
    cases v with
    | obj inner =>
      have hinner := Metadata.lookup_of_decoder (v := ⟨.obj inner, Nat.lt_succ_self _⟩) rfl hread
      simp [Json.field?, hinner.1, hinner.2, Json.str?]
    | _ =>
      simp only [Json.field?, Option.bind_none, Option.getD_none, reduceCtorEq, Option.some.injEq,
        exists_false, false_or]
      exact and_congr eq_comm eq_comm

end Shape

/-- For a document that is read as a pack, the shape that it shows is the pack's exactly if what
carries ids is given by key, and then its cache key has the digest of the frozen pack. -/
theorem shape_ofDocument_iff {doc : Json} {p : Pack} (h : (Pack.parse doc).1 = some p) :
    (Shape.ofDocument doc = p.shape ↔ doc.IsKeyed p.metadata) ∧
      (doc.IsKeyed p.metadata →
        ∀ c, (CacheKey.of c doc).digest = (FrozenPack.ofPack p).digest) := by
  obtain ⟨fields, rfl, -, hmetadata, hcollections⟩ := Pack.parse_eq_some_iff.1 h
  have hshape : Shape.ofDocument (.obj fields) = p.shape ↔
      (Json.obj fields).IsKeyed p.metadata := by
    have hfields : Shape.ofDocument (.obj fields) = p.shape ↔
        ((Shape.ofDocument (.obj fields)).id = p.metadata.id ∧
          (Shape.ofDocument (.obj fields)).version = p.metadata.version) ∧
          ∀ kind, (Shape.ofDocument (.obj fields)).ids kind = p.ids kind := by
      rw [Pack.shape, Shape.mk.injEq, funext_iff, and_assoc]
    rw [hfields, Shape.metadata_ofDocument_iff hmetadata, Json.IsKeyed]
    refine and_congr Iff.rfl (forall_congr' fun kind ↦ ?_)
    exact Shape.ids_ofDocument_iff (hcollections kind)
  refine ⟨hshape, fun hkeyed c ↦ ?_⟩
  rw [CacheKey.of, hshape.2 hkeyed]
  rfl

theorem shape_small : ∃ p, (Pack.parse Sample.small).1 = some p ∧
    Shape.ofDocument Sample.small = p.shape ∧
    ∀ c, (CacheKey.of c Sample.small).digest = (FrozenPack.ofPack p).digest := by
  obtain ⟨p, hp⟩ :=
    Option.isSome_iff_exists.1 (by decide +kernel : (Pack.parse Sample.small).1.isSome)
  obtain ⟨hshape, hdigest⟩ := shape_ofDocument_iff hp
  have hkeyed : Sample.small.IsKeyed p.metadata := by
    refine ⟨.inl ⟨_, rfl⟩, fun kind items h ↦ ?_⟩
    cases kind <;> simp [Sample.small, Json.field?, Kind.key, lookup_cons] at h <;> simp [← h]
  exact ⟨p, hp, hshape.2 hkeyed, hdigest hkeyed⟩

def positional : Json := .obj [("metadata", .arr [.str "p", .str "T", .null, .str "1.0.0"])]

theorem ofShape_eq (s : Shape) :
    Digest.ofShape s = ⟨(Text.units s.encode.chars).foldl Fnv.step Fnv.offsetBasis⟩ := by
  rw [Digest.ofShape, Shape.text, Json.compact, Fnv.hash, String.toList_ofList]

/-- An id and a version are read from the array, while the document shows neither. -/
theorem shape_positional : ∃ p, (Pack.parse positional).1 = some p ∧ p.metadata.id = "p" ∧
    p.metadata.version = "1.0.0" ∧ (Shape.ofDocument positional).id = "" ∧
    (Shape.ofDocument positional).version = "" ∧
    (CacheKey.of .initial positional).digest ≠ (FrozenPack.ofPack p).digest := by
  let p := (Pack.parse positional).1.get (by decide +kernel)
  refine ⟨p, (Option.some_get _).symm, ?_⟩
  -- The text of a shape is a string; the kernel computes with its characters only.
  rw [CacheKey.of, FrozenPack.ofPack, ofShape_eq, ofShape_eq]
  decide +kernel

end GamePack
