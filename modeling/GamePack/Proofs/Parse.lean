import GamePack.Parse
import GamePack.Proofs.Decode.Fields
import Mathlib.Data.List.Forall2

namespace GamePack

namespace Pack

theorem eq_map_ok {α : Type} {entries : List (Except Issue α)} (h : entries.filterMap error? = []) :
    entries = (entries.filterMap Except.toOption).map .ok := by
  induction entries with
  | nil => rfl
  | cons entry rest ih =>
    cases entry with
    | error i => cases h
    | ok a => exact congrArg (List.cons (.ok a)) (ih h)

theorem filterMap_error?_map_ok {α : Type} (entries : List α) :
    (entries.map (Except.ok : α → Except Issue α)).filterMap error? = [] := by
  rw [List.filterMap_map, List.filterMap_eq_nil_iff]
  exact fun _ _ ↦ rfl

theorem filterMap_toOption_map_ok {α : Type} (entries : List α) :
    (entries.map (Except.ok : α → Except Issue α)).filterMap Except.toOption = entries := by
  rw [List.filterMap_map]
  exact List.filterMap_some

variable {p : Pack}

/-- A document is read as a pack if it is an object without other keys whose parts
can all be read. -/
theorem parse_eq_some_iff {doc : Json} : (parse doc).1 = some p ↔ ∃ fields, doc = .obj fields ∧
    unknownKeys fields = [] ∧ readMetadata fields = .ok p.metadata ∧
      ∀ kind, readCollection fields kind = (p.collection kind).map .ok := by
  constructor
  · intro h
    cases doc with
    | obj fields =>
      refine ⟨fields, rfl, ?_⟩
      unfold parse at h
      dsimp only at h
      split at h
      · rename_i metadata hmetadata hunread
        obtain rfl := Option.some_inj.1 h
        rw [List.append_eq_nil_iff, List.append_eq_nil_iff, List.flatMap_eq_nil_iff] at hunread
        refine ⟨hunread.1.1, hmetadata, fun kind ↦ ?_⟩
        rw [collection_ofCollections]
        exact eq_map_ok (hunread.2 kind kind.mem_all)
      · cases h
    | _ => cases h
  · rintro ⟨fields, rfl, hunknown, hmetadata, hcollections⟩
    have hnone :
        (Kind.all.flatMap fun kind ↦ (readCollection fields kind).filterMap error?) = [] := by
      rw [List.flatMap_eq_nil_iff]
      exact fun kind _ ↦ hcollections kind ▸ filterMap_error?_map_ok _
    have hgood : (fun kind ↦ (readCollection fields kind).filterMap Except.toOption) =
        p.collection :=
      funext fun kind ↦ hcollections kind ▸ filterMap_toOption_map_ok _
    unfold parse
    simp only [hunknown, hmetadata, hnone, hgood]
    rfl

def unread (fields : List (String × Json)) : List Finding :=
  unknownKeys fields ++ (error? (readMetadata fields)).toList ++
    Kind.all.flatMap fun kind ↦ (readCollection fields kind).filterMap error?

/-- An object all of whose parts are read is a pack; else the findings are about the other parts. -/
theorem parse_obj (fields : List (String × Json)) :
    (unread fields = [] ∧ (parse (.obj fields)).1.isSome) ∨
      unread fields ≠ [] ∧ parse (.obj fields) = (none, unread fields) := by
  unfold parse
  dsimp only
  split
  · rename_i hnil
    exact .inl ⟨hnil, rfl⟩
  · rename_i hother
    refine .inr ⟨fun hnil ↦ ?_, rfl⟩
    cases hmetadata : readMetadata fields with
    | ok m => exact hother m hmetadata hnil
    | error i =>
      rw [unread, hmetadata, List.append_eq_nil_iff, List.append_eq_nil_iff] at hnil
      cases hnil.1.2

theorem readAt_eq_ok {α : Type} {d : ∀ n, Decoder n α} {path : Path} {v : Json} {a : α} :
    readAt d path v = .ok a ↔ Decode.run d v = .ok a := by
  rw [readAt, Decode.mapError_eq_ok]

theorem readMetadata_eq_ok {fields : List (String × Json)} {m : Metadata} :
    readMetadata fields = .ok m ↔
    ∃ v, fields.lookup "metadata" = some v ∧ Decode.run (fun _ ↦ Metadata.decoder) v = .ok m := by
  unfold readMetadata
  cases fields.lookup "metadata" with
  | none => simp
  | some v => simp [readAt_eq_ok]

theorem readEntries_eq_ok {kind : Kind} {items : List Json} {entries : List kind.Entry} {i : Nat} :
    ((items.zipIdx i).map fun x ↦
          readAt (fun _ ↦ kind.entryDecoder) [.key kind.key, .index x.2] x.1) =
        entries.map .ok ↔
      List.Forall₂ (fun v e ↦ Decode.run (fun _ ↦ kind.entryDecoder) v = .ok e) items entries := by
  induction items generalizing entries i with
  | nil => cases entries <;> simp
  | cons v rest ih =>
    cases entries with
    | nil => simp
    | cons e entries =>
      rw [List.zipIdx_cons, List.map_cons, List.map_cons, List.cons.injEq, readAt_eq_ok, ih,
        List.forall₂_cons]

theorem readCollection_eq_ok {fields : List (String × Json)} {kind : Kind}
    {entries : List kind.Entry} :
    readCollection fields kind = entries.map .ok ↔ fields.lookup kind.key = none ∧ entries = [] ∨
      ∃ items, fields.lookup kind.key = some (.arr items) ∧
        List.Forall₂ (fun v e ↦ Decode.run (fun _ ↦ kind.entryDecoder) v = .ok e)
          items entries := by
  unfold readCollection
  cases fields.lookup kind.key with
  | none => simp [eq_comm]
  | some v =>
    cases v with
    | arr items =>
      refine readEntries_eq_ok.trans ?_
      simp
    | _ => cases entries <;> simp

theorem check_of_parse {doc : Json} (h : (parse doc).1 = some p) :
    (parse doc).2 = Structure.check p := by
  cases doc with
  | obj fields =>
    unfold parse at h ⊢
    dsimp only at h ⊢
    split at h
    · cases h
      rfl
    · cases h
  | _ => cases h

end Pack

end GamePack
