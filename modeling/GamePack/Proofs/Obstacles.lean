import GamePack.Proofs.Finding
import GamePack.Proofs.Keys
import GamePack.Proofs.Schema.Faults
import GamePack.Sample.Packs

namespace GamePack

inductive Obstacle
  | document
  | key (name : String)
  | metadata
  | collection (kind : Kind)
  | entry (kind : Kind) (i : Nat)
deriving DecidableEq, Repr

namespace Obstacle

def part : Obstacle → Nat
  | document | key _ => 0
  | metadata => 1
  | collection kind | entry kind _ => 2 + Kind.all.idxOf kind

/-- The order of reports: part by part, keys as bytes, entries by position. -/
def Before (a b : Obstacle) : Prop :=
  a.part < b.part ∨ match a, b with
    | key name, key name' => name < name'
    | entry kind i, entry kind' i' => kind = kind' ∧ i < i'
    | _, _ => False

theorem Before.ne {a b : Obstacle} (h : a.Before b) : a ≠ b := by
  rintro rfl
  rcases h with hpart | hwithin
  · exact Nat.lt_irrefl _ hpart
  · cases a with
    | key name => exact String.lt_irrefl name hwithin
    | entry kind i => exact Nat.lt_irrefl i hwithin.2
    | _ => cases hwithin

end Obstacle

namespace Json

variable {doc : Json} {fields : List (String × Json)} {p : Pack}

def Bars (doc : Json) : Obstacle → Prop
  | .document => doc.fields? = none
  | .key name => (doc.field? name).isSome ∧ name ≠ "metadata" ∧ ∀ kind : Kind, name ≠ kind.key
  | .metadata => doc.fields?.isSome ∧ ∀ v m, doc.field? "metadata" = some v →
      Decode.run (fun _ ↦ Metadata.decoder) v ≠ .ok m
  | .collection kind => ∃ v, doc.field? kind.key = some v ∧ v.items? = none
  | .entry kind i => ∃ v, doc.at? [.key kind.key, .index i] = some v ∧
      ∀ e, Decode.run (fun _ ↦ kind.entryDecoder) v ≠ .ok e

def Reports (doc : Json) : Obstacle → Finding → Prop
  | .document, f => f = .fault [] .notAnObject
  | .key name, f => f = .fault [.key name] (.unknownProperty name)
  | .metadata, f => doc.field? "metadata" = none ∧ f = .fault [] .missingMetadata ∨
      ∃ v e, doc.field? "metadata" = some v ∧ Decode.run (fun _ ↦ Metadata.decoder) v = .error e ∧
        f = .fault ([.key "metadata"] ++ e.path) (.unreadable e.cause)
  | .collection kind, f => f = .fault [.key kind.key] (.notAnArray kind)
  | .entry kind i, f => ∃ v e, doc.at? [.key kind.key, .index i] = some v ∧
      Decode.run (fun _ ↦ kind.entryDecoder) v = .error e ∧
        f = .fault ([.key kind.key, .index i] ++ e.path) (.unreadable e.cause)

/-- The pack holds what the parts of the document are read as, entry by entry. -/
structure Holds (doc : Json) (p : Pack) : Prop where
  metadata : ∃ v, doc.field? "metadata" = some v ∧
    Decode.run (fun _ ↦ Metadata.decoder) v = .ok p.metadata
  collection : ∀ kind, doc.field? kind.key = none ∧ p.collection kind = [] ∨
    ∃ items, doc.field? kind.key = some (.arr items) ∧
      List.Forall₂ (fun v e ↦ Decode.run (fun _ ↦ kind.entryDecoder) v = .ok e) items
        (p.collection kind)

end Json

namespace Obstacle

variable {doc : Json} {fields : List (String × Json)} {kind : Kind}

def keys (fields : List (String × Json)) : List Obstacle :=
  (fields.filter fun f ↦ f.1 ≠ "metadata" && (Kind.ofKey? f.1).isNone).map fun f ↦ .key f.1

def ofMetadata (fields : List (String × Json)) : List Obstacle :=
  match Pack.readMetadata fields with
  | .ok _ => []
  | .error _ => [.metadata]

def entries (kind : Kind) (items : List (Json × Nat)) : List Obstacle :=
  (items.filter fun x ↦ !(Decode.run (fun _ ↦ kind.entryDecoder) x.1).isOk).map fun x ↦
    .entry kind x.2

def ofCollection (fields : List (String × Json)) (kind : Kind) : List Obstacle :=
  match fields.lookup kind.key with
  | none => []
  | some (.arr items) => entries kind items.zipIdx
  | some _ => [.collection kind]

def ofFields (fields : List (String × Json)) : List Obstacle :=
  keys fields ++ ofMetadata fields ++ Kind.all.flatMap (ofCollection fields)

theorem isNone_ofKey?_iff {name : String} :
    (Kind.ofKey? name).isNone ↔ ∀ kind : Kind, name ≠ kind.key := by
  rw [Option.isNone_iff_eq_none, Kind.ofKey?, List.find?_eq_none]
  exact ⟨fun h kind heq ↦ h kind kind.mem_all (decide_eq_true heq.symm),
    fun h kind _ heq ↦ h kind (of_decide_eq_true heq).symm⟩

theorem mem_keys {o : Obstacle} :
    o ∈ keys fields ↔ ∃ name, o = .key name ∧ (Json.obj fields).Bars (.key name) := by
  simp only [keys, List.mem_map, List.mem_filter, Bool.and_eq_true, decide_eq_true_eq,
    isNone_ofKey?_iff, Json.Bars, Json.field?, isSome_lookup_iff]
  constructor
  · rintro ⟨f, ⟨hf, hname⟩, rfl⟩
    exact ⟨f.1, rfl, ⟨f, hf, rfl⟩, hname⟩
  · rintro ⟨name, rfl, ⟨f, hf, rfl⟩, hname⟩
    exact ⟨f, ⟨hf, hname⟩, rfl⟩

theorem mem_ofMetadata {o : Obstacle} :
    o ∈ ofMetadata fields ↔ o = .metadata ∧ (Json.obj fields).Bars .metadata := by
  unfold ofMetadata
  split
  · rename_i m hm
    obtain ⟨v, hv, hrun⟩ := Pack.readMetadata_eq_ok.1 hm
    simp only [List.not_mem_nil, false_iff, not_and]
    exact fun _ hbars ↦ hbars.2 v m hv hrun
  · rename_i i hi
    rw [List.mem_singleton]
    refine (and_iff_left ⟨rfl, fun v m hv hrun ↦ ?_⟩).symm
    have hread := Pack.readMetadata_eq_ok.2 ⟨v, hv, hrun⟩
    rw [hi] at hread
    cases hread

theorem mem_entries {items : List (Json × Nat)} {o : Obstacle} : o ∈ entries kind items ↔
    ∃ v i, (v, i) ∈ items ∧ o = .entry kind i ∧ ∀ e,
      Decode.run (fun _ ↦ kind.entryDecoder) v ≠ .ok e := by
  have hfail (r : Except Decode.Error kind.Entry) : (!r.isOk) = true ↔ ∀ e, r ≠ .ok e := by
    cases r <;> simp [Except.isOk, Except.toBool]
  simp only [entries, List.mem_map, List.mem_filter, hfail]
  constructor
  · rintro ⟨⟨v, i⟩, ⟨hmem, hrun⟩, rfl⟩
    exact ⟨v, i, hmem, rfl, hrun⟩
  · rintro ⟨v, i, hmem, rfl, hrun⟩
    exact ⟨(v, i), ⟨hmem, hrun⟩, rfl⟩

theorem mem_ofCollection {o : Obstacle} : o ∈ ofCollection fields kind ↔
    (o = .collection kind ∨ ∃ i, o = .entry kind i) ∧ (Json.obj fields).Bars o := by
  have hplace (i : Nat) : (Json.obj fields).at? [.key kind.key, .index i] =
      (fields.lookup kind.key).bind (Json.item? i) := by
    simp [Json.at?, Json.field?]
  unfold ofCollection
  cases hvalue : fields.lookup kind.key with
  | none =>
    simp only [List.not_mem_nil, false_iff, not_and]
    rintro (rfl | ⟨i, rfl⟩) ⟨v, hv, -⟩
    · cases hvalue.symm.trans hv
    · rw [hplace, hvalue] at hv
      cases hv
  | some w =>
    cases w with
    | arr items =>
      refine mem_entries.trans ⟨?_, ?_⟩
      · rintro ⟨v, i, hmem, rfl, hrun⟩
        refine ⟨.inr ⟨i, rfl⟩, v, ?_, hrun⟩
        rw [hplace, hvalue]
        exact List.mem_zipIdx_iff_getElem?.1 hmem
      · rintro ⟨rfl | ⟨i, rfl⟩, v, hv, hbars⟩
        · obtain rfl := Option.some.inj (hvalue.symm.trans hv)
          cases hbars
        · rw [hplace, hvalue] at hv
          exact ⟨v, i, List.mem_zipIdx_iff_getElem?.2 hv, rfl, hbars⟩
    | _ =>
      refine List.mem_singleton.trans ⟨?_, ?_⟩
      · rintro rfl
        exact ⟨.inl rfl, _, hvalue, rfl⟩
      · rintro ⟨rfl | ⟨i, rfl⟩, v, hv, -⟩
        · rfl
        · rw [hplace, hvalue] at hv
          cases hv

theorem mem_ofFields {o : Obstacle} : o ∈ ofFields fields ↔ (Json.obj fields).Bars o := by
  simp only [ofFields, List.mem_append, List.mem_flatMap, mem_keys, mem_ofMetadata,
    mem_ofCollection]
  constructor
  · rintro ((⟨name, rfl, hbars⟩ | ⟨rfl, hbars⟩) | ⟨kind, -, -, hbars⟩) <;> exact hbars
  · intro hbars
    cases o with
    | document => cases hbars
    | key name => exact .inl (.inl ⟨name, rfl, hbars⟩)
    | metadata => exact .inl (.inr ⟨rfl, hbars⟩)
    | collection kind => exact .inr ⟨kind, kind.mem_all, .inl rfl, hbars⟩
    | entry kind i => exact .inr ⟨kind, kind.mem_all, .inr ⟨i, rfl⟩, hbars⟩

theorem pairwise_keys (h : (Json.obj fields).sorted = .obj fields) :
    (keys fields).Pairwise Before := by
  have hascending := List.pairwise_map.1 (Json.ascending_of_sorted h)
  exact List.pairwise_map.2 ((hascending.filter _).imp fun hlt ↦ .inr hlt)

theorem pairwise_entries {items : List Json} : (entries kind items.zipIdx).Pairwise Before := by
  have hpositions : (items.zipIdx.map (·.2)).Pairwise (· < ·) := by
    rw [List.zipIdx_map_snd]
    exact List.pairwise_lt_range'
  exact List.pairwise_map.2
    (((List.pairwise_map.1 hpositions).filter _).imp fun hlt ↦ .inr ⟨rfl, hlt⟩)

theorem pairwise_ofCollection : (ofCollection fields kind).Pairwise Before := by
  unfold ofCollection
  split
  · exact .nil
  · exact pairwise_entries
  · exact List.pairwise_singleton ..

theorem part_of_mem_ofCollection {o : Obstacle} (h : o ∈ ofCollection fields kind) :
    o.part = 2 + Kind.all.idxOf kind := by
  obtain ⟨rfl | ⟨i, rfl⟩, -⟩ := mem_ofCollection.1 h <;> rfl

theorem pairwise_collections : (Kind.all.flatMap (ofCollection fields)).Pairwise Before := by
  have hkinds : Kind.all.Pairwise fun kind kind' ↦ Kind.all.idxOf kind < Kind.all.idxOf kind' := by
    decide
  refine List.pairwise_flatMap.2 ⟨fun kind _ ↦ pairwise_ofCollection, hkinds.imp ?_⟩
  intro kind kind' hlt o ho o' ho'
  left
  rw [part_of_mem_ofCollection ho, part_of_mem_ofCollection ho']
  exact Nat.add_lt_add_left hlt 2

theorem pairwise_ofFields (h : (Json.obj fields).sorted = .obj fields) :
    (ofFields fields).Pairwise Before := by
  have hmetadata : (ofMetadata fields).Pairwise Before := by
    unfold ofMetadata
    split
    · exact .nil
    · exact List.pairwise_singleton ..
  refine List.pairwise_append.2 ⟨List.pairwise_append.2 ⟨pairwise_keys h, hmetadata, ?_⟩,
    pairwise_collections, ?_⟩
  · intro o ho o' ho'
    obtain ⟨name, rfl, -⟩ := mem_keys.1 ho
    obtain ⟨rfl, -⟩ := mem_ofMetadata.1 ho'
    exact .inl Nat.zero_lt_one
  · intro o ho o' ho'
    obtain ⟨kind, -, ho'⟩ := List.mem_flatMap.1 ho'
    left
    rw [part_of_mem_ofCollection ho']
    rcases List.mem_append.1 ho with ho | ho
    · obtain ⟨name, rfl, -⟩ := mem_keys.1 ho
      exact Nat.lt_add_right _ Nat.zero_lt_two
    · obtain ⟨rfl, -⟩ := mem_ofMetadata.1 ho
      exact Nat.lt_add_right _ Nat.one_lt_two

end Obstacle

namespace Json

variable {doc : Json}

def obstacles : Json → List Obstacle
  | .obj fields => Obstacle.ofFields fields
  | _ => [.document]

theorem mem_obstacles {o : Obstacle} : o ∈ doc.obstacles ↔ doc.Bars o := by
  cases doc with
  | obj fields => exact Obstacle.mem_ofFields
  | _ => cases o <;> simp [obstacles, Bars, fields?, field?, at?]

theorem pairwise_obstacles (h : doc.sorted = doc) : doc.obstacles.Pairwise Obstacle.Before := by
  cases doc with
  | obj fields => exact Obstacle.pairwise_ofFields h
  | _ => exact List.pairwise_singleton ..

end Json

namespace Pack

variable {doc : Json} {fields : List (String × Json)} {kind : Kind} {p : Pack}

theorem holds_of_parse (h : (parse doc).1 = some p) : doc.Holds p := by
  obtain ⟨fields, rfl, -, hmetadata, hcollections⟩ := parse_eq_some_iff.1 h
  exact ⟨readMetadata_eq_ok.1 hmetadata, fun kind ↦ readCollection_eq_ok.1 (hcollections kind)⟩

theorem reports_keys :
    List.Forall₂ (Json.obj fields).Reports (Obstacle.keys fields) (unknownKeys fields) := by
  rw [Obstacle.keys, unknownKeys, List.forall₂_map_left_iff, List.forall₂_map_right_iff,
    List.forall₂_same]
  exact fun f _ ↦ rfl

theorem readAt_eq_error {α : Type} {d : ∀ n, Decoder n α} {path : Path} {v : Json} {i : Issue} :
    readAt d path v = .error i ↔
      ∃ e, Decode.run d v = .error e ∧ i = ⟨path ++ e.path, .unreadable e.cause⟩ := by
  rw [readAt, Decode.mapError_eq_error]
  exact exists_congr fun e ↦ and_congr_right fun _ ↦ eq_comm

theorem reports_metadata : List.Forall₂ (Json.obj fields).Reports (Obstacle.ofMetadata fields)
    (error? (readMetadata fields)).toList := by
  unfold Obstacle.ofMetadata
  cases hread : readMetadata fields with
  | ok m => exact .nil
  | error i =>
    refine .cons ?_ .nil
    unfold readMetadata at hread
    split at hread
    · rename_i hnone
      cases hread
      exact .inl ⟨hnone, rfl⟩
    · rename_i v hv
      obtain ⟨e, he, rfl⟩ := readAt_eq_error.1 hread
      exact .inr ⟨v, e, hv, he, rfl⟩

theorem reports_entries {items : List (Json × Nat)}
    (hplace : ∀ x ∈ items, doc.at? [.key kind.key, .index x.2] = some x.1) :
    List.Forall₂ doc.Reports (Obstacle.entries kind items)
      ((items.map fun x ↦
        readAt (fun _ ↦ kind.entryDecoder) [.key kind.key, .index x.2] x.1).filterMap error?) := by
  induction items with
  | nil => exact .nil
  | cons x rest ih =>
    obtain ⟨hx, hrest⟩ := List.forall_mem_cons.1 hplace
    rw [Obstacle.entries, List.filter_cons, List.map_cons, List.filterMap_cons]
    cases hrun : Decode.run (fun _ ↦ kind.entryDecoder) x.1 with
    | ok e =>
      rw [readAt_eq_ok.2 hrun]
      exact ih hrest
    | error e =>
      rw [readAt_eq_error.2 ⟨e, hrun, rfl⟩]
      exact .cons ⟨x.1, e, hx, hrun, rfl⟩ (ih hrest)

theorem reports_collection :
    List.Forall₂ (Json.obj fields).Reports (Obstacle.ofCollection fields kind)
    ((readCollection fields kind).filterMap error?) := by
  unfold Obstacle.ofCollection readCollection
  cases hvalue : fields.lookup kind.key with
  | none => exact .nil
  | some v =>
    cases v with
    | arr items =>
      refine reports_entries fun x hx ↦ ?_
      rw [Json.at?_key, hvalue]
      exact congrArg (Option.bind · _) (List.mem_zipIdx_iff_getElem?.1 hx)
    | _ => exact .cons rfl .nil

theorem reports_unread :
    List.Forall₂ (Json.obj fields).Reports (Obstacle.ofFields fields) (unread fields) := by
  refine List.rel_append (List.rel_append reports_keys reports_metadata) ?_
  refine List.rel_flatMap (R := Eq) (List.forall₂_same.2 fun _ _ ↦ rfl) ?_
  rintro kind _ rfl
  exact reports_collection

/-- A document is a pack if nothing stands in the way; else every obstacle is reported. -/
theorem parse_cases (doc : Json) : (doc.obstacles = [] ∧ (parse doc).1.isSome) ∨
    doc.obstacles ≠ [] ∧ (parse doc).1 = none ∧
    List.Forall₂ doc.Reports doc.obstacles (parse doc).2 := by
  cases doc with
  | obj fields =>
    have hreports :
        List.Forall₂ (Json.obj fields).Reports (Json.obj fields).obstacles (unread fields) :=
      reports_unread
    rcases parse_obj fields with ⟨hnil, hsome⟩ | ⟨hne, hparse⟩
    · rw [hnil, List.forall₂_nil_right_iff] at hreports
      exact .inl ⟨hreports, hsome⟩
    · rw [hparse]
      refine .inr ⟨fun hnil ↦ ?_, rfl, hreports⟩
      rw [hnil, List.forall₂_nil_left_iff] at hreports
      exact hne hreports
  | _ => exact .inr ⟨List.cons_ne_nil _ _, rfl, .cons rfl .nil⟩

theorem isSome_at?_of_reports (hdoc : doc.sorted = doc) {o : Obstacle} {f : Finding}
    (hbars : doc.Bars o) (h : doc.Reports o f) : (doc.at? f.path).isSome := by
  have hinside {place path : Path} {v : Json} (hv : doc.at? place = some v)
      (hpath : (v.at? path).isSome) :
      (doc.at? (place ++ path)).isSome := by
    rwa [Json.at?_append, hv]
  cases o with
  | document =>
    obtain rfl := h
    rfl
  | key name =>
    obtain rfl := h
    exact Json.at?_field name doc ▸ hbars.1
  | metadata =>
    rcases h with ⟨-, rfl⟩ | ⟨v, e, hv, hrun, rfl⟩
    · rfl
    · have hplace : doc.at? [.key "metadata"] = some v := (Json.at?_field ..).trans hv
      exact hinside hplace (Metadata.locates _ _ _ (Json.sorted_at? hdoc hplace) hrun)
  | collection kind =>
    obtain rfl := h
    obtain ⟨v, hv, -⟩ := hbars
    exact Option.isSome_of_eq_some ((Json.at?_field kind.key doc).trans hv)
  | entry kind i =>
    obtain ⟨v, e, hv, hrun, rfl⟩ := h
    exact hinside hv (kind.locates _ _ _ (Json.sorted_at? hdoc hv) hrun)

/-- A document is read as a pack, entry by entry, unless it has an obstacle. Else there is one
finding for each obstacle. If no key repeats and the keys ascend, as in every document that is the
value of a text, then the findings are in order, and each is at a place of the document. -/
theorem parse_obstacles (doc : Json) :
    ((parse doc).1.isSome ↔ ∀ o, ¬ doc.Bars o) ∧ (∀ p, (parse doc).1 = some p → doc.Holds p) ∧
      ((parse doc).1 = none → ∃ obstacles : List Obstacle, (∀ o, o ∈ obstacles ↔ doc.Bars o) ∧
        List.Forall₂ doc.Reports obstacles (parse doc).2 ∧
        (doc.sorted = doc → obstacles.Nodup ∧ obstacles.Pairwise Obstacle.Before ∧
          ∀ f ∈ (parse doc).2, (doc.at? f.path).isSome)) := by
  refine ⟨?_, fun p ↦ holds_of_parse, fun hnone ↦ ⟨doc.obstacles, fun _ ↦ Json.mem_obstacles, ?_⟩⟩
  · simp only [← Json.mem_obstacles, ← List.eq_nil_iff_forall_not_mem]
    rcases parse_cases doc with ⟨hnil, hsome⟩ | ⟨hne, hnone, -⟩
    · exact iff_of_true hsome hnil
    · exact iff_of_false (hnone ▸ Bool.false_ne_true) hne
  · obtain ⟨-, hsome⟩ | ⟨-, -, hreports⟩ := parse_cases doc
    · rw [hnone] at hsome
      cases hsome
    · refine ⟨hreports, fun hdoc ↦ ?_⟩
      have hordered := Json.pairwise_obstacles hdoc
      refine ⟨hordered.imp Obstacle.Before.ne, hordered, fun f hf ↦ ?_⟩
      obtain ⟨o, ho, hreport⟩ := exists_of_mem_of_forall₂ hreports.flip hf
      exact isSome_at?_of_reports hdoc (Json.mem_obstacles.1 ho) hreport

def unreadable : Json := .obj
  [("Resources", .arr []),
    ("generators", .obj []),
    ("resource", .null),
    ("resources", .arr
      [.obj [("id", .str "a"), ("name", .ofNat 0)],
        .obj [("id", .str "b"), ("name", .str "B")],
        .obj [("id", .str "c"), ("name", .str "C"), ("tags", .arr [.str "t", .null])]])]

theorem parse_small_and_unreadable : (∃ p, (parse Sample.small).1 = some p ∧ Sample.small.Holds p) ∧
    ∃ obstacles : List Obstacle, obstacles.length = 6 ∧ (∀ o, o ∈ obstacles ↔ unreadable.Bars o) ∧
      List.Forall₂ unreadable.Reports obstacles (parse unreadable).2 ∧ obstacles.Nodup ∧
      obstacles.Pairwise Obstacle.Before ∧ ∀ f ∈ (parse unreadable).2,
        (unreadable.at? f.path).isSome := by
  obtain ⟨p, hp⟩ := Option.isSome_iff_exists.1 (by decide +kernel : (parse Sample.small).1.isSome)
  have hnone : (parse unreadable).1 = none := Option.isNone_iff_eq_none.1 (by decide +kernel)
  have hlength : (parse unreadable).2.length = 6 := by decide +kernel
  obtain ⟨-, hholds, -⟩ := parse_obstacles Sample.small
  obtain ⟨-, -, hreported⟩ := parse_obstacles unreadable
  obtain ⟨obstacles, hmem, hreports, hsorted⟩ := hreported hnone
  exact ⟨⟨p, hp, hholds p hp⟩, obstacles, hreports.length_eq.trans hlength, hmem,
    hreports, hsorted rfl⟩

end Pack

end GamePack
