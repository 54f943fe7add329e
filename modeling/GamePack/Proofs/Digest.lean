import GamePack.Proofs.Compact
import GamePack.Proofs.Fnv
import GamePack.Proofs.Id
import GamePack.Proofs.Shape
import Mathlib.Data.List.Nodup

namespace GamePack

section

variable {α : Type} {a b : α} {xs ys : List α} {c d : Char}

theorem Apart.commaed {f : α → List Char} (h : Apart a b xs ys) (hf : Apart c d (f a) (f b)) :
    Apart c d (Text.commaed f xs) (Text.commaed f ys) := by
  obtain ⟨before, after, rfl, rfl⟩ := h
  cases before with
  | nil => exact hf.append [] (after.flatMap fun e ↦ ',' :: f e)
  | cons first before =>
    have hpart : Apart c d (',' :: f a) (',' :: f b) := by simpa using hf.append [','] []
    have hrest : Apart a b (before ++ a :: after) (before ++ b :: after) :=
      ⟨before, after, rfl, rfl⟩
    have hwhole := (hrest.flatMap (f := fun e ↦ ',' :: f e) hpart).append (f first) []
    simpa [Text.commaed] using hwhole

end

namespace Id

def Occurs (c : Char) : Prop := ∃ id, isValid id ∧ c ∈ id.toList

variable {c : Char}

theorem Occurs.eq_or_isInner (h : Occurs c) : c = '.' ∨ isInner c := by
  obtain ⟨id, hid, hc⟩ := h
  exact isInner_of_isValid hid hc

theorem Occurs.ascii (h : Occurs c) : 32 ≤ c.toNat ∧ c.toNat < 128 := by
  rcases h.eq_or_isInner with rfl | hinner
  · decide
  · have hrange (low high : UInt32) (hc : (decide (low ≤ c.val) && decide (c.val ≤ high)) = true) :
        low.toNat ≤ c.toNat ∧ c.toNat ≤ high.toNat := by
      simpa [UInt32.le_iff_toNat_le] using hc
    simp only [isInner, isLead, Bool.or_eq_true, decide_eq_true_eq] at hinner
    rcases hinner with ((hlower | hdigit) | rfl) | rfl
    · obtain ⟨hlow, hhigh⟩ := hrange 97 122 hlower
      exact ⟨Nat.le_trans (by decide) hlow, Nat.lt_of_le_of_lt hhigh (by decide)⟩
    · obtain ⟨hlow, hhigh⟩ := hrange 48 57 hdigit
      exact ⟨Nat.le_trans (by decide) hlow, Nat.lt_of_le_of_lt hhigh (by decide)⟩
    · decide
    · decide

theorem Occurs.escape_eq (h : Occurs c) : Json.escape c = [c] := by
  have hlettered : ∀ e ∈ Json.lettered, ¬ (e.1 = '.' ∨ isInner e.1) := by decide
  have hescaped := Json.escaped_escape c
  generalize Json.escape c = cs at hescaped
  cases hescaped with
  | plain => rfl
  | lettered hc => exact absurd h.eq_or_isInner (hlettered _ hc)
  | numbered hc => exact absurd h.ascii.1 (Nat.not_le.2 hc)

theorem Occurs.units_eq (h : Occurs c) : Text.unitsOfChar c = [c.toNat] := by
  have hsmall : c.toNat < 0x10000 := Nat.lt_trans h.ascii.2 (by decide)
  rw [Text.unitsOfChar, if_pos hsmall]

def OneApart (s t : String) : Prop :=
  ∃ c d, c ≠ d ∧ Occurs c ∧ Occurs d ∧ Apart c d s.toList t.toList

end Id

namespace Shape

inductive Part
  | id
  | version
  | ids (kind : Kind)
deriving DecidableEq

namespace Part

def all : List Part :=
  [ids .achievement, ids .automation, ids .entity, ids .generator, ids .metric, id, version,
    ids .prestigeLayer, ids .resource, ids .runtimeEvent, ids .transform, ids .upgrade]

theorem mem_all (part : Part) : part ∈ all := by
  cases part with
  | ids kind => cases kind <;> decide
  | _ => decide

theorem nodup_all : all.Nodup := by decide

def key : Part → String
  | id => "packId"
  | version => "packVersion"
  | ids kind => kind.key

end Part

def part (s : Shape) : Part → Json
  | .id => .str s.id
  | .version => .str s.version
  | .ids kind => .ofStrings (s.ids kind)

theorem encode_eq (s : Shape) :
    s.encode = .obj (Part.all.map fun part ↦ (part.key, s.part part)) := by
  simp +decide only [encode, Json.ofFields, Json.sortFields, Json.insertField, Kind.all, Kind.key,
    Part.all, Part.key, part, List.map_cons, List.map_nil, List.foldl_cons,
    List.foldl_nil, ↓reduceIte]

theorem numberless_encode (s : Shape) : s.encode.Numberless := by
  rw [encode_eq]
  refine .obj (List.forall_mem_map.2 fun part _ ↦ ?_)
  cases part with
  | ids kind => exact .arr (List.forall_mem_map.2 fun id _ ↦ .str id)
  | _ => exact .str _

variable {s t : Shape}

theorem part_eq_of_encode_eq (h : s.encode = t.encode) (part : Part) :
    s.part part = t.part part := by
  rw [encode_eq, encode_eq, Json.obj.injEq, List.map_inj_left] at h
  exact (Prod.mk.inj (h part part.mem_all)).2

/-- The hashed text tells the id, the version and the ids of each collection in their order,
whatever texts they are. -/
theorem text_eq_iff (s t : Shape) :
    s.text = t.text ↔ s.id = t.id ∧ s.version = t.version ∧ ∀ kind, s.ids kind = t.ids kind := by
  constructor
  · intro h
    have hpart := part_eq_of_encode_eq (s.numberless_encode.compact_inj t.numberless_encode h)
    have hids (kind : Kind) : (s.ids kind).map Json.str = (t.ids kind).map Json.str :=
      Json.arr.inj (hpart (.ids kind))
    exact ⟨Json.str.inj (hpart .id), Json.str.inj (hpart .version),
      fun kind ↦ List.map_injective_iff.2 (fun _ _ ↦ Json.str.inj) (hids kind)⟩
  · rintro ⟨hid, hversion, hids⟩
    have hshape : s = t := by
      cases s
      cases t
      cases hid
      cases hversion
      cases funext hids
      rfl
    rw [hshape]

inductive OneApart (s t : Shape) : Prop
  | pack : Id.OneApart s.id t.id → s.version = t.version → s.ids = t.ids → OneApart s t
  | entry (kind : Kind) (a b : String) : Id.OneApart a b →
    Apart a b (s.ids kind) (t.ids kind) → s.id = t.id →
      s.version = t.version → (∀ other ≠ kind, s.ids other = t.ids other) → OneApart s t

end Shape

section

variable {c d : Char}

theorem Apart.quote {s t : String} (hc : Id.Occurs c) (hd : Id.Occurs d)
    (h : Apart c d s.toList t.toList) : Apart c d (Json.quote s) (Json.quote t) := by
  have hescaped : Apart c d (Json.escape c) (Json.escape d) := by
    rw [hc.escape_eq, hd.escape_eq]
    exact .singleton c d
  exact (h.flatMap hescaped).append ['"'] ['"']

theorem Apart.chars_ofStrings {ids ids' : List String} {a b : String} (h : Apart a b ids ids')
    (hids : Apart c d (Json.quote a) (Json.quote b)) :
    Apart c d (Json.ofStrings ids).chars (Json.ofStrings ids').chars := by
  obtain ⟨before, after, rfl, rfl⟩ := h
  have hitems : Apart (Json.str a) (Json.str b) ((before ++ a :: after).map .str)
      ((before ++ b :: after).map .str) :=
    ⟨before.map .str, after.map .str, by simp, by simp⟩
  have hlist := (hitems.commaed (f := Json.chars) hids).append ['['] [']']
  simpa [Json.ofStrings, Json.chars, Json.charsItems_eq] using hlist

end

namespace Shape

variable {s t : Shape} {c d : Char}

/-- Shapes that differ in one part have texts that differ as the texts of these parts do. -/
theorem apart_encode (part : Part) (hpart : Apart c d (s.part part).chars (t.part part).chars)
    (hothers : ∀ other ≠ part, s.part other = t.part other) :
    Apart c d s.encode.chars t.encode.chars := by
  obtain ⟨before, after, hall⟩ := List.append_of_mem part.mem_all
  have hnodup := hall ▸ Part.nodup_all
  rw [List.nodup_middle, List.nodup_cons] at hnodup
  let field (s : Shape) (part : Part) : String × Json := (part.key, s.part part)
  have hsame {parts : List Part} (h : part ∉ parts) : parts.map (field s) = parts.map (field t) :=
    List.map_congr_left fun other hother ↦ by
      dsimp only [field]
      rw [hothers other fun heq ↦ h (heq ▸ hother)]
  have hfields :
      Apart (field s part) (field t part) (Part.all.map (field s)) (Part.all.map (field t)) := by
    refine ⟨before.map (field s), after.map (field s), ?_, ?_⟩
    · rw [hall, List.map_append, List.map_cons]
    rw [hall, List.map_append, List.map_cons,
      hsame fun hmem ↦ hnodup.1 (List.mem_append_left _ hmem),
      hsame fun hmem ↦ hnodup.1 (List.mem_append_right _ hmem)]
  have hfield : Apart c d (Json.charsField (field s part)) (Json.charsField (field t part)) := by
    have hvalue := hpart.append (Json.quote part.key ++ [':']) []
    simpa [Json.charsField, field] using hvalue
  have hobject := (hfields.commaed hfield).append ['\x7b'] ['\x7d']
  simpa [encode_eq, Json.chars, Json.charsFields_eq, field] using hobject

theorem OneApart.exists_apart (h : s.OneApart t) :
    ∃ c d, c ≠ d ∧ Id.Occurs c ∧ Id.Occurs d ∧ Apart c d s.encode.chars t.encode.chars := by
  cases h with
  | pack hid hversion hids =>
    obtain ⟨c, d, hne, hc, hd, hapart⟩ := hid
    refine ⟨c, d, hne, hc, hd, apart_encode .id (hapart.quote hc hd) fun other hother ↦ ?_⟩
    cases other with
    | id => exact absurd rfl hother
    | version => exact congrArg Json.str hversion
    | ids kind => exact congrArg Json.ofStrings (congrFun hids kind)
  | entry kind a b hid hentry hpack hversion hids =>
    obtain ⟨c, d, hne, hc, hd, hapart⟩ := hid
    refine ⟨c, d, hne, hc, hd,
      apart_encode (.ids kind) (hentry.chars_ofStrings (hapart.quote hc hd))
      fun other hother ↦ ?_⟩
    cases other with
    | id => exact congrArg Json.str hpack
    | version => exact congrArg Json.str hversion
    | ids other =>
      exact congrArg Json.ofStrings (hids other fun heq ↦ hother (congrArg Part.ids heq))

theorem OneApart.digest_ne (h : s.OneApart t) : Digest.ofShape s ≠ Digest.ofShape t := by
  obtain ⟨c, d, hne, hc, hd, hapart⟩ := h.exists_apart
  have hunits : Apart c.toNat d.toNat (Text.units s.encode.chars) (Text.units t.encode.chars) :=
    hapart.flatMap (by rw [hc.units_eq, hd.units_eq]; exact .singleton _ _)
  have hhash :=
    Fnv.foldl_step_ne (Nat.lt_trans hc.ascii.2 (by decide)) (Nat.lt_trans hd.ascii.2 (by decide))
    (fun heq ↦ hne (Char.toNat_inj.1 heq)) hunits Fnv.offsetBasis
  rw [ofShape_eq, ofShape_eq]
  exact fun heq ↦ hhash (Digest.mk.inj heq)

end Shape

/-- The hash keeps texts apart whose UTF-16 units differ at one position, and shapes that differ in
one character of one id. -/
theorem Digest.ne_of_apart :
    (∀ s t : String, (Text.units s.toList).length = (Text.units t.toList).length →
      (∃! i : Nat, (Text.units s.toList)[i]? ≠ (Text.units t.toList)[i]?) →
      Fnv.hash s ≠ Fnv.hash t) ∧
    ∀ s t : Shape, s.OneApart t → ofShape s ≠ ofShape t := by
  refine ⟨fun s t hlength hdiffer ↦ ?_, fun s t h ↦ h.digest_ne⟩
  obtain ⟨u, hu, v, hv, hne, hapart⟩ := exists_apart hlength hdiffer
  exact Fnv.foldl_step_ne (Text.lt_of_mem_units hu) (Text.lt_of_mem_units hv) hne hapart _

def Shape.ofResource (id : String) : Shape :=
  ⟨"p", "1.0.0", fun kind ↦ if kind = .resource then [id] else []⟩

theorem Digest.ne_of_apart_letters :
    (∃! i : Nat, (Text.units "p😀a".toList)[i]? ≠ (Text.units "p😀b".toList)[i]?) ∧
    Fnv.hash "p😀a" ≠ Fnv.hash "p😀b" ∧
      (Shape.ofResource "p.a").OneApart (.ofResource "p.b") ∧
      ofShape (.ofResource "p.a") ≠ ofShape (.ofResource "p.b") := by
  have hdiffer : ∃! i : Nat, (Text.units "p😀a".toList)[i]? ≠ (Text.units "p😀b".toList)[i]? := by
    have hleft : Text.units "p😀a".toList = [112, 55357, 56832, 97] := by decide
    have hright : Text.units "p😀b".toList = [112, 55357, 56832, 98] := by decide
    rw [hleft, hright]
    refine ⟨3, by decide, fun i hi ↦ ?_⟩
    match i with
    | 0 | 1 | 2 => exact absurd rfl hi
    | 3 => rfl
    | _ + 4 => exact absurd rfl hi
  have hletters : Id.OneApart "p.a" "p.b" :=
    ⟨'a', 'b', by decide, ⟨"a", by decide, by decide⟩, ⟨"b", by decide, by decide⟩, ['p', '.'], [],
      rfl, rfl⟩
  have hshapes : (Shape.ofResource "p.a").OneApart (.ofResource "p.b") :=
    .entry .resource "p.a" "p.b" hletters (.singleton _ _) rfl rfl fun other hother ↦ by
      simp [Shape.ofResource, hother]
  exact ⟨hdiffer, ne_of_apart.1 _ _ (by decide) hdiffer, hshapes, ne_of_apart.2 _ _ hshapes⟩

end GamePack
