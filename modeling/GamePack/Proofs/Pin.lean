import GamePack.Proofs.RangeText
import GamePack.Proofs.VersionText
import Mathlib.Data.String.Basic

namespace GamePack

theorem lt_append_singleton (s : List Char) (c : Char) : s < s ++ [c] := by
  induction s with
  | nil => exact List.nil_lt_cons c []
  | cons d s ih => exact List.cons_lt_cons_iff.2 (.inr ⟨rfl, ih⟩)

/-- Between a text and the text with a further least character there is no other. -/
theorem not_lt_append_of_lt {s t : List Char} (h : s < t) : ¬ t < s ++ ['\x00'] := by
  induction s generalizing t with
  | nil =>
    cases t with
    | nil => exact absurd h (List.lt_irrefl _)
    | cons d rest =>
      rw [List.nil_append, List.cons_lt_cons_iff]
      rintro (hlt | ⟨-, hlt⟩)
      · exact Nat.not_lt_zero d.toNat hlt
      · exact List.not_lt_nil _ hlt
  | cons c s ih =>
    cases t with
    | nil => exact absurd h (List.not_lt_nil _)
    | cons d t =>
      rw [List.cons_lt_cons_iff] at h
      rw [List.cons_append, List.cons_lt_cons_iff]
      rintro (hlt | ⟨rfl, hlt⟩)
      · rcases h with h | ⟨rfl, -⟩
        · exact lt_asymm h hlt
        · exact lt_irrefl _ hlt
      · rcases h with h | ⟨-, h⟩
        · exact lt_irrefl _ h
        · exact ih h hlt

namespace Version

variable {v w : Version} {tag : String}

def Plain (v : Version) : Prop :=
  ∀ tag, v.tag = some tag →
    (∀ c ∈ tag.toList, Text.isBlank c = false) ∧ ¬ ['|', '|'] <:+: tag.toList

/-- The version with the same numbers and the next tag. -/
def next (v : Version) : Version := { v with tag := v.tag.map (· ++ "\x00") }

theorem compare_append_least {s : String} (hs : s ≠ tag) (hnext : s ≠ tag ++ "\x00") :
    compare (tag ++ "\x00") s = compare tag s := by
  have hlonger : tag < tag ++ "\x00" := by
    rw [String.lt_iff_toList_lt, String.toList_append]
    exact lt_append_singleton _ _
  rcases lt_trichotomy tag s with hlt | heq | hgt
  · have hnot : ¬ s < tag ++ "\x00" := by
      rw [String.lt_iff_toList_lt] at hlt ⊢
      rw [String.toList_append]
      exact not_lt_append_of_lt hlt
    rw [compare_lt_iff_lt.2 hlt, compare_lt_iff_lt.2 (lt_of_le_of_ne (not_lt.1 hnot) hnext.symm)]
  · exact absurd heq.symm hs
  · rw [compare_gt_iff_gt.2 hgt, compare_gt_iff_gt.2 (hgt.trans hlonger)]

/-- No version but the two themselves tells a version with a tag from the next one. -/
theorem cmp_next {b : Version} (htag : v.tag = some tag) (hv : b ≠ v) (hnext : b ≠ v.next) :
    v.next.cmp b = v.cmp b := by
  obtain ⟨major, minor, patch, _⟩ := v
  cases htag
  obtain ⟨major', minor', patch', tag'⟩ := b
  by_cases hnumbers : major = major' ∧ minor = minor' ∧ patch = patch'
  · obtain ⟨rfl, rfl, rfl⟩ := hnumbers
    have htags : compareTag (some (tag ++ "\x00")) tag' = compareTag (some tag) tag' := by
      cases tag' with
      | none => rfl
      | some s =>
        refine compare_append_least (fun heq ↦ hv (heq ▸ rfl)) fun heq ↦ hnext (heq ▸ rfl)
    simp only [cmp, next, Option.map_some, htags]
  · have hne :
        ((compare major major').then (compare minor minor')).then (compare patch patch') ≠ .eq := by
      simpa only [ne_eq, Ordering.then_eq_eq, Nat.compare_eq_eq, and_assoc] using hnumbers
    simp only [cmp, next, ← Ordering.then_assoc]
    generalize ((compare major major').then (compare minor minor')).then (compare patch patch') =
      numbers at hne
    cases numbers with
    | eq => exact absurd rfl hne
    | lt => rfl
    | gt => rfl

theorem next_ne (htag : v.tag = some tag) : v.next ≠ v := fun heq ↦ by
  have htags : some (tag ++ "\x00") = some tag := by
    calc some (tag ++ "\x00") = v.next.tag := by rw [next, htag, Option.map_some]
      _ = some tag := by rw [heq, htag]
  simpa using congrArg String.length (Option.some_inj.1 htags)

theorem plain_of_infix {cs : List Char} (hblank : ∀ c ∈ cs, Text.isBlank c = false)
    (hbars : ¬ ['|', '|'] <:+: cs) (h : ∀ tag, v.tag = some tag → tag.toList <:+: cs) :
    v.Plain := fun tag htag ↦
  ⟨fun c hc ↦ hblank c ((h tag htag).subset hc), fun hwithin ↦ hbars (hwithin.trans (h tag htag))⟩

theorem plain_of_next (h : v.next.Plain) : v.Plain := fun tag htag ↦ by
  obtain ⟨hblank, hbars⟩ := h (tag ++ "\x00") (by rw [next, htag, Option.map_some])
  rw [String.toList_append] at hblank hbars
  exact ⟨fun c hc ↦ hblank c (List.mem_append_left _ hc),
    fun hwithin ↦ hbars (hwithin.trans (List.prefix_append _ _).isInfix)⟩

theorem Plain.suffix (h : v.Plain) :
    (∀ c ∈ suffix v.tag, Text.isBlank c = false) ∧ ¬ ['|', '|'] <:+: Version.suffix v.tag := by
  cases htag : v.tag with
  | none => simp [Version.suffix]
  | some tag =>
    obtain ⟨hblank, hbars⟩ := h tag htag
    refine ⟨List.forall_mem_cons.2 ⟨by decide, hblank⟩, fun hwithin ↦ ?_⟩
    rcases List.infix_cons_iff.1 hwithin with hstart | hwithin
    · exact absurd (List.cons_prefix_cons.1 hstart).1 (by decide)
    · exact hbars hwithin

end Version

namespace VersionRange

variable {text : String} {r : VersionRange} {v : Version} {word cs : List Char} {bs : List Bound}
  {b : Bound}

theorem suffix_of_ofChars? (h : Version.ofChars? cs = some v) (tag : String)
    (htag : v.tag = some tag) : tag.toList <:+ cs := by
  obtain ⟨numbers, hcut⟩ := Version.exists_cut_of_ofChars? h
  obtain ⟨-, -, rfl⟩ := Version.cutTag?_eq_some.1 hcut
  rw [htag, Version.suffix]
  exact (List.suffix_cons ..).trans (List.suffix_append ..)

theorem comparator?_cases (h : comparator? word = some bs) :
    bs = [] ∨ (∃ (s : Shorthand) (cs : List Char), word = s.sign :: cs) ∨ ∃ relation cs,
    cs <:+ word ∧ single? relation cs = some bs := by
  unfold comparator? at h
  split at h
  case h_1 | h_2 | h_3 => exact .inl (Option.some_inj.1 h).symm
  case h_4 cs => exact .inr (.inl ⟨.caret, cs, rfl⟩)
  case h_5 cs => exact .inr (.inl ⟨.tilde, cs, rfl⟩)
  case h_6 cs | h_7 cs =>
    exact .inr (.inr ⟨_, cs, (List.suffix_cons ..).trans (List.suffix_cons ..), h⟩)
  case h_8 cs _ | h_9 cs _ | h_10 cs => exact .inr (.inr ⟨_, cs, List.suffix_cons .., h⟩)
  case h_11 => exact .inr (.inr ⟨_, word, List.suffix_refl _, h⟩)

theorem Shorthand.tag_next (s : Shorthand) (written : Version) : (s.next written).tag = none := by
  cases s with
  | caret =>
    rw [next]
    split_ifs <;> rfl
  | tilde => rfl

theorem infix_of_comparator? (h : comparator? word = some bs) (hb : b ∈ bs) (tag : String)
    (htag : b.version.tag = some tag) : tag.toList <:+: word := by
  rcases comparator?_cases h with rfl | ⟨s, cs, rfl⟩ | ⟨relation, cs, hcs, hread⟩
  · cases hb
  · obtain ⟨written, hwritten, rfl⟩ := s.exists_written h
    rcases List.mem_cons.1 hb with rfl | hb
    · exact ((suffix_of_ofChars? hwritten tag htag).trans (List.suffix_cons ..)).isInfix
    · obtain rfl := List.mem_singleton.1 hb
      cases (s.tag_next written).symm.trans htag
  · obtain ⟨v, hv, rfl⟩ := Option.map_eq_some_iff.1 hread
    obtain rfl := List.mem_singleton.1 hb
    exact ((suffix_of_ofChars? hv tag htag).trans hcs).isInfix

theorem plain_of_mem (h : parse text = .ok r) (hbs : bs ∈ r.alternatives) (hb : b ∈ bs) :
    b.version.Plain := by
  obtain ⟨words, hwords, hbounds⟩ := exists_of_mem_of_forall₂ (parse_eq_ok h).flip hbs
  obtain ⟨lists, hlists, rfl⟩ := bounds_eq_ok.1 hbounds
  obtain ⟨list, hlist, hb⟩ := List.mem_flatten.1 hb
  obtain ⟨word, hword, hread⟩ := exists_of_mem_of_forall₂ hlists.flip hlist
  obtain ⟨piece, hpiece, rfl⟩ := List.mem_map.1 hwords
  obtain ⟨first, others, hpieces⟩ := List.exists_cons_of_ne_nil (Text.splitBars_ne_nil text.toList)
  obtain ⟨hwithin, hblank⟩ := Text.of_mem_words hword
  have hbars : ¬ ['|', '|'] <:+: piece :=
    (Text.pieces_of_splitBars hpieces).2 piece (hpieces ▸ hpiece)
  exact Version.plain_of_infix hblank (fun h ↦ hbars (h.trans hwithin))
    (infix_of_comparator? hread hb)

/-- A range that is not written with a version or the next one admits both or none of them. -/
theorem contains_next (htag : v.tag = some tag)
    (h : ∀ bs ∈ r.alternatives, ∀ b ∈ bs, b.version ≠ v ∧ b.version ≠ v.next) :
    r.contains v.next = r.contains v := by
  rw [Bool.eq_iff_iff]
  simp only [contains, List.any_eq_true, List.all_eq_true]
  refine exists_congr fun bs ↦ and_congr_right fun hbs ↦ forall₂_congr fun b hb ↦ ?_
  rw [Bound.admits, Bound.admits, Version.cmp_next htag (h bs hbs b hb).1 (h bs hbs b hb).2]

theorem plain_of_contains_iff (h : parse text = .ok r) (hcontains : ∀ w, r.contains w ↔ w = v) :
    v.Plain := by
  by_contra hplain
  obtain ⟨tag, htag⟩ : ∃ tag, v.tag = some tag := by
    by_contra hnone
    exact hplain fun tag htag ↦ absurd ⟨tag, htag⟩ hnone
  have hnext : r.contains v.next = r.contains v := contains_next htag fun bs hbs b hb ↦
    ⟨fun heq ↦ hplain (heq ▸ plain_of_mem h hbs hb),
      fun heq ↦ hplain (Version.plain_of_next (heq ▸ plain_of_mem h hbs hb))⟩
  exact Version.next_ne htag ((hcontains v.next).1 (hnext.trans ((hcontains v).2 rfl)))

theorem comparators_pin (h : Version.Written cs v) (hplain : v.Plain) :
    comparators ("=" ++ v.render) = [['=' :: v.render.toList]] := by
  obtain ⟨a, b, c, ha, hb, hc, -, hrender⟩ := Version.written_iff.1 (Version.written_render h)
  obtain ⟨hblank, hbars⟩ := hplain.suffix
  have hbar : '|' ∉ '=' :: (a ++ '.' :: b ++ '.' :: c) := by
    simp [ha.notMem, hb.notMem, hc.notMem]
  have hnumbers : ∀ d ∈ '=' :: (a ++ '.' :: b ++ '.' :: c), Text.isBlank d = false := by
    simp only [List.forall_mem_cons, List.forall_mem_append]
    exact ⟨by decide, ⟨fun _ ↦ ha.isBlank_of_mem, by decide, fun _ ↦ hb.isBlank_of_mem⟩, by decide,
      fun _ ↦ hc.isBlank_of_mem⟩
  have htext :
      ("=" ++ v.render).toList = '=' :: (a ++ '.' :: b ++ '.' :: c) ++ Version.suffix v.tag := by
    rw [String.toList_append, hrender]
    rfl
  rw [comparators, htext, Text.splitBars_append_left hbar, Text.splitBars_of_not_infix hbars,
    List.modifyHead_cons, List.map_singleton,
    Text.words_of_forall (by simp) (List.forall_mem_append.2 ⟨hnumbers, hblank⟩), hrender]
  rfl

theorem comparator?_pin (h : Version.Written cs v) :
    comparator? ('=' :: v.render.toList) = some [⟨.eq, v⟩] := by
  calc comparator? ('=' :: v.render.toList) = single? .eq v.render.toList := rfl
    _ = some [⟨.eq, v⟩] := by
      rw [single?, Version.ofChars?_of_written (Version.written_render h), Option.map_some]

theorem admits_eq_iff {w : Version} : Bound.admits ⟨.eq, v⟩ w ↔ w = v := by
  rw [Bound.admits, Relation.holds, decide_eq_true_iff]
  exact Std.LawfulEqCmp.compare_eq_iff_eq

/-- The text of a version after an equals sign is the range of just that version exactly if the tag
holds no blank and no double bar. -/
theorem pinned_iff (h : Version.parse text = .ok v) :
    (∃ r, parse ("=" ++ v.render) = .ok r ∧ ∀ w, r.contains w ↔ w = v) ↔ v.Plain := by
  constructor
  · rintro ⟨r, hr, hcontains⟩
    exact plain_of_contains_iff hr hcontains
  · intro hplain
    have hwritten := Version.parse_eq_ok_iff.1 h
    have hread := comparator?_pin hwritten
    have hcomparators := comparators_pin hwritten hplain
    obtain ⟨r, hr⟩ : Readable ("=" ++ v.render) := by
      rw [readable_iff, hcomparators]
      simp [hread]
    refine ⟨r, hr, fun w ↦ ?_⟩
    rw [contains_iff hr, hcomparators]
    simp [admits_iff hread, admits_eq_iff]

theorem pinned_beta : ∃ r, parse "=0.4.0-beta.1" = .ok r ∧ ∀ w, r.contains w ↔
    w = ⟨0, 4, 0, some "beta.1"⟩ := by
  have hparse : Version.parse "0.4.0-beta.1" = .ok ⟨0, 4, 0, some "beta.1"⟩ := by rfl
  have hplain : Version.Plain ⟨0, 4, 0, some "beta.1"⟩ := by
    rintro tag ⟨⟩
    exact ⟨by simp [Text.isBlank], by decide⟩
  exact (pinned_iff hparse).2 hplain

/-- A tag may hold blanks, and a range is cut at them. -/
theorem unpinned_of_blank : Version.parse "1.0.0-a b" = .ok ⟨1, 0, 0, some "a b"⟩ ∧
    ¬ ∃ r, parse ("=" ++ Version.render ⟨1, 0, 0, some "a b"⟩) = .ok r := by
  refine ⟨rfl, fun ⟨r, h⟩ ↦ ?_⟩
  have hbad : parse ("=" ++ Version.render ⟨1, 0, 0, some "a b"⟩) =
      .error (.range "=1.0.0-a b" "b") := by rfl
  cases hbad.symm.trans h

end VersionRange

end GamePack
