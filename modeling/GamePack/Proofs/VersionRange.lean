import GamePack.Proofs.Decode.Fields
import GamePack.Proofs.Version
import GamePack.VersionRange

namespace GamePack.VersionRange

variable {text : String} {r : VersionRange} {v : Version} {word : List Char}
  {words : List (List Char)} {bs : List Bound}

def comparators (text : String) : List (List (List Char)) :=
  (Text.splitBars text.toList).map Text.words

def Admits (word : List Char) (v : Version) : Prop :=
  ∃ bounds, comparator? word = some bounds ∧ ∀ b ∈ bounds, b.admits v

theorem admits_iff (h : comparator? word = some bs) : Admits word v ↔ ∀ b ∈ bs, b.admits v := by
  simp [Admits, h]

theorem bounds_eq_ok : bounds text words = .ok bs ↔
    ∃ lists, List.Forall₂ (fun word list ↦ comparator? word = some list) words lists ∧
      lists.flatten = bs := by
  simp only [bounds, Decode.bind_eq_ok, Decode.mapM_eq_ok, pure, Except.pure, Except.ok.injEq]
  refine exists_congr fun lists ↦ and_congr_left fun _ ↦ ⟨fun h ↦ ?_, fun h ↦ ?_⟩
  · refine h.imp fun word list hword ↦ ?_
    cases hbounds : comparator? word with
    | none =>
      rw [hbounds] at hword
      cases hword
    | some bounds =>
      rw [hbounds] at hword
      rw [Except.ok.inj hword]
  · exact h.imp fun word list hword ↦ by rw [hword]

theorem parse_eq_ok_iff : parse text = .ok r ↔ r.source = String.ofList (Text.trim text.toList) ∧
    List.Forall₂ (fun words bs ↦ bounds text words = .ok bs) (comparators text) r.alternatives := by
  simp only [parse, Decode.bind_eq_ok, Decode.mapM_eq_ok, pure, Except.pure, Except.ok.injEq]
  rw [comparators, List.forall₂_map_left_iff]
  constructor
  · rintro ⟨alternatives, halternatives, rfl⟩
    exact ⟨rfl, halternatives⟩
  · rintro ⟨hsource, halternatives⟩
    exact ⟨_, halternatives, hsource ▸ rfl⟩

theorem parse_eq_ok (h : parse text = .ok r) :
    List.Forall₂ (fun words bs ↦ bounds text words = .ok bs) (comparators text) r.alternatives :=
  (parse_eq_ok_iff.1 h).2

theorem all_admits_iff (h : bounds text words = .ok bs) :
    bs.all (·.admits v) ↔ ∀ word ∈ words, Admits word v := by
  obtain ⟨lists, hlists, rfl⟩ := bounds_eq_ok.1 h
  clear h
  rw [List.all_eq_true]
  induction hlists with
  | nil => simp
  | cons hword _ ih =>
    rw [List.flatten_cons, List.forall_mem_append, List.forall_mem_cons, ih, admits_iff hword]

theorem any_all_admits_iff {pieces : List (List (List Char))} {alternatives : List (List Bound)}
    (h : List.Forall₂ (fun words bs ↦ bounds text words = .ok bs) pieces alternatives) :
    alternatives.any (fun bs ↦ bs.all (·.admits v)) ↔
      ∃ words ∈ pieces, ∀ word ∈ words, Admits word v := by
  rw [List.any_eq_true]
  induction h with
  | nil => simp
  | cons hbounds _ ih =>
    rw [List.exists_mem_cons_iff, List.exists_mem_cons_iff, ih, all_admits_iff hbounds]

theorem exists_bounds (h : parse text = .ok r) (hwords : words ∈ comparators text)
    (hword : word ∈ words) : ∃ bs, comparator? word = some bs := by
  obtain ⟨_, -, hbounds⟩ := exists_of_mem_of_forall₂ (parse_eq_ok h) hwords
  obtain ⟨lists, hlists, -⟩ := bounds_eq_ok.1 hbounds
  obtain ⟨bs, -, hbs⟩ := exists_of_mem_of_forall₂ hlists hword
  exact ⟨bs, hbs⟩

inductive Shorthand
  | caret
  | tilde

namespace Shorthand

def sign : Shorthand → Char
  | caret => '^'
  | tilde => '~'

def upper? : Shorthand → Version → Option Version
  | caret => nextSeries?
  | tilde => nextMinor?

def InSeries (s : Shorthand) (written v : Version) : Prop :=
  match s with
  | caret =>
    if 0 < written.major then v.major = written.major
    else if 0 < written.minor then v.major = written.major ∧ v.minor = written.minor
    else v.major = written.major ∧ v.minor = written.minor ∧ v.patch = written.patch
  | tilde => v.major = written.major ∧ v.minor = written.minor

def next (s : Shorthand) (written : Version) : Version :=
  match s with
  | caret =>
    if 0 < written.major then ⟨written.major + 1, 0, 0, none⟩
    else if 0 < written.minor then ⟨0, written.minor + 1, 0, none⟩
    else ⟨0, 0, written.patch + 1, none⟩
  | tilde => ⟨written.major, written.minor + 1, 0, none⟩

variable (s : Shorthand) {written w : Version} {cs : List Char}

theorem comparator?_sign (cs : List Char) : comparator? (s.sign :: cs) = span? s.upper? cs := by
  cases s <;> rfl

theorem succ?_eq_some {n m : Nat} (h : succ? n = some m) : m = n + 1 := by
  rw [succ?, Option.ite_none_right_eq_some, Option.some_inj] at h
  exact h.2.symm

theorem eq_next_of_upper? (h : s.upper? written = some w) : w = s.next written := by
  cases s with
  | caret =>
    rw [upper?, nextSeries?] at h
    rw [next]
    split_ifs at h ⊢ <;>
    · obtain ⟨n, hn, rfl⟩ := Option.map_eq_some_iff.1 h
      rw [succ?_eq_some hn]
  | tilde =>
    obtain ⟨n, hn, rfl⟩ := Option.map_eq_some_iff.1 h
    rw [succ?_eq_some hn, next]

theorem exists_written (h : comparator? (s.sign :: cs) = some bs) :
    ∃ written, Version.ofChars? cs = some written ∧
      bs = [⟨.ge, written⟩, ⟨.lt, s.next written⟩] := by
  rw [comparator?_sign, span?, Option.bind_eq_bind, Option.bind_eq_some_iff] at h
  obtain ⟨written, hwritten, h⟩ := h
  obtain ⟨w, hw, h⟩ := Option.bind_eq_some_iff.1 h
  rw [s.eq_next_of_upper? hw] at h
  exact ⟨written, hwritten, (Option.some_inj.1 h).symm⟩

theorem forall_admits_iff : (∀ b ∈ [Bound.mk .ge written, ⟨.lt, w⟩], b.admits v) ↔
    written ≤ v ∧ v < w := by
  simp [Bound.admits, Relation.holds, ← Version.not_lt_iff, Version.lt_iff_cmp]

/-- Before the first release after a series come the series and the tagged forms of that release. -/
theorem between_iff : written ≤ v ∧ v < s.next written ↔
    written ≤ v ∧ s.InSeries written v ∨ ∃ tag, v = { s.next written with tag := some tag } := by
  obtain ⟨major, minor, patch, tag⟩ := v
  cases s with
  | caret =>
    simp only [next, InSeries, Version.le_iff_parts, Version.lt_iff_parts]
    split_ifs <;> simp only [Version.compareTag_none_iff, Version.mk.injEq] <;> grind
  | tilde =>
    simp only [next, InSeries, Version.le_iff_parts, Version.lt_iff_parts,
      Version.compareTag_none_iff, Version.mk.injEq]
    grind

end Shorthand

/-- What the shorthands in a range admit, and what this means for the range. -/
theorem contains_shorthand (h : parse text = .ok r) :
    (∀ v, r.contains v ↔ ∃ words ∈ comparators text, ∀ word ∈ words, Admits word v) ∧
      ∀ words ∈ comparators text, ∀ (s : Shorthand) (cs : List Char), s.sign :: cs ∈ words →
        ∃ written, Version.ofChars? cs = some written ∧ ∀ v, Admits (s.sign :: cs) v ↔
          written ≤ v ∧ s.InSeries written v ∨ ∃ tag,
            v = { s.next written with tag := some tag } := by
  refine ⟨fun v ↦ any_all_admits_iff (parse_eq_ok h), fun words hwords s cs hword ↦ ?_⟩
  obtain ⟨bs, hbs⟩ := exists_bounds h hwords hword
  obtain ⟨written, hwritten, rfl⟩ := s.exists_written hbs
  refine ⟨written, hwritten, fun v ↦ ?_⟩
  rw [admits_iff hbs, Shorthand.forall_admits_iff, s.between_iff]

theorem contains_shorthand_mixed : ∃ r, parse "1.0 || ~0.4.2-rc <0.4.9" = .ok r ∧
    (∀ v, r.contains v ↔
        ∃ words ∈ comparators "1.0 || ~0.4.2-rc <0.4.9", ∀ word ∈ words, Admits word v) ∧
      ∀ v, Admits "~0.4.2-rc".toList v ↔ ⟨0, 4, 2, some "rc"⟩ ≤ v ∧ v.major = 0 ∧ v.minor = 4 ∨
        ∃ tag, v = ⟨0, 5, 0, some tag⟩ := by
  obtain ⟨r, h⟩ : ∃ r, parse "1.0 || ~0.4.2-rc <0.4.9" = .ok r := ⟨_, rfl⟩
  obtain ⟨hcontains, hshorthand⟩ := contains_shorthand h
  obtain ⟨written, hwritten, hadmits⟩ :=
    hshorthand ["~0.4.2-rc".toList, "<0.4.9".toList] (by decide) .tilde
    "0.4.2-rc".toList (by decide)
  cases hwritten
  exact ⟨r, h, hcontains, hadmits⟩

/-- The tagged forms of a release come before it, and none of a series comes before
its tagged forms. -/
theorem contains_tagged_next : ∃ r, parse "^1.2.3" = .ok r ∧ r.contains ⟨2, 0, 0, some "alpha"⟩ ∧
    ¬ Shorthand.caret.InSeries ⟨1, 2, 3, none⟩ ⟨2, 0, 0, some "alpha"⟩ := by
  exact ⟨_, rfl, by decide, by simp [Shorthand.InSeries]⟩

end GamePack.VersionRange
