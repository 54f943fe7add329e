import GamePack.Proofs.Text
import GamePack.Proofs.VersionRange

namespace GamePack

theorem exists_forall₂ {α β : Type} {R : α → β → Prop} {as : List α} (h : ∀ a ∈ as, ∃ b, R a b) :
    ∃ bs, List.Forall₂ R as bs := by
  induction as with
  | nil => exact ⟨[], .nil⟩
  | cons a rest ih =>
    obtain ⟨ha, hrest⟩ := List.forall_mem_cons.1 h
    obtain ⟨b, hb⟩ := ha
    obtain ⟨bs, hbs⟩ := ih hrest
    exact ⟨b :: bs, .cons hb hbs⟩

namespace VersionRange

variable {text s t : String} {texts : List String} {r : VersionRange} {v : Version}
  {words : List (List Char)} {bs : List Bound}

def Readable (text : String) : Prop := ∃ r, parse text = .ok r

def Matches (text : String) (v : Version) : Prop := ∃ r, parse text = .ok r ∧ r.contains v

theorem readable_iff : Readable text ↔
    ∀ words ∈ comparators text, ∀ word ∈ words, ∃ bs, comparator? word = some bs := by
  constructor
  · rintro ⟨r, h⟩ words hwords word hword
    exact exists_bounds h hwords hword
  · intro h
    have hbounds : ∀ words ∈ comparators text, ∃ bs, bounds text words =
        .ok bs := fun words hwords ↦ by
      obtain ⟨lists, hlists⟩ := exists_forall₂ (h words hwords)
      exact ⟨lists.flatten, bounds_eq_ok.2 ⟨lists, hlists, rfl⟩⟩
    obtain ⟨alternatives, halternatives⟩ := exists_forall₂ hbounds
    exact ⟨⟨_, alternatives⟩, parse_eq_ok_iff.2 ⟨rfl, halternatives⟩⟩

theorem contains_iff (h : parse text = .ok r) :
    r.contains v ↔ ∃ words ∈ comparators text, ∀ word ∈ words, Admits word v :=
  any_all_admits_iff (parse_eq_ok h)

theorem comparators_of_notMem (h : '|' ∉ text.toList) :
    comparators text = [Text.words text.toList] := by
  rw [comparators, Text.splitBars_of_notMem h, List.map_singleton]

theorem comparators_join (hne : texts ≠ []) (h : ∀ s ∈ texts, '|' ∉ s.toList) :
    comparators (Text.join "||" texts) = texts.map fun s ↦ Text.words s.toList := by
  induction texts with
  | nil => exact absurd rfl hne
  | cons s rest ih =>
    obtain ⟨hs, hrest⟩ := List.forall_mem_cons.1 h
    cases rest with
    | nil => exact comparators_of_notMem hs
    | cons t rest =>
      have hjoin : (Text.join "||" (s :: t :: rest)).toList =
          s.toList ++ '|' :: '|' :: (Text.join "||" (t :: rest)).toList := by
        simp [Text.join]
      rw [comparators, hjoin, Text.splitBars_append_bars hs, List.map_cons, List.map_cons]
      exact congrArg _ (ih (List.cons_ne_nil _ _) hrest)

theorem comparators_append (hs : '|' ∉ s.toList) (ht : '|' ∉ t.toList) :
    comparators (s ++ " " ++ t) = [Text.words s.toList ++ Text.words t.toList] := by
  have htext : (s ++ " " ++ t).toList = s.toList ++ ' ' :: t.toList := by simp
  have hbars : '|' ∉ (s ++ " " ++ t).toList := by simp [htext, hs, ht]
  rw [comparators_of_notMem hbars, htext, Text.words_append_cons s.toList t.toList rfl]

theorem comparators_trim (text : String) :
    comparators (String.ofList (Text.trim text.toList)) = comparators text := by
  rw [comparators, String.toList_ofList, Text.map_words_splitBars_trim, comparators]

theorem readable_iff_words (h : '|' ∉ text.toList) :
    Readable text ↔ ∀ word ∈ Text.words text.toList, ∃ bs, comparator? word = some bs := by
  rw [readable_iff, comparators_of_notMem h, List.forall_mem_singleton]

theorem matches_iff_words (h : '|' ∉ text.toList) :
    Matches text v ↔ ∀ word ∈ Text.words text.toList, Admits word v := by
  have hone {r : VersionRange} (hr : parse text = .ok r) :
      r.contains v ↔ ∀ word ∈ Text.words text.toList, Admits word v := by
    rw [contains_iff hr, comparators_of_notMem h]
    simp only [List.mem_singleton, exists_eq_left]
  constructor
  · rintro ⟨r, hr, hcontains⟩
    exact (hone hr).1 hcontains
  · intro hadmits
    obtain ⟨r, hr⟩ :=
      (readable_iff_words h).2 fun word hword ↦ (hadmits word hword).imp fun _ hbs ↦ hbs.1
    exact ⟨r, hr, (hone hr).2 hadmits⟩

theorem readable_join (hne : texts ≠ []) (h : ∀ s ∈ texts, '|' ∉ s.toList) :
    Readable (Text.join "||" texts) ↔ ∀ s ∈ texts, Readable s := by
  rw [readable_iff, comparators_join hne h, List.forall_mem_map]
  exact forall₂_congr fun s hs ↦ (readable_iff_words (h s hs)).symm

theorem contains_join (hne : texts ≠ []) (h : ∀ s ∈ texts, '|' ∉ s.toList)
    (hr : parse (Text.join "||" texts) = .ok r) : r.contains v ↔ ∃ s ∈ texts, Matches s v := by
  rw [contains_iff hr, comparators_join hne h]
  simp only [List.mem_map, exists_exists_and_eq_and]
  exact exists_congr fun s ↦ and_congr_right fun hs ↦ (matches_iff_words (h s hs)).symm

theorem readable_append (hs : '|' ∉ s.toList) (ht : '|' ∉ t.toList) :
    Readable (s ++ " " ++ t) ↔ Readable s ∧ Readable t := by
  rw [readable_iff, comparators_append hs ht, List.forall_mem_singleton, List.forall_mem_append,
    readable_iff_words hs, readable_iff_words ht]

theorem contains_append (hs : '|' ∉ s.toList) (ht : '|' ∉ t.toList)
    (hr : parse (s ++ " " ++ t) = .ok r) : r.contains v ↔ Matches s v ∧ Matches t v := by
  rw [contains_iff hr, comparators_append hs ht, matches_iff_words hs, matches_iff_words ht,
    ← List.forall_mem_append]
  simp only [List.mem_singleton, exists_eq_left]

theorem parse_source (h : parse text = .ok r) : parse r.source = .ok r := by
  obtain ⟨hsource, halternatives⟩ := parse_eq_ok_iff.1 h
  have hcomparators : comparators r.source = comparators text := hsource ▸ comparators_trim text
  refine parse_eq_ok_iff.2 ⟨?_, hcomparators ▸ halternatives.imp fun words bs hbounds ↦ ?_⟩
  · rw [hsource, String.toList_ofList, Text.trim_trim]
  · exact bounds_eq_ok.2 (bounds_eq_ok.1 hbounds)

/-- Texts without bars compose: joined by double bars they admit what one of them admits, joined by
a blank what both admit, and they are the text of a range exactly if all of them are. What a range
shows is read as the same range. -/
theorem parse_composed :
    (∀ texts : List String, texts ≠ [] → (∀ s ∈ texts, '|' ∉ s.toList) →
        (Readable (Text.join "||" texts) ↔ ∀ s ∈ texts, Readable s) ∧
          ∀ r, parse (Text.join "||" texts) = .ok r → ∀ v, r.contains v ↔
            ∃ s ∈ texts, Matches s v) ∧
      (∀ s t : String, '|' ∉ s.toList → '|' ∉ t.toList →
        (Readable (s ++ " " ++ t) ↔ Readable s ∧ Readable t) ∧
          ∀ r, parse (s ++ " " ++ t) = .ok r → ∀ v, r.contains v ↔ Matches s v ∧ Matches t v) ∧
      ∀ text r, parse text = .ok r → parse r.source = .ok r :=
  ⟨fun _ hne h ↦ ⟨readable_join hne h, fun _ hr _ ↦ contains_join hne h hr⟩,
    fun _ _ hs ht ↦ ⟨readable_append hs ht, fun _ hr _ ↦ contains_append hs ht hr⟩,
    fun _ _ h ↦ parse_source h⟩

theorem parse_composed_mixed :
    (∃ r, parse " ||^1.2 <1.4" = .ok r ∧
        (∀ v, r.contains v ↔ ∃ s ∈ [" ", "^1.2 <1.4"], Matches s v) ∧
      parse r.source = .ok r) ∧
    (∃ r, parse "^1.2 <1.4" = .ok r ∧ ∀ v, r.contains v ↔ Matches "^1.2" v ∧ Matches "<1.4" v) ∧
    ¬ Readable (Text.join "||" ["^1.2", ">"]) := by
  obtain ⟨hjoin, happend, hsource⟩ := parse_composed
  obtain ⟨r, hr⟩ : ∃ r, parse " ||^1.2 <1.4" = .ok r := ⟨_, rfl⟩
  obtain ⟨q, hq⟩ : ∃ q, parse "^1.2 <1.4" = .ok q := ⟨_, rfl⟩
  refine ⟨⟨r, hr, ?_, hsource _ _ hr⟩, ⟨q, hq, ?_⟩, fun h ↦ ?_⟩
  · exact (hjoin [" ", "^1.2 <1.4"] (by decide) (by decide)).2 r hr
  · exact (happend "^1.2" "<1.4" (by decide) (by decide)).2 q hq
  · obtain ⟨p, hp⟩ := ((hjoin ["^1.2", ">"] (by decide) (by decide)).1.1 h) ">" (by decide)
    have hbad : parse ">" = .error (.range ">" ">") := by rfl
    cases hbad.symm.trans hp

end VersionRange

end GamePack
