import GamePack.Finding
import GamePack.Id
import GamePack.Proofs.Text

namespace GamePack

namespace Text

def joined (separator : String) (rest : List String) : List Char :=
  rest.flatMap fun s ↦ separator.toList ++ s.toList

theorem toList_join (separator s : String) (rest : List String) :
    (join separator (s :: rest)).toList = s.toList ++ joined separator rest := by
  induction rest generalizing s with
  | nil => simp [join, joined]
  | cons t rest ih =>
    rw [join, String.toList_append, String.toList_append, ih]
    · simp [joined]
    · simp

theorem append_inj_of_head {c : Char} {xs ys as bs : List Char} (hxs : c ∉ xs) (hys : c ∉ ys)
    (has : ∀ a ∈ as.head?, a = c) (hbs : ∀ b ∈ bs.head?, b = c) (h : xs ++ as = ys ++ bs) :
    xs = ys ∧ as = bs := by
  rcases List.append_eq_append_iff.1 h with ⟨more, rfl, rfl⟩ | ⟨more, rfl, rfl⟩ <;>
    cases more <;> simp_all

section

variable {separator : String} {c : Char} (hc : separator.toList.head? = some c)
  {xs ys : List String}

include hc

theorem head_joined (rest : List String) : ∀ a ∈ (joined separator rest).head?, a = c := by
  intro a ha
  cases rest with
  | nil => cases ha
  | cons t rest =>
    rw [joined, List.flatMap_cons, List.append_assoc, List.head?_append, hc] at ha
    exact (Option.some.inj ha).symm

theorem joined_ne_nil (s : String) (rest : List String) : joined separator (s :: rest) ≠ [] := by
  intro hnil
  rw [joined, List.flatMap_cons, List.append_assoc, List.append_eq_nil_iff] at hnil
  rw [hnil.1] at hc
  cases hc

theorem joined_inj (hxs : ∀ s ∈ xs, c ∉ s.toList) (hys : ∀ s ∈ ys, c ∉ s.toList)
    (h : joined separator xs = joined separator ys) : xs = ys := by
  induction xs generalizing ys with
  | nil =>
    cases ys with
    | nil => rfl
    | cons y ys => exact absurd h.symm (joined_ne_nil hc y ys)
  | cons x xs ih =>
    cases ys with
    | nil => exact absurd h (joined_ne_nil hc x xs)
    | cons y ys =>
      obtain ⟨hx, hxs⟩ := List.forall_mem_cons.1 hxs
      obtain ⟨hy, hys⟩ := List.forall_mem_cons.1 hys
      rw [joined, joined, List.flatMap_cons, List.flatMap_cons, List.append_assoc,
        List.append_assoc] at h
      obtain ⟨hsame, hrest⟩ := append_inj_of_head hx hy (head_joined hc xs) (head_joined hc ys)
        (List.append_cancel_left h)
      rw [String.toList_inj.1 hsame, ih hxs hys hrest]

/-- Joined texts are told apart as long as none is empty or holds the character that a separator
starts with. -/
theorem join_inj (hxs : ∀ s ∈ xs, s ≠ "" ∧ c ∉ s.toList) (hys : ∀ s ∈ ys, s ≠ "" ∧ c ∉ s.toList)
    (h : join separator xs = join separator ys) : xs = ys := by
  have hempty (s : String) (rest : List String) (hs : s ≠ "") :
      "" ≠ join separator (s :: rest) := by
    intro hjoin
    have hnil : [] = s.toList ++ joined separator rest := by rw [← toList_join, ← hjoin]; rfl
    exact hs (String.toList_eq_nil_iff.1 (List.append_eq_nil_iff.1 hnil.symm).1)
  cases xs with
  | nil =>
    cases ys with
    | nil => rfl
    | cons y ys => exact absurd h (hempty y ys (hys y List.mem_cons_self).1)
  | cons x xs =>
    cases ys with
    | nil => exact absurd h.symm (hempty x xs (hxs x List.mem_cons_self).1)
    | cons y ys =>
      obtain ⟨hx, hxs⟩ := List.forall_mem_cons.1 hxs
      obtain ⟨hy, hys⟩ := List.forall_mem_cons.1 hys
      have hlists := congrArg String.toList h
      rw [toList_join, toList_join] at hlists
      obtain ⟨hsame, hrest⟩ :=
        append_inj_of_head hx.2 hy.2 (head_joined hc xs) (head_joined hc ys) hlists
      rw [String.toList_inj.1 hsame,
        joined_inj hc (fun s hs ↦ (hxs s hs).2) (fun s hs ↦ (hys s hs).2) hrest]

end

end Text

namespace Id

variable {id : String}

theorem isInner_of_mem {cs : List Char} (h : isSegment cs) {c : Char} (hc : c ∈ cs) :
    isInner c := by
  cases cs with
  | nil => cases hc
  | cons d rest =>
    rw [isSegment, Bool.and_eq_true, List.all_eq_true] at h
    rcases List.mem_cons.1 hc with rfl | hc
    · simp [isInner, h.1]
    · exact h.2 c hc

theorem isSegment_iff {cs : List Char} : isSegment cs ↔ ∃ first rest, cs = first :: rest ∧
    (first.isLower ∨ first.isDigit) ∧ ∀ c ∈ rest, c.isLower ∨ c.isDigit ∨ c = '-' ∨ c = '_' := by
  cases cs with
  | nil => simp [isSegment]
  | cons first rest => simp [isSegment, isLead, isInner, or_assoc]

/-- At most 128 characters: segments with points between them, each a lower-case letter or digit
followed by such characters, hyphens and underscores. -/
def Shaped (id : String) : Prop :=
  id.length ≤ 128 ∧ ∃ segments : List (List Char), segments ≠ [] ∧
    id.toList = ['.'].intercalate segments ∧
    ∀ segment ∈ segments, ∃ first rest, segment = first :: rest ∧ (first.isLower ∨ first.isDigit) ∧
      ∀ c ∈ rest, c.isLower ∨ c.isDigit ∨ c = '-' ∨ c = '_'

theorem isValid_iff_shaped : isValid id ↔ Shaped id := by
  simp only [isValid, Shaped, Bool.and_eq_true, decide_eq_true_iff, List.all_eq_true,
    ← isSegment_iff, String.length_toList, maxLength]
  refine and_congr_right fun _ ↦ ⟨fun h ↦ ?_, ?_⟩
  · have hne : Text.split (· = '.') id.toList ≠ [] := Text.split_ne_nil _ _
    exact ⟨_, hne, ((Text.split_eq_iff hne).1 rfl).2, h⟩
  · rintro ⟨segments, hne, hid, hsegments⟩
    have hsplit : Text.split (· = '.') id.toList = segments := by
      refine (Text.split_eq_iff hne).2 ⟨fun segment hsegment hpoint ↦ ?_, hid⟩
      exact absurd (isInner_of_mem (hsegments segment hsegment) hpoint) (by decide)
    exact hsplit ▸ hsegments

theorem isInner_of_isValid (h : isValid id) {c : Char} (hc : c ∈ id.toList) :
    c = '.' ∨ isInner c := by
  rw [isValid, Bool.and_eq_true, List.all_eq_true] at h
  by_cases hpoint : c = '.'
  · exact .inl hpoint
  · obtain ⟨piece, hpiece, hmem⟩ := Text.mem_split (p := (· = '.')) hc (decide_eq_false hpoint)
    exact .inr (isInner_of_mem (h.2 piece hpiece) hmem)

theorem blank_notMem (h : isValid id) : ' ' ∉ id.toList := by
  intro hmem
  rcases isInner_of_isValid h hmem with hpoint | hinner
  · exact absurd hpoint (by decide)
  · exact absurd hinner (by decide)

theorem ne_empty (h : isValid id) : id ≠ "" := by
  rintro rfl
  exact absurd h (by decide)

end Id

theorem renderCycle_inj {xs ys : List String} (hxs : ∀ id ∈ xs, Id.isValid id)
    (hys : ∀ id ∈ ys, Id.isValid id) (h : renderCycle xs = renderCycle ys) : xs = ys :=
  Text.join_inj (c := ' ') rfl
    (fun id hid ↦ ⟨Id.ne_empty (hxs id hid), Id.blank_notMem (hxs id hid)⟩)
    (fun id hid ↦ ⟨Id.ne_empty (hys id hid), Id.blank_notMem (hys id hid)⟩) h

end GamePack
