import GamePack.Content.Pack
import GamePack.Proofs.Decode.Structure
import GamePack.Proofs.Schema.Places
import GamePack.Proofs.Schema.Walk

namespace GamePack

/-- The places of the titles of a pack and of the names of its entries. -/
inductive Heading : Path → Prop
  | title : Heading [.key "metadata", .key "title"]
  | summary : Heading [.key "metadata", .key "summary"]
  | name (kind : Kind) (i : Nat) : Heading [.key kind.key, .index i, .key "name"]

/-- The places of all other texts for players. -/
inductive Aside : Path → Prop
  | description (kind : Kind) (i : Nat) : Aside [.key kind.key, .index i, .key "description"]
  | summary (i : Nat) : Aside [.key Kind.prestigeLayer.key, .index i, .key "summary"]
  | stat (i j : Nat) : Aside [.key Kind.entity.key, .index i, .key "stats", .index j, .key "name"]

theorem Heading.not_aside {place : Path} (h : Heading place) : ¬ Aside place := by
  intro haside
  have hheading : place.length = 2 ∨ place.length = 3 ∧ place[2]? = some (.key "name") := by
    cases h <;> simp
  have hother : place.length = 5 ∨ place[2]? = some (.key "description") ∨
      place[2]? = some (.key "summary") := by
    cases haside <;> simp
  grind

namespace Form

variable {f g : Form} {path : Path} {v w : Json} {s : Step}

def silent : Form → Bool
  | text _ => true
  | shorthand role full => shorthand role full ≠ display && full.silent
  | list item => item.silent
  | dict _ value => value.silent
  | onMission form => form.silent
  | record r => r ∉ [Record.pack, .metadata, .stat] ++ Kind.all.map Kind.record
  | union _ => true

theorem silent_fields {r : Record} (h : (record r).silent) : ∀ e ∈ r.fields, e.2.silent := by
  revert h
  cases r <;> decide

theorem silent_branches (u : Union) : ∀ b ∈ u.branches, ∀ e ∈ b.fields, e.2.silent := by
  cases u <;> decide

theorem silent_within (h : f.silent) (hg : f.within v s = some g) : g.silent := by
  induction f with
  | shorthand role full ih =>
    rw [silent, Bool.and_eq_true] at h
    exact ih h.2 hg
  | onMission form ih => exact ih h hg
  | text => cases v <;> cases s <;> cases hg
  | list item | dict keys value =>
    cases v <;> cases s <;> cases hg
    exact h
  | record r =>
    cases v with
    | obj fields =>
      cases s with
      | key k => exact silent_fields h (k, g) (mem_of_lookup hg)
      | index i => cases hg
    | arr items =>
      cases s with
      | key k => cases hg
      | index i =>
        obtain ⟨e, he, rfl⟩ := Option.map_eq_some_iff.1 hg
        exact silent_fields h e (List.mem_of_getElem? he)
    | _ => cases s <;> cases hg
  | union u =>
    cases v with
    | obj fields =>
      cases s with
      | key k =>
        rw [within, Option.ite_none_left_eq_some, Option.bind_eq_some_iff] at hg
        obtain ⟨-, b, hb, hk⟩ := hg
        obtain ⟨tag, -, hb⟩ := Option.bind_eq_some_iff.1 hb
        exact silent_branches u b (Union.mem_branches hb) (k, g) (mem_of_lookup hk)
      | index i => cases hg
    | arr items =>
      rcases s with k | i | i
      · cases hg
      · cases hg
      · obtain ⟨b, hb, hi⟩ := Option.bind_eq_some_iff.1 hg
        obtain ⟨tag, -, hb⟩ := Option.bind_eq_some_iff.1 hb
        obtain ⟨e, he, rfl⟩ := Option.map_eq_some_iff.1 hi
        exact silent_branches u b (Union.mem_branches hb) e (List.mem_of_getElem? he)
    | _ => cases s <;> cases hg

theorem silent_follow (h : f.silent) (hg : f.follow path v = some (g, w)) : g.silent := by
  induction path generalizing f v with
  | nil =>
    obtain ⟨rfl, rfl⟩ := Prod.mk.inj (Option.some.inj hg)
    exact h
  | cons s path ih =>
    obtain ⟨g', w', hg', -, hrest⟩ := follow_cons_eq_some_iff.1 hg
    exact ih (silent_within h hg') hrest

theorem eq_nil_of_follow_display (h : display.follow path v = some (display, w)) : path = [] := by
  cases path with
  | nil => rfl
  | cons s path =>
    obtain ⟨g, w', hg, -, hrest⟩ := follow_cons_eq_some_iff.1 h
    have hsilent : g.silent := silent_within (f := record .displayText) rfl hg
    cases silent_follow hsilent hrest

theorem exists_field_of_follow {r : Record} {fields : List (String × Json)}
    (h : (record r).follow path (.obj fields) = some (display, w)) :
    ∃ k g v rest, path = .key k :: rest ∧
      (k, g) ∈ r.fields ∧ g.silent = false ∧ fields.lookup k = some v ∧
      g.follow rest v = some (display, w) := by
  cases path with
  | nil => cases h
  | cons s rest =>
    obtain ⟨g, v, hg, hv, hrest⟩ := follow_cons_eq_some_iff.1 h
    cases s with
    | index i => cases hg
    | key k =>
      refine ⟨k, g, v, rest, rfl, mem_of_lookup hg, ?_, hv, hrest⟩
      rw [Bool.eq_false_iff]
      exact fun hsilent ↦ by cases silent_follow hsilent hrest

theorem exists_item_of_follow {items : List Json}
    (h : (list f).follow path (.arr items) = some (display, w)) :
    ∃ i v rest, path = .index i :: rest ∧ items[i]? = some v ∧
      f.follow rest v = some (display, w) := by
  cases path with
  | nil => cases h
  | cons s rest =>
    obtain ⟨g, v, hg, hv, hrest⟩ := follow_cons_eq_some_iff.1 h
    cases s with
    | key k => cases hg
    | index i =>
      cases hg
      exact ⟨i, v, rest, rfl, hv, hrest⟩

end Form

open Form

variable {place : Path} {w : Json}

theorem Stat.place_of_follow {s : Stat}
    (h : (record .stat).follow place s.encode = some (display, w)) : place = [.key "name"] := by
  have hloud : ∀ e ∈ Record.stat.fields, e.2.silent = false → e = ("name", display) := by decide
  obtain ⟨k, g, v, rest, rfl, hmem, hsilent, -, hrest⟩ := exists_field_of_follow h
  cases hloud (k, g) hmem hsilent
  rw [eq_nil_of_follow_display hrest]

namespace Kind

variable {kind : Kind} {e : kind.Entry}

theorem loud_fields (kind : Kind) : ∀ e ∈ kind.record.fields, e.2.silent = false →
    e = ("name", display) ∨ e = ("description", display) ∨ kind = prestigeLayer ∧
    e = ("summary", display) ∨
      kind = entity ∧ e = ("stats", records .stat) := by
  cases kind <;> decide

theorem encodeEntry_eq_obj (kind : Kind) (e : kind.Entry) :
    ∃ fields, kind.encodeEntry e = .obj fields := by
  cases kind <;> exact ⟨_, rfl⟩

theorem heading_or_aside (h : (Form.record kind.record).follow place (kind.encodeEntry e) =
      some (display, w))
    (i : Nat) :
    Heading (.key kind.key :: .index i :: place) ∨ Aside (.key kind.key :: .index i :: place) := by
  obtain ⟨fields, hfields⟩ := kind.encodeEntry_eq_obj e
  rw [hfields] at h
  obtain ⟨k, g, v, rest, rfl, hmem, hsilent, hv, hrest⟩ := exists_field_of_follow h
  rcases loud_fields kind (k, g) hmem hsilent with heq | heq | ⟨rfl, heq⟩ | ⟨rfl, heq⟩ <;> cases heq
  · rw [eq_nil_of_follow_display hrest]
    exact .inl (.name kind i)
  · rw [eq_nil_of_follow_display hrest]
    exact .inr (.description kind i)
  · rw [eq_nil_of_follow_display hrest]
    exact .inr (.summary i)
  · have hstats : (Json.obj fields).field? "stats" = some (.arr (e.stats.map Stat.encode)) :=
      hfields ▸ rfl
    cases hv.symm.trans hstats
    obtain ⟨j, item, rest, rfl, hitem, hrest⟩ := exists_item_of_follow hrest
    obtain ⟨s, -, rfl⟩ := Option.map_eq_some_iff.1 ((List.getElem?_map ..).symm.trans hitem)
    rw [Stat.place_of_follow hrest]
    exact .inr (.stat i j)

end Kind

namespace Pack

variable (p : Pack)

theorem follow_title : (record .pack).follow [.key "metadata", .key "title"] p.encode =
    some (display, p.metadata.title.encode) := rfl

theorem follow_summary : (record .pack).follow [.key "metadata", .key "summary"] p.encode =
    some (display, .ofOption DisplayText.encode p.metadata.summary) := rfl

theorem follow_entry (kind : Kind) (i : Nat) (place : Path) :
    (record .pack).follow (.key kind.key :: .index i :: place) p.encode =
      (p.collection kind)[i]?.bind fun e ↦
        (record kind.record).follow place (kind.encodeEntry e) := by
  have hcollection : (record .pack).follow (.key kind.key :: .index i :: place) p.encode =
      ((p.collection kind).map kind.encodeEntry)[i]?.bind ((record kind.record).follow place) := by
    cases kind <;> rfl
  rw [hcollection, List.getElem?_map, Option.bind_map]
  rfl

theorem follow_name (kind : Kind) (i : Nat) :
    (record .pack).follow [.key kind.key, .index i, .key "name"] p.encode =
      ((p.collection kind)[i]?.bind kind.entryName?).map fun text ↦ (display, text.encode) := by
  rw [follow_entry, Option.map_bind]
  refine congrArg _ (funext fun e ↦ ?_)
  cases kind <;> rfl

/-- The format reads texts for players nowhere else in a pack. -/
theorem heading_or_aside (h : (record .pack).follow place p.encode = some (display, w)) :
    Heading place ∨ Aside place := by
  obtain ⟨k, g, v, rest, rfl, hmem, -, hv, hrest⟩ := exists_field_of_follow h
  rcases List.mem_cons.1 hmem with heq | hmem
  · cases heq
    cases hv
    have hloud : ∀ e ∈ Record.metadata.fields, e.2.silent = false →
        e = ("title", display) ∨ e = ("summary", display) := by decide
    obtain ⟨k, g, v, rest, rfl, hmem, hsilent, -, hrest⟩ := exists_field_of_follow hrest
    rcases hloud (k, g) hmem hsilent with heq | heq <;> cases heq
    · rw [eq_nil_of_follow_display hrest]
      exact .inl .title
    · rw [eq_nil_of_follow_display hrest]
      exact .inl .summary
  · obtain ⟨kind, -, heq⟩ := List.mem_map.1 hmem
    cases heq
    cases hv.symm.trans (p.field?_encode kind)
    obtain ⟨i, item, rest, rfl, hitem, hrest⟩ := exists_item_of_follow hrest
    obtain ⟨e, -, rfl⟩ := Option.map_eq_some_iff.1 ((List.getElem?_map ..).symm.trans hitem)
    exact kind.heading_or_aside hrest i

end Pack

end GamePack
