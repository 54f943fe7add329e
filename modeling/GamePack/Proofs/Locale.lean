import GamePack.Proofs.Finding
import GamePack.Proofs.Parse
import GamePack.Proofs.Schema.Display
import GamePack.Sample.Pieces
import Mathlib.Data.List.Nodup

namespace GamePack

def Metadata.Lists (m : Metadata) (locale : String) : Prop :=
  locale ∈ m.supportedLocales ∨ m.defaultLocale = locale

instance (m : Metadata) (locale : String) : Decidable (m.Lists locale) :=
  inferInstanceAs (Decidable (_ ∨ _))

def Warning.ofVariant (place : Path) (locale : String) : Warning :=
  ⟨(place.key "variants").key locale, .unsupportedLocale locale⟩

theorem Warning.ofVariant_inj {place place' : Path} {locale locale' : String}
    (h : ofVariant place locale = ofVariant place' locale') :
    place = place' ∧ locale = locale' := by
  have hpath :
      place ++ [.key "variants", .key locale] = place' ++ [.key "variants", .key locale'] := by
    simpa [ofVariant, Path.key] using congrArg Warning.path h
  obtain ⟨hplace, hlocale⟩ := List.append_inj' hpath rfl
  exact ⟨hplace, by simpa using hlocale⟩

theorem DisplayText.at?_variant (t : DisplayText) (locale : String) :
    (t.encode.at? [.key "variants", .key locale]).isSome ↔ locale ∈ t.variants.keys := by
  have hvariants : t.encode.field? "variants" =
      if t.variants.entries.isEmpty then none else some (t.variants.encode .str) := by
    rw [encode]
    split <;> rfl
  rw [Json.at?, hvariants, Dict.keys]
  split
  · rename_i hempty
    simp [List.isEmpty_iff.1 hempty]
  · rw [Option.bind_some, Json.at?_field, Dict.encode, Json.field?, lookup_map fun _ ↦ Json.str,
      Option.isSome_map, isSome_lookup_iff]

/-- Whether a document holds, at a place at which the format reads a text for players, a
variant in a locale. -/
def Json.Varies (doc : Json) (place : Path) (locale : String) : Prop :=
  ∃ text, (Form.record .pack).follow place doc = some (.display, text) ∧
    (text.at? [.key "variants", .key locale]).isSome

instance (doc : Json) (place : Path) (locale : String) : Decidable (doc.Varies place locale) :=
  decidable_of_iff (((Form.record .pack).follow place doc).any fun part ↦
    part.1 = .display && (part.2.at? [.key "variants", .key locale]).isSome) <| by
      simp [Json.Varies, Option.any_eq_true]

def Pack.names (p : Pack) (kind : Kind) : List (Path × DisplayText) :=
  Path.each [.key kind.key] (p.collection kind) fun path e ↦
    (kind.entryName? e).toList.map (path.key "name", ·)

def Pack.headings (p : Pack) : List (Path × DisplayText) :=
  ([.key "metadata", .key "title"], p.metadata.title) ::
    p.metadata.summary.toList.map ([.key "metadata", .key "summary"], ·) ++ Kind.all.flatMap p.names

def Metadata.unlisted (m : Metadata) (place : Path) (text : DisplayText) : List Warning :=
  (text.variants.keys.filter (¬ m.Lists ·)).map (.ofVariant place)

namespace Structure

variable {p : Pack}

theorem warningsOf_locales (m : Metadata) (place : Path) (text : DisplayText) :
    warningsOf (locales m place text) = m.unlisted place text := by
  have hfilter : text.variants.keys.filter (fun locale ↦
      !(m.supportedLocales.contains locale || m.defaultLocale = locale)) =
        text.variants.keys.filter (¬ m.Lists ·) :=
    List.filter_congr fun locale _ ↦ by simp [Metadata.Lists]
  rw [locales, hfilter, warningsOf, List.filterMap_map]
  exact congrFun List.filterMap_eq_map' _

theorem warningsOf_optionalLocales (m : Metadata) (place : Path) (text : Option DisplayText) :
    warningsOf (optionalLocales m place text) =
      (text.toList.map (place, ·)).flatMap fun heading ↦ m.unlisted heading.1 heading.2 := by
  cases text with
  | none => rfl
  | some text => simp [optionalLocales, warningsOf_locales]

theorem warningsOf_parses {α : Type} (r : Except VersionError α) (path : Path) :
    warningsOf (parses r path) = [] := by
  cases r <;> rfl

theorem warningsOf_metadata (m : Metadata) : warningsOf (metadata m) = [] := by
  have hdependency : ∀ path d, warningsOf (dependency path d) = [] := by
    intro path d
    rw [dependency, warningsOf_append, warningsOf_ensure, List.nil_append]
    cases d.version with
    | none => rfl
    | some range => exact warningsOf_parses _ _
  simp only [metadata, warningsOf_append, warningsOf_ensure, warningsOf_parses,
    warningsOf_each, hdependency, Path.each_nil, List.append_nil]

theorem warningsOf_ids (p : Pack) (kind : Kind) : warningsOf (ids p kind) = [] := by
  simp [ids, warningsOf_flatMap, warningsOf_append, warningsOf_ensure]

theorem warningsOf_resource (path : Path) (r : Resource) : warningsOf (resource path r) = [] := by
  rw [resource, warningsOf_append, warningsOf_ensure, warningsOf_ensure, List.append_nil]

theorem warningsOf_automation (path : Path) (a : Automation) :
    warningsOf (automation path a) = [] := by
  rw [automation]
  split <;> exact warningsOf_ensure ..

theorem warningsOf_transform (path : Path) (t : Transform) :
    warningsOf (transform path t) = [] := by
  rw [transform, warningsOf_append, warningsOf_ensure, List.nil_append]
  split <;> exact warningsOf_ensure ..

theorem warningsOf_entity (path : Path) (e : Entity) : warningsOf (entity path e) = [] := by
  simp [entity, warningsOf_flatMap, warningsOf_ensure]

theorem warningsOf_check (p : Pack) :
    warningsOf (check p) = p.headings.flatMap fun heading ↦
      p.metadata.unlisted heading.1 heading.2 := by
  simp only [check, names, Pack.headings, Pack.names, warningsOf_append, warningsOf_flatMap,
    warningsOf_each, warningsOf_metadata, warningsOf_ids, warningsOf_resource,
    warningsOf_automation, warningsOf_transform, warningsOf_entity, warningsOf_locales,
    warningsOf_optionalLocales, Path.each_nil, List.flatMap_cons, List.flatMap_append,
    List.flatMap_assoc, Path.flatMap_each, List.append_assoc, List.nil_append]
  simp

end Structure

namespace Pack

variable {p : Pack} {place : Path} {text : DisplayText} {locale : String} {v : Json}

theorem mem_names_iff {kind : Kind} : (place, text) ∈ p.names kind ↔ ∃ i,
    place = [.key kind.key, .index i, .key "name"] ∧
      (p.collection kind)[i]?.bind kind.entryName? = some text := by
  simp only [names, Path.mem_each, List.mem_map, Option.mem_toList, Prod.mk.injEq,
    Option.bind_eq_some_iff]
  constructor
  · rintro ⟨i, e, he, t, ht, rfl, rfl⟩
    exact ⟨i, rfl, e, he, ht⟩
  · rintro ⟨i, rfl, e, he, ht⟩
    exact ⟨i, e, he, text, ht, rfl, rfl⟩

theorem mem_headings_iff : (place, text) ∈ p.headings ↔
    (place = [.key "metadata", .key "title"] ∧ text = p.metadata.title) ∨
      (place = [.key "metadata", .key "summary"] ∧ p.metadata.summary = some text) ∨
      ∃ kind i, place = [.key kind.key, .index i, .key "name"] ∧
        (p.collection kind)[i]?.bind kind.entryName? = some text := by
  have hsummary : (place, text) ∈
      p.metadata.summary.toList.map (([.key "metadata", .key "summary"] : Path), ·) ↔
      place = [.key "metadata", .key "summary"] ∧ p.metadata.summary = some text := by
    simp only [List.mem_map, Option.mem_toList, Prod.mk.injEq]
    exact ⟨fun ⟨t, ht, hplace, htext⟩ ↦ ⟨hplace.symm, htext ▸ ht⟩,
      fun ⟨hplace, ht⟩ ↦ ⟨text, ht, hplace.symm, rfl⟩⟩
  rw [headings, List.cons_append, List.mem_cons, List.mem_append, Prod.mk.injEq, hsummary,
    List.mem_flatMap]
  simp only [mem_names_iff, Kind.mem_all, true_and]

theorem pairwise_names (p : Pack) (kind : Kind) : (p.names kind).Pairwise fun a b ↦ a.1 ≠ b.1 := by
  refine Path.pairwise_each (fun i e ↦ ?_) fun i j a b hlt x hx y hy ↦ ?_
  · cases kind.entryName? e <;> simp
  · obtain ⟨text, -, rfl⟩ := List.mem_map.1 hx
    obtain ⟨text', -, rfl⟩ := List.mem_map.1 hy
    simpa [Path.key, Path.index] using Nat.ne_of_lt hlt

theorem head?_of_mem_names {kind : Kind} {x : Path × DisplayText} (h : x ∈ p.names kind) :
    x.1.head? = some (.key kind.key) := by
  obtain ⟨i, hplace, -⟩ := mem_names_iff.1 h
  rw [hplace]
  rfl

theorem pairwise_headings (p : Pack) : p.headings.Pairwise fun a b ↦ a.1 ≠ b.1 := by
  have hkeys : ("metadata" :: Kind.all.map Kind.key).Nodup := by decide
  rw [List.nodup_cons, List.Nodup, List.pairwise_map] at hkeys
  have hmetadata {x y : Path × DisplayText} (hx : x.1.head? = some (.key "metadata"))
      (hy : y ∈ Kind.all.flatMap p.names) : x.1 ≠ y.1 := by
    intro heq
    obtain ⟨kind, hkind, hy⟩ := List.mem_flatMap.1 hy
    have hsame := hx.symm.trans (heq ▸ head?_of_mem_names hy)
    exact hkeys.1 (List.mem_map.2 ⟨kind, hkind, by simpa using hsame.symm⟩)
  rw [headings, List.cons_append, List.pairwise_cons, List.pairwise_append, List.pairwise_flatMap]
  refine ⟨fun y hy ↦ ?_, ?_,
    ⟨fun kind _ ↦ p.pairwise_names kind, hkeys.2.imp fun hne x hx y hy heq ↦ ?_⟩,
    fun x hx y hy ↦ ?_⟩
  · rcases List.mem_append.1 hy with hy | hy
    · obtain ⟨text, -, rfl⟩ := List.mem_map.1 hy
      simp
    · exact hmetadata rfl hy
  · cases p.metadata.summary <;> simp
  · have hsame := (head?_of_mem_names hx).symm.trans (heq ▸ head?_of_mem_names hy)
    exact hne (by simpa using hsame)
  · obtain ⟨text, -, rfl⟩ := List.mem_map.1 hx
    exact hmetadata rfl hy

/-- The texts are those that the format reads at the places of headings. -/
theorem exists_mem_headings_iff : (∃ text, (place, text) ∈ p.headings ∧ v = text.encode) ↔
    Heading place ∧ (Form.record .pack).follow place p.encode = some (.display, v) ∧ v ≠ .null := by
  simp only [mem_headings_iff]
  constructor
  · rintro ⟨text, ⟨rfl, rfl⟩ | ⟨rfl, hsummary⟩ | ⟨kind, i, rfl, hname⟩, rfl⟩
    · exact ⟨.title, p.follow_title, nofun⟩
    · refine ⟨.summary, ?_, nofun⟩
      rw [follow_summary, hsummary]
      rfl
    · refine ⟨.name kind i, ?_, nofun⟩
      rw [follow_name, hname, Option.map_some]
  · rintro ⟨hheading, hfollow, hnull⟩
    cases hheading with
    | title =>
      cases p.follow_title.symm.trans hfollow
      exact ⟨_, .inl ⟨rfl, rfl⟩, rfl⟩
    | summary =>
      cases p.follow_summary.symm.trans hfollow
      cases hsummary : p.metadata.summary with
      | none => exact absurd (by rw [hsummary]; rfl) hnull
      | some text => exact ⟨text, .inr (.inl ⟨rfl, rfl⟩), rfl⟩
    | name kind i =>
      rw [follow_name, Option.map_eq_some_iff] at hfollow
      obtain ⟨text, hname, heq⟩ := hfollow
      cases heq
      exact ⟨text, .inr (.inr ⟨kind, i, rfl, hname⟩), rfl⟩

theorem mem_unlisted {m : Metadata} {w : Warning} : w ∈ m.unlisted place text ↔
    ∃ locale ∈ text.variants.keys, ¬ m.Lists locale ∧ w = .ofVariant place locale := by
  simp only [Metadata.unlisted, List.mem_map, List.mem_filter, decide_eq_true_eq, and_assoc]
  exact exists_congr fun locale ↦ and_congr_right fun _ ↦ and_congr_right fun _ ↦ eq_comm

theorem nodup_unlisted (m : Metadata) (place : Path) (text : DisplayText) :
    (m.unlisted place text).Nodup := by
  have hkeys : text.variants.keys.Nodup := nodup_of_ascending text.variants.ascending
  exact (hkeys.filter _).map fun _ _ h ↦ (Warning.ofVariant_inj h).2

theorem nodup_warnings (p : Pack) : (warningsOf (Structure.check p)).Nodup := by
  rw [Structure.warningsOf_check, List.nodup_flatMap]
  refine ⟨fun heading _ ↦ nodup_unlisted _ _ _, p.pairwise_headings.imp fun hne w hw hw' ↦ ?_⟩
  obtain ⟨locale, -, -, rfl⟩ := mem_unlisted.1 hw
  obtain ⟨locale', -, -, heq⟩ := mem_unlisted.1 hw'
  exact hne (Warning.ofVariant_inj heq).1

theorem mem_warnings_iff {w : Warning} : w ∈ warningsOf (Structure.check p) ↔ ∃ place locale,
    Heading place ∧ p.encode.Varies place locale ∧ ¬ p.metadata.Lists locale ∧
    w = .ofVariant place locale := by
  rw [Structure.warningsOf_check, List.mem_flatMap]
  constructor
  · rintro ⟨⟨place, text⟩, hmem, hw⟩
    obtain ⟨locale, hlocale, hlists, rfl⟩ := mem_unlisted.1 hw
    obtain ⟨hheading, hfollow, -⟩ := exists_mem_headings_iff.1 ⟨text, hmem, rfl⟩
    exact ⟨place, locale, hheading, ⟨_, hfollow, (text.at?_variant locale).2 hlocale⟩, hlists, rfl⟩
  · rintro ⟨place, locale, hheading, ⟨v, hfollow, hvariant⟩, hlists, rfl⟩
    have hnull : v ≠ .null := by
      rintro rfl
      cases hvariant
    obtain ⟨text, hmem, rfl⟩ := exists_mem_headings_iff.2 ⟨hheading, hfollow, hnull⟩
    exact ⟨(place, text), hmem,
      mem_unlisted.2 ⟨locale, (text.at?_variant locale).1 hvariant, hlists, rfl⟩⟩

/-- Of the variants in locales that a pack does not list, those of titles and names give one warning
each, and there is no other warning: those of descriptions, of summaries of layers and of names of
stats give none. -/
theorem warnings_of_parse {doc : Json} (h : (parse doc).1 = some p) :
    (∀ place locale, p.encode.Varies place locale → ¬ p.metadata.Lists locale →
      Heading place ∧ (warningsOf (parse doc).2).count (.ofVariant place locale) = 1 ∨
        Aside place ∧ (warningsOf (parse doc).2).count (.ofVariant place locale) = 0) ∧
      ∀ w ∈ warningsOf (parse doc).2, ∃ place locale, Heading place ∧ p.encode.Varies place locale ∧
        ¬ p.metadata.Lists locale ∧ w = .ofVariant place locale := by
  rw [check_of_parse h]
  refine ⟨fun place locale hvaries hlists ↦ ?_, fun w hw ↦ mem_warnings_iff.1 hw⟩
  have ⟨v, hfollow, _⟩ := hvaries
  rcases p.heading_or_aside hfollow with hheading | haside
  · refine .inl ⟨hheading, List.count_eq_one_of_mem p.nodup_warnings ?_⟩
    exact mem_warnings_iff.2 ⟨place, locale, hheading, hvaries, hlists, rfl⟩
  · refine .inr ⟨haside, List.count_eq_zero.2 fun hmem ↦ ?_⟩
    obtain ⟨place', locale', hheading, -, -, heq⟩ := mem_warnings_iff.1 hmem
    obtain ⟨rfl, rfl⟩ := Warning.ofVariant_inj heq
    exact hheading.not_aside haside

end Pack

namespace Sample

def inGermanAndFrench (text : String) : Json :=
  .obj [("default", .str text), ("variants", .obj [("de", .str text), ("fr", .str text)])]

def translated : Json := .obj
  [("metadata", (metadata "p" "1.0.0" "P").setField "supportedLocales" (.arr [.str "de"])),
    ("metrics", .arr [.obj
      [("description", inGermanAndFrench "Clicks per minute"),
        ("id", .str "p.clicks"),
        ("kind", .str "counter"),
        ("name", inGermanAndFrench "Clicks")]])]

end Sample

namespace Pack

theorem warnings_of_parse_translated : ∃ p, (parse Sample.translated).1 = some p ∧
    p.encode.Varies [.key "metrics", .index 0, .key "name"] "fr" ∧ ¬ p.metadata.Lists "fr" ∧
      (warningsOf (parse Sample.translated).2).count
        (.ofVariant [.key "metrics", .index 0, .key "name"] "fr") = 1 := by
  let p := (parse Sample.translated).1.get (by decide +kernel)
  have hp : (parse Sample.translated).1 = some p := (Option.some_get _).symm
  have hvaries : p.encode.Varies [.key "metrics", .index 0, .key "name"] "fr" := by decide +kernel
  have hlists : ¬ p.metadata.Lists "fr" := by decide +kernel
  have hname : Heading [.key "metrics", .index 0, .key "name"] := .name .metric 0
  rcases (warnings_of_parse hp).1 _ _ hvaries hlists with ⟨-, hone⟩ | ⟨haside, -⟩
  · exact ⟨p, hp, hvaries, hlists, hone⟩
  · exact absurd haside hname.not_aside

theorem unwarned_of_description : ∃ p, (parse Sample.translated).1 = some p ∧
    p.encode.Varies [.key "metrics", .index 0, .key "description"] "fr" ∧ ¬ p.metadata.Lists "fr" ∧
      .ofVariant [.key "metrics", .index 0, .key "description"] "fr" ∉
        warningsOf (parse Sample.translated).2 := by
  let p := (parse Sample.translated).1.get (by decide +kernel)
  exact ⟨p, (Option.some_get _).symm, by decide +kernel, by decide +kernel, by decide +kernel⟩

end Pack

end GamePack
