import GamePack.Proofs.Graph.Acyclic
import GamePack.Proofs.Graph.Bounded
import GamePack.Proofs.Run
import GamePack.Proofs.Shape
import GamePack.Report
import Mathlib.Data.List.Nodup

namespace GamePack

open Fields

variable {n : Nat} {mode : Mode} {v : Below n} {fields : List (String × Json)}

theorem Dependency.lookup_of_decoder {d : Dependency} (hv : v.1 = .obj fields)
    (h : Dependency.decoder mode v = .ok d) : fields.lookup "packId" = some (.str d.packId) := by
  let P (d : Dependency) : Prop := fields.lookup "packId" = some (.str d.packId)
  refine closed_object (P := P) (fun find hfind ↦ ?_) hv h
  refine Ensures.rest (Ensures.map (Ensures.string fun id hid version ↦ ?_))
  exact (hfind "packId").symm.trans hid

theorem Dependencies.lookup_of_decoder {d : Dependencies} (hv : v.1 = .obj fields)
    (h : Dependencies.decoder mode v = .ok d) :
    fields.lookup "requires" = .none ∧ d.requires = [] ∨
      ∃ mode, ∃ items : List (Below n), fields.lookup "requires" = some (.arr (items.map (·.1))) ∧
        List.Forall₂ (fun v e ↦ Dependency.decoder mode v = .ok e) items d.requires := by
  let P (requires : List Dependency) : Prop := fields.lookup "requires" = .none ∧ requires = [] ∨
    ∃ mode, ∃ items : List (Below n), fields.lookup "requires" = some (.arr (items.map (·.1))) ∧
      List.Forall₂ (fun v e ↦ Dependency.decoder mode v = .ok e) items requires
  refine closed_object (P := fun d ↦ P d.requires) (fun find hfind ↦ ?_) hv h
  iterate 3 refine Ensures.rest ?_
  refine Ensures.map (Ensures.defaulted (fun mode v requires hv hread _ _ _ ↦ Or.inr ?_)
    fun hv _ _ _ ↦ Or.inl ?_)
  · obtain ⟨items, hitems, hread⟩ := Decode.exists_of_list hread
    refine ⟨mode, items, ?_, hread⟩
    rw [← hfind, hv, ← hitems]
    rfl
  · rw [← hfind, hv]
    exact ⟨rfl, rfl⟩

theorem Metadata.lookup_dependencies_of_decoder {m : Metadata} (hv : v.1 = .obj fields)
    (h : Metadata.decoder mode v = .ok m) :
    fields.lookup "dependencies" = none ∧ m.dependencies = .none ∨
      ∃ mode, ∃ v : Below n, fields.lookup "dependencies" = some v.1 ∧
        Dependencies.decoder mode v = .ok m.dependencies := by
  let P (d : Dependencies) : Prop := fields.lookup "dependencies" = none ∧ d = .none ∨
    ∃ mode, ∃ v : Below n, fields.lookup "dependencies" = some v.1 ∧
      Dependencies.decoder mode v = .ok d
  refine closed_object (P := fun m ↦ P m.dependencies) (fun find hfind ↦ ?_) hv h
  refine Ensures.seq (R := P) ?_
    (Ensures.defaulted (fun mode v d hv hread ↦ .inr ?_) fun hv ↦ .inl ?_)
  · iterate 8 refine Ensures.rest ?_
    exact Ensures.map fun _ _ _ _ _ _ _ _ _ _ _ _ hd ↦ hd
  · exact ⟨mode, v, by rw [← hfind, hv]; rfl, hread⟩
  · rw [← hfind, hv]
    exact ⟨rfl, rfl⟩

/-- What a pack lets others know of it once it is read. -/
def Metadata.known (m : Metadata) : KnownPack :=
  ⟨m.id, m.version, m.dependencies.requires.map (·.packId)⟩

def Json.ShowsRequired (doc : Json) (m : Metadata) : Prop :=
  (∃ fields, doc.field? "metadata" = some (.obj fields)) ∧
    (m.dependencies.requires = [] ∨
      ∃ items, doc.at? [.key "metadata", .key "dependencies", .key "requires"] = some (.arr items) ∧
        ∀ d ∈ items, ∃ fields, d = .obj fields)

namespace KnownPack

def shownRequired (metadata : Json) : List String :=
  (((metadata.at? [.key "dependencies", .key "requires"]).bind Json.items?).getD []).filterMap
    fun d ↦ (d.field? "packId").bind Json.str?

theorem ofDocument?_eq_some_iff {doc metadata : Json}
    (hmetadata : doc.field? "metadata" = some metadata) {k : KnownPack} :
    ofDocument? doc = some k ↔ (metadata.field? "id").bind Json.str? = some k.id ∧
      (metadata.field? "version").bind Json.str? = some k.version ∧
      shownRequired metadata = k.requires := by
  obtain ⟨id, version, requires⟩ := k
  simp only [ofDocument?, shownRequired, hmetadata, Option.bind_eq_bind, Option.bind_eq_some_iff,
    Option.pure_def, Option.some.injEq, mk.injEq]
  grind

/-- The array of required packs that metadata show. Its items are those that are read,
unless no pack is. -/
theorem at?_requires {m : Metadata} (hv : v.1 = .obj fields) (h : Metadata.decoder mode v = .ok m) :
    ((Json.obj fields).at? [.key "dependencies", .key "requires"]).bind Json.items? = none ∨
      ∃ mode, ∃ items : List (Below n),
        (Json.obj fields).at? [.key "dependencies", .key "requires"] =
          some (.arr (items.map (·.1))) ∧
        List.Forall₂ (fun v e ↦ Dependency.decoder mode v = .ok e) items
          m.dependencies.requires := by
  have hat : (Json.obj fields).at? [.key "dependencies", .key "requires"] =
      (fields.lookup "dependencies").bind (Json.field? "requires") :=
    congrArg (fields.lookup "dependencies").bind
      (funext fun v : Json ↦ Option.bind_fun_some (v.field? "requires"))
  rw [hat]
  rcases Metadata.lookup_dependencies_of_decoder hv h with ⟨hnone, -⟩ | ⟨mode, w, hw, hread⟩
  · exact .inl (by rw [hnone]; rfl)
  rw [hw, Option.bind_some]
  cases hfields : w.1.fields? with
  | none => exact .inl (by rw [Json.field?_eq_none hfields]; rfl)
  | some inner =>
    obtain ⟨w, hdepth⟩ := w
    obtain rfl : w = .obj inner := Json.eq_obj_of_fields? hfields
    rcases Dependencies.lookup_of_decoder rfl hread with ⟨hnone, -⟩ | ⟨mode, items, hitems, hread⟩
    · exact .inl (by rw [Json.field?, hnone]; rfl)
    · exact .inr ⟨mode, items, hitems, hread⟩

theorem shownRequired_eq_iff {m : Metadata} (hv : v.1 = .obj fields)
    (h : Metadata.decoder mode v = .ok m) :
    shownRequired (.obj fields) = m.dependencies.requires.map (·.packId) ↔
      m.dependencies.requires = [] ∨
        ∃ items, (Json.obj fields).at? [.key "dependencies", .key "requires"] = some (.arr items) ∧
          ∀ d ∈ items, ∃ fields, d = .obj fields := by
  rw [shownRequired]
  rcases at?_requires hv h with hnone | ⟨mode, items, hitems, hread⟩
  · have hno : ¬ ∃ items, (Json.obj fields).at? [.key "dependencies", .key "requires"] =
        some (.arr items) ∧ ∀ d ∈ items, ∃ fields, d = .obj fields := by
      rintro ⟨items, hitems, -⟩
      rw [hitems] at hnone
      cases hnone
    rw [hnone, or_iff_left hno, eq_comm]
    exact List.map_eq_nil_iff
  · rw [hitems]
    have hshown : List.Forall₂ (fun (v : Json) (d : Dependency) ↦ ∀ fields, v = .obj fields →
        (v.field? "packId").bind Json.str? = some d.packId) (items.map (·.1))
          m.dependencies.requires := by
      rw [List.forall₂_map_left_iff]
      refine hread.imp fun v d hd fields hv ↦ ?_
      rw [hv, Json.field?, Dependency.lookup_of_decoder hv hd]
      rfl
    refine (Shape.filterMap_shown_eq_iff (fun v hv ↦ ?_) hshown).trans ?_
    · rw [Json.field?_eq_none hv]
      rfl
    refine ⟨fun hobjects ↦ .inr ⟨_, rfl, hobjects⟩, ?_⟩
    rintro (hempty | ⟨_, heq, hobjects⟩)
    · rw [hempty, List.forall₂_nil_right_iff] at hread
      simp [hread]
    · cases heq
      exact hobjects

variable {doc : Json} {p : Pack}

theorem exists_metadata_of_parse (h : (Pack.parse doc).1 = some p) : ∃ metadata,
    doc.field? "metadata" = some metadata ∧
    Decode.run (fun _ ↦ Metadata.decoder) metadata = .ok p.metadata := by
  obtain ⟨fields, rfl, -, hread, -⟩ := Pack.parse_eq_some_iff.1 h
  exact Pack.readMetadata_eq_ok.1 hread

theorem id_of_ofDocument? {k : KnownPack} (h : (Pack.parse doc).1 = some p)
    (hk : ofDocument? doc = some k) : k.id = p.metadata.id := by
  obtain ⟨metadata, hmetadata, hread⟩ := exists_metadata_of_parse h
  have hid := ((ofDocument?_eq_some_iff hmetadata).1 hk).1
  cases hfields : metadata.fields? with
  | none =>
    rw [Json.field?_eq_none hfields] at hid
    cases hid
  | some fields =>
    obtain rfl := Json.eq_obj_of_fields? hfields
    have hlookup :=
      (Metadata.lookup_of_decoder (v := ⟨.obj fields, Nat.lt_succ_self _⟩) rfl hread).1
    rw [Json.field?, hlookup] at hid
    exact (Option.some.inj hid).symm

/-- What a document shows of a pack is what is read from it exactly if it shows this by key. -/
theorem ofDocument?_eq_known_iff (h : (Pack.parse doc).1 = some p) :
    ofDocument? doc = some p.metadata.known ↔ doc.ShowsRequired p.metadata := by
  obtain ⟨metadata, hmetadata, hread⟩ := exists_metadata_of_parse h
  have hat : doc.at? [.key "metadata", .key "dependencies", .key "requires"] =
      metadata.at? [.key "dependencies", .key "requires"] := by
    rw [Json.at?, hmetadata, Option.bind_some]
  rw [ofDocument?_eq_some_iff hmetadata, Json.ShowsRequired, hmetadata, hat]
  cases hfields : metadata.fields? with
  | none =>
    refine iff_of_false (fun hshown ↦ ?_) fun hshown ↦ ?_
    · rw [Json.field?_eq_none hfields] at hshown
      cases hshown.1
    · obtain ⟨fields, hobj⟩ := hshown.1
      rw [Option.some.inj hobj] at hfields
      cases hfields
  | some fields =>
    obtain rfl := Json.eq_obj_of_fields? hfields
    obtain ⟨hid, hversion⟩ :=
      Metadata.lookup_of_decoder (v := ⟨.obj fields, Nat.lt_succ_self _⟩) rfl hread
    rw [← shownRequired_eq_iff (v := ⟨.obj fields, Nat.lt_succ_self _⟩) rfl hread, Json.field?, hid,
      Json.field?, hversion]
    exact ⟨fun hshown ↦ ⟨⟨fields, rfl⟩, hshown.2.2⟩, fun hshown ↦ ⟨rfl, rfl, hshown.2⟩⟩

theorem foldl_addTo_eq_filter {known packs : List KnownPack} (hnodup : (packs.map (·.id)).Nodup) :
    packs.foldl addTo known = known ++ packs.filter fun k ↦ !known.any (·.id = k.id) := by
  induction packs generalizing known with
  | nil => simp
  | cons k rest ih =>
    rw [List.map_cons, List.nodup_cons] at hnodup
    rw [List.foldl_cons, ih hnodup.2, addTo]
    split
    · rename_i hknown
      rw [List.filter_cons_of_neg (by rw [hknown]; exact Bool.false_ne_true)]
    · rename_i hknown
      have hrest : rest.filter (fun k' ↦ !(known ++ [k]).any (·.id = k'.id)) =
          rest.filter fun k' ↦ !known.any (·.id = k'.id) := by
        refine List.filter_congr fun k' hk' ↦ ?_
        have hne : k.id ≠ k'.id := fun heq ↦ hnodup.1 (heq ▸ List.mem_map_of_mem hk')
        simp [hne]
      rw [hrest, List.filter_cons_of_pos (by simpa using hknown), List.append_assoc,
        List.singleton_append]

theorem foldl_addTo {known packs : List KnownPack} (hnodup : (packs.map (·.id)).Nodup)
    (hnew : ∀ k ∈ packs, k.id ∉ known.map (·.id)) : packs.foldl addTo known = known ++ packs := by
  rw [foldl_addTo_eq_filter hnodup, List.filter_eq_self.2]
  intro k hk
  have hk := hnew k hk
  simpa using hk

end KnownPack

structure Member where
  path : String
  doc : Json
  pack : Pack
  parsed : (Pack.parse doc).1 = some pack
  clean : hasIssues (Pack.parse doc).2 = false

namespace Member

def id (m : Member) : String := m.pack.metadata.id

def Requires (m n : Member) : Prop := ∃ d ∈ m.pack.metadata.dependencies.requires, d.packId = n.id

theorem ids_sublist (batch : List Member) :
    (((batch.map (·.doc)).filterMap KnownPack.ofDocument?).map (·.id)).Sublist (batch.map id) := by
  induction batch with
  | nil => exact .slnil
  | cons m rest ih =>
    rw [List.map_cons, List.filterMap_cons, List.map_cons]
    cases hk : KnownPack.ofDocument? m.doc with
    | none => exact ih.cons _
    | some k =>
      rw [List.map_cons, KnownPack.id_of_ofDocument? m.parsed hk]
      exact ih.cons_cons _

variable {check : Option BalanceCheck} {c : Config} {batch chain : List Member} {m : Member}

theorem knownPacks_withSiblings (hids : (batch.map id).Nodup)
    (hnew : ∀ k ∈ c.knownPacks, k.id ∉ batch.map id) :
    (c.withSiblings (batch.map (·.doc))).knownPacks =
      c.knownPacks ++ (batch.map (·.doc)).filterMap KnownPack.ofDocument? := by
  refine KnownPack.foldl_addTo (hids.sublist (ids_sublist batch)) fun k hk hmem ↦ ?_
  obtain ⟨k', hk', heq⟩ := List.mem_map.1 hmem
  exact hnew k' hk' (heq ▸ (ids_sublist batch).subset (List.mem_map_of_mem hk))

/-- Packs on a cycle of requirements that are known as they are read: the search from any
pack finds one. -/
theorem cycles_ne_nil {known : List KnownPack} (hnodup : (chain.map id).Nodup)
    (hlength : 2 ≤ chain.length) (hcyclic : Cyclic Requires chain)
    (hknown : ∀ n ∈ chain, n ≠ m → n.id ≠ m.id ∧ n.pack.metadata.known ∈ known) :
    (m.pack.metadata.dependencyGraph known).cycles (m.id :: known.map (·.id)) .first ≠ [] := by
  intro hnil
  have hedge : ∀ x ∈ chain, ∀ y ∈ chain, x.id ≠ y.id → x.Requires y →
      (m.pack.metadata.dependencyGraph known).Edge x.id y.id := by
    rintro x hx y - hne ⟨d, hd, heq⟩
    rw [Metadata.edge_dependencyGraph_iff]
    by_cases hxm : x = m
    · exact .inl ⟨hxm ▸ rfl, hxm ▸ hne.symm, d, hxm ▸ hd, heq⟩
    · obtain ⟨hother, hx'⟩ := hknown x hx hxm
      exact .inr ⟨hother, _, hx', rfl, heq ▸ List.mem_map_of_mem hd⟩
  obtain ⟨a, -, hway⟩ := hcyclic.exists_transGen_map hnodup hlength hedge
  exact Metadata.not_transGen_edge hnil a.id hway

theorem rejected_of_cycle (m : Member) {allowlists : Allowlists} {dropped : List Finding}
    {path : String}
    {cycle : List String} (hnormal : Allowlists.normalize c.allowlists = (dropped, .ok allowlists))
    (hdropped : hasIssues dropped = false)
    (hcycle : cycle ∈ (m.pack.metadata.dependencyGraph c.knownPacks).cycles
      (m.id :: c.knownPacks.map (·.id)) .first) :
    ∃ issues, (Report.ofDocument check c path m.doc).run.outcome = .error (.rejected m.id issues) ∧
      ⟨Metadata.dependencyPath.key "requires", .packCycle cycle⟩ ∈ issues := by
  let fault : Finding := .fault (Metadata.dependencyPath.key "requires") (.packCycle cycle)
  let findings := dropped ++ (Pack.parse m.doc).2 ++ m.pack.checks allowlists c
  have hfault : fault ∈ findings := by
    refine List.mem_append_right _ (List.mem_append_right _ (List.mem_append_right _ ?_))
    simp only [Metadata.checkDependencies, List.mem_append]
    exact .inl (.inl (.inr (List.mem_map.2 ⟨cycle, hcycle, rfl⟩)))
  have hissues : hasIssues findings := by
    by_contra hno
    have hnone := hasIssues_eq_false.1 (Bool.not_eq_true _ ▸ hno) fault hfault
    cases hnone
  have hclean : ¬ hasIssues (dropped ++ (Pack.parse m.doc).2) :=
    Bool.not_eq_true _ ▸ hasIssues_append.2 ⟨hdropped, m.clean⟩
  have hrun : (Report.ofDocument check c path m.doc).run.outcome =
      (m.doc.validate check c allowlists dropped).outcome := outcome_validate hnormal
  refine ⟨issuesOf findings, ?_, List.mem_filterMap.2 ⟨fault, hfault, rfl⟩⟩
  rw [hrun, Json.outcome_validate, m.parsed]
  dsimp only
  rw [if_neg hclean, Pack.outcome_validate, if_pos hissues]
  rfl

/-- Where packs that are validated together require each other in a cycle, every pack of the batch
is rejected for a cycle, as long as the documents of the others on it show their requirements. -/
theorem rejected_of_cyclic (check : Option BalanceCheck) (hallow : c.allowlists.WellFormed)
    (hids : (batch.map id).Nodup) (hnew : ∀ k ∈ c.knownPacks, k.id ∉ batch.map id)
    (hchain : chain ⊆ batch) (hnodup : chain.Nodup) (hlength : 2 ≤ chain.length)
    (hcyclic : Cyclic Requires chain) (hm : m ∈ batch)
    (hshown : ∀ n ∈ chain, n ≠ m → n.doc.ShowsRequired n.pack.metadata) :
    ∃ cycle issues,
      (Report.ofDocument check (c.withSiblings (batch.map (·.doc))) m.path m.doc).run.outcome =
          .error (.rejected m.id issues) ∧
        ⟨Metadata.dependencyPath.key "requires", .packCycle cycle⟩ ∈ issues := by
  have hinj {x y : Member} (hx : x ∈ batch) (hy : y ∈ batch) (heq : x.id = y.id) : x = y :=
    List.inj_on_of_nodup_map hids hx hy heq
  have hknown : ∀ n ∈ chain, n ≠ m → n.id ≠ m.id ∧
      n.pack.metadata.known ∈ (c.withSiblings (batch.map (·.doc))).knownPacks := by
    intro n hn hne
    refine ⟨fun heq ↦ hne (hinj (hchain hn) hm heq), ?_⟩
    have hshows := (KnownPack.ofDocument?_eq_known_iff n.parsed).2 (hshown n hn hne)
    rw [knownPacks_withSiblings hids hnew]
    exact List.mem_append_right _
      (List.mem_filterMap.2 ⟨n.doc, List.mem_map_of_mem (hchain hn), hshows⟩)
  have hdistinct : (chain.map id).Nodup :=
    (List.nodup_map_iff_inj_on hnodup).2 fun x hx y hy ↦ hinj (hchain hx) (hchain hy)
  obtain ⟨cycle, hcycle⟩ :=
    List.exists_mem_of_ne_nil _ (cycles_ne_nil hdistinct hlength hcyclic hknown)
  obtain ⟨dropped, allowlists, hnormal, hdropped⟩ := Allowlists.normalize_ok hallow
  exact ⟨cycle, m.rejected_of_cycle (c := c.withSiblings _) hnormal hdropped hcycle⟩

instance (m n : Member) : Decidable (m.Requires n) :=
  inferInstanceAs (Decidable (∃ d ∈ m.pack.metadata.dependencies.requires, d.packId = n.id))

def ofDocument (path : String) (doc : Json) (h : (Pack.parse doc).1.isSome)
    (hclean : hasIssues (Pack.parse doc).2 = false) : Member :=
  ⟨path, doc, (Pack.parse doc).1.get h, (Option.some_get h).symm, hclean⟩

def requiring (packId : String) (dependency : Json) : Json := .obj
  [("metadata", (Sample.metadata packId "1.0.0" packId).setField "dependencies"
    (.obj [("requires", .arr [dependency])]))]

def named : Member :=
  ofDocument "a.json" (requiring "a" (.obj [("packId", .str "b")])) (by decide +kernel)
    (by decide +kernel)

def placed : Member :=
  ofDocument "a.json" (requiring "a" (.arr [.str "b"])) (by decide +kernel) (by decide +kernel)

def partner : Member :=
  ofDocument "b.json" (requiring "b" (.obj [("packId", .str "a")])) (by decide +kernel)
    (by decide +kernel)

theorem wellFormed_initial : Config.initial.allowlists.WellFormed := by
  intro category spec h
  cases category <;> cases h

theorem rejected_of_cyclic_named : Cyclic Requires [named, partner] ∧ ∃ cycle issues,
    (Report.ofDocument none (Config.initial.withSiblings [named.doc, partner.doc]) "b.json"
        partner.doc).run.outcome = .error (.rejected "b" issues) ∧
      ⟨Metadata.dependencyPath.key "requires", .packCycle cycle⟩ ∈ issues := by
  have hcyclic : Cyclic Requires [named, partner] := .pair (by decide +kernel) (by decide +kernel)
  have hids : ([named, partner].map id).Nodup := by decide +kernel
  have hshown : named.doc.ShowsRequired named.pack.metadata :=
    ⟨⟨_, rfl⟩, .inr ⟨_, rfl, List.forall_mem_singleton.2 ⟨_, rfl⟩⟩⟩
  have hothers : ∀ n ∈ [named, partner], n ≠ partner → n.doc.ShowsRequired n.pack.metadata := by
    intro n hn hne
    obtain rfl : n = named := by simpa [hne] using hn
    exact hshown
  have hpartner : partner ∈ [named, partner] := List.mem_cons_of_mem _ (List.mem_singleton_self _)
  exact ⟨hcyclic, rejected_of_cyclic none wellFormed_initial hids (List.forall_mem_nil _)
    (List.Subset.refl _) (List.Nodup.of_map id hids) (Nat.le_refl 2) hcyclic hpartner hothers⟩

/-- The requirement is read from the array but not shown, so the other pack is accepted. -/
theorem accepted_of_cyclic_placed :
    Cyclic Requires [placed, partner] ∧ ([placed, partner].map id).Nodup ∧
    ∃ v, (Report.ofDocument none (Config.initial.withSiblings [placed.doc, partner.doc]) "b.json"
        partner.doc).run.outcome = .ok v := by
  let c := Config.initial.withSiblings [placed.doc, partner.doc]
  refine ⟨.pair (by decide +kernel) (by decide +kernel), by decide +kernel, ?_⟩
  have htransforms : partner.pack.transformGraph.cycles (partner.pack.ids .transform) .first = [] :=
    Graph.cycles_of_cyclesWithin (n := 3) (by decide +kernel)
  have hunlocks : partner.pack.unlockGraph.cycles partner.pack.unlockNodes .first = [] :=
    Graph.cycles_of_cyclesWithin (n := 3) (by decide +kernel)
  have hpacks : (partner.pack.metadata.dependencyGraph c.knownPacks).cycles
      (partner.pack.metadata.id :: c.knownPacks.map (·.id)) .first = [] :=
    Graph.cycles_of_cyclesWithin (n := 5) (by decide +kernel)
  have hcycles : hasIssues (partner.pack.checkCycles c) = false := by
    rw [Pack.checkCycles, hasIssues_append, hasIssues_append]
    refine ⟨⟨hasIssues_map_fault.2 htransforms, hasIssues_map_fault.2 hunlocks⟩, ?_⟩
    simp only [Metadata.checkDependencies, hasIssues_append]
    refine ⟨⟨⟨⟨⟨?_, ?_⟩, ?_⟩, hasIssues_map_fault.2 hpacks⟩, ?_⟩, ?_⟩ <;> decide +kernel
  exact exists_ok_of_clean rfl rfl partner.parsed (by decide +kernel) (by decide +kernel) hcycles

end Member

end GamePack
