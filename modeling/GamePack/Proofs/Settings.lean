import GamePack.Config
import GamePack.Proofs.Decode.Restores

namespace GamePack

open Decode Fields.Reads

variable {n n' : Nat} {α β : Type} {order : FieldOrder}

theorem Step.restores :
    Restores order (Step.decoder (n := n)) (Step.decoder (n := n')) Step.encode := by
  intro mode v s h
  rcases orElse_eq_ok.1 h with h | ⟨-, h⟩
  · obtain ⟨i, hi, rfl⟩ := map_eq_ok.1 h
    have hreads : Reads order (nat64 (n := n')) (.ofNat i) i := .nat64 (natBelow_eq_ok.1 hi).2
    exact ⟨fun _ v hv ↦ orElse_eq_ok.2 (.inl (hreads.map .aside v hv)), nofun⟩
  · obtain ⟨key, -, rfl⟩ := map_eq_ok.1 h
    refine ⟨.atom rfl rfl fun mode v hv ↦ orElse_eq_ok.2 (.inr ⟨fun b hb ↦ ?_, ?_⟩), nofun⟩
    · obtain ⟨i, hi, -⟩ := map_eq_ok.1 hb
      cases hv.symm.trans (natBelow_eq_ok.1 hi).1
    · exact map_eq_ok.2 ⟨key, string_eq_ok.2 hv, rfl⟩

theorem Path.restores :
    Restores order (Path.decoder (n := n)) (Path.decoder (n := n')) Path.encode :=
  Step.restores.list

theorem AllowlistSpec.reads (s : AllowlistSpec) :
    Reads order (AllowlistSpec.decoder (n := n)) s.encode s :=
  .lenient ((listed fun _ _ ↦ .string).map.seq (listed fun _ _ ↦ .string))
    (by decide : ["required", "soft"].Nodup)

theorem AllowlistSpecs.reads (s : AllowlistSpecs) :
    Reads order (AllowlistSpecs.decoder (n := n)) s.encode s :=
  .lenient ((optional AllowlistSpec.reads nofun).map.seq (optional AllowlistSpec.reads nofun)
    |>.seq (optional AllowlistSpec.reads nofun))
    (by decide : ["flags", "scripts", "systemAutomationTargets"].Nodup)

theorem KnownPack.reads (k : KnownPack) : Reads order (KnownPack.decoder (n := n)) k.encode k :=
  .lenient ((required .string).map.seq (required .string) |>.seq (listed fun _ _ ↦ .string))
    (by decide : ["id", "version", "requires"].Nodup)

theorem Kind.reads_label {label : Kind → String} (hnodup : (all.map label).Nodup) (kind : Kind) :
    Reads order (Decode.choice (n := n) (all.map fun kind ↦ (label kind, kind)))
      (.str (label kind)) kind := by
  have hname : encodeName (all.map fun kind ↦ (label kind, kind)) kind = .str (label kind) := by
    cases kind <;> rfl
  refine hname ▸ .choice ?_ ?_ <;> rw [List.map_map]
  · exact hnodup
  · exact List.mem_map.2 ⟨kind, kind.mem_all, rfl⟩

theorem Kind.reads_name (kind : Kind) : Reads order (Kind.decoder (n := n)) (.str kind.name) kind :=
  reads_label (by decide) kind

theorem Kind.reads_key (kind : Kind) :
    Reads order (Kind.keyDecoder (n := n)) (.str kind.key) kind :=
  reads_label (by decide) kind

theorem Severity.reads (s : Severity) :
    Reads order (Severity.decoder (n := n)) (encodeName names s) s :=
  .choice (by decide) (by cases s <;> decide)

theorem FeatureGate.reads (g : FeatureGate) :
    Reads order (FeatureGate.decoder (n := n)) g.encode g :=
  .lenient ((required g.kind.reads_key).map.seq (required .string)
    |>.seq (defaulted g.severity.reads))
    (by decide : ["module", "introducedIn", "severity"].Nodup)

theorem BalanceSettings.reads {b : BalanceSettings} (h : b.config.inOrder order = b.config) :
    Reads order (BalanceSettings.decoder (n := n)) b.encode b :=
  .lenient ((defaulted .bool).map.seq (defaulted .bool) |>.seq (defaulted (.any h)))
    (by decide : ["enabled", "warnOnly", "config"].Nodup)

theorem Fields.Leaves.exists_last {f : Fields n (β → α)} (hf : f.Leaves) {name title : String}
    {b₀ : β} {d : Decoder n β} {mode : Mode} {v : Below n} {a : α} (hv : v.1.sorted = v.1)
    (h : (f <*> .defaulted name b₀ d).lenient title mode v = .ok a) :
    ∃ g b, f.Yields g ∧ g b = a ∧ (b = b₀ ∨ ∃ mode w, w.1.sorted = w.1 ∧ d mode w = .ok b) := by
  obtain ⟨v, below⟩ := v
  cases v with
  | obj fields =>
    obtain ⟨g, hg, b, hb, rfl⟩ := Fields.keyed_seq.1 (Fields.ofObject_eq_ok.1 h).1
    refine ⟨g, b, .inl ⟨mode, _, hg⟩, rfl, ?_⟩
    rcases Fields.keyed_field.1 hb with ⟨w, hw, hrun⟩ | ⟨-, heq⟩
    · exact .inr ⟨mode, w, sorted_of_mem_fieldsBelow hv (mem_of_lookup hw), hrun⟩
    · exact .inl (Option.some.inj heq).symm
  | arr items =>
    obtain ⟨g, mid, hg, b, hb, rfl⟩ := Fields.placed_seq.1 (Fields.ofArray_eq_ok.1 h)
    refine ⟨g, b, .inr ⟨mode, _, _, _, mid, hg⟩, rfl, ?_⟩
    rcases Fields.placed_field.1 hb with ⟨w, hmid, hrun⟩ | ⟨-, -, heq⟩
    · have hmem : w ∈ itemsBelow items (Nat.lt_succ_of_lt below) := by
        refine List.mem_of_mem_drop (i := f.names.length) ?_
        rw [← hf hg, hmid]
        exact List.mem_cons_self
      exact .inr ⟨mode, w, sorted_of_mem_itemsBelow hv hmem, hrun⟩
    · exact .inl (Option.some.inj heq).symm
  | _ => cases h

theorem Config.reads {c : Config} (h : c.balance.config.inOrder order = c.balance.config) :
    Reads order (Config.decoder (n := n)) c.encode c :=
  .lenient ((defaulted c.allowlists.reads).map.seq (optional (fun _ ↦ .string) nofun)
    |>.seq (listed fun g _ ↦ g.reads) |>.seq (listed fun k _ ↦ k.reads)
      |>.seq (listed fun _ _ ↦ .string)
    |>.seq (listed fun _ _ ↦ .string) |>.seq (optional Severity.reads nofun)
    |>.seq (defaulted (BalanceSettings.reads h)))
    (by decide : ["allowlists", "runtimeVersion", "featureGates", "knownPacks",
      "runtimeEventCatalogue", "activePackIds", "unknownRuntimeEventSeverity", "balance"].Nodup)

/-- A sorted document gives settings whose document is sorted. -/
theorem BalanceSettings.sorted_config {mode : Mode} {v : Below n} {b : BalanceSettings}
    (h : decoder mode v = .ok b) (hv : v.1.sorted = v.1) : b.config.sorted = b.config := by
  obtain ⟨g, config, hg, rfl, hconfig⟩ := (Fields.Leaves.field.map.seq .field).exists_last hv h
  obtain ⟨_, _, hfirst, -, rfl⟩ := hg.exists_of_seq
  obtain ⟨_, -, rfl⟩ := hfirst.exists_of_map
  rcases hconfig with rfl | ⟨mode, w, hw, hrun⟩
  · rfl
  · exact Except.ok.inj hrun ▸ hw

theorem Config.sorted_config {mode : Mode} {v : Below n} {c : Config} (h : decoder mode v = .ok c)
    (hv : v.1.sorted = v.1) : c.balance.config.sorted = c.balance.config := by
  obtain ⟨g, balance, hg, rfl, hbalance⟩ :=
    (Fields.Leaves.field.map.seq .field |>.seq .field |>.seq .field
    |>.seq .field |>.seq .field |>.seq .field).exists_last hv h
  obtain ⟨_, _, hsix, -, rfl⟩ := hg.exists_of_seq
  obtain ⟨_, _, hfive, -, rfl⟩ := hsix.exists_of_seq
  obtain ⟨_, _, hfour, -, rfl⟩ := hfive.exists_of_seq
  obtain ⟨_, _, hthree, -, rfl⟩ := hfour.exists_of_seq
  obtain ⟨_, _, htwo, -, rfl⟩ := hthree.exists_of_seq
  obtain ⟨_, _, hone, -, rfl⟩ := htwo.exists_of_seq
  obtain ⟨_, -, rfl⟩ := hone.exists_of_map
  rcases hbalance with rfl | ⟨mode, w, hw, hrun⟩
  · rfl
  · exact BalanceSettings.sorted_config hrun hw

end GamePack
