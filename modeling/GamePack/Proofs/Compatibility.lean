import GamePack.Compatibility
import GamePack.Proofs.Finding
import GamePack.Proofs.Version
import GamePack.Parse
import GamePack.Sample.Packs
import Mathlib.Data.List.Flatten

namespace GamePack

def Finding.severity : Finding → Severity
  | issue _ => .error
  | warning _ => .warning

def Finding.standing (f : Finding) : Path × Severity := (f.path, f.severity)

def Config.forRuntime (c : Config) (runtime : String) (n : Nat) : Config :=
  { c with runtimeVersion := some runtime, featureGates := c.featureGates.take n }

def FeatureGate.place : Path := [.key "options", .key "featureGates"]

namespace Pack

def toldOfFeature (p : Pack) (c : Config) (runtime : String) (i : Nat) : List Finding :=
  (p.checkCompatibility (c.forRuntime runtime (i + 1))).drop
    (p.checkCompatibility (c.forRuntime runtime i)).length

variable {p : Pack} {c : Config} {runtime runtime' : String} {r r' introduced : Version}
  {g : FeatureGate} {path : Path} {f : Finding} {i : Nat}

theorem path_of_mem_checkEngine (hf : f ∈ p.checkEngine r) :
    f.path = [.key "metadata", .key "engine"] := by
  unfold checkEngine at hf
  split at hf
  · unfold Finding.ensure at hf
    split at hf
    · cases hf
    · rw [List.mem_singleton.1 hf]
      rfl
  · cases hf

theorem path_of_mem_checkGate (hf : f ∈ p.checkGate r path g) :
    f.path = path.key "introducedIn" ∨ f.path = [.key g.kind.key] := by
  unfold checkGate at hf
  split at hf
  · cases hf
  · split at hf
    · rw [List.mem_singleton.1 hf]
      exact .inl rfl
    · split at hf
      · rw [List.mem_singleton.1 hf]
        cases g.severity <;> exact .inr rfl
      · cases hf

theorem getElem?_path_of_mem_checkCompatibility (hf : f ∈ p.checkCompatibility c) (i : Nat) :
    f.path[1]? ≠ some (.index i) := by
  unfold checkCompatibility at hf
  split at hf
  · cases hf
  · split at hf
    · rw [List.mem_singleton.1 hf]
      exact nofun
    · rcases List.mem_append.1 hf with hf | hf
      · rw [path_of_mem_checkEngine hf]
        exact nofun
      · obtain ⟨j, g, -, hf⟩ := Path.mem_each.1 hf
        rcases path_of_mem_checkGate hf with hpath | hpath <;> rw [hpath] <;> exact nofun

theorem checkGate_ne_nil_iff (h : Version.parse g.introducedIn = .ok introduced) :
    p.checkGate r path g ≠ [] ↔ p.size g.kind ≠ 0 ∧ r < introduced := by
  rw [checkGate, h, Version.lt_iff_cmp, ← Std.OrientedCmp.gt_iff_lt]
  by_cases hsize : p.size g.kind = 0 <;> by_cases hcmp : introduced.cmp r = .gt <;>
    simp [hsize, hcmp]

/-- A later runtime is not told more of a gate than an earlier one, and if it is told
something then the same. -/
theorem checkGate_antitone (hle : r ≤ r') (h : p.checkGate r' path g ≠ []) :
    (p.checkGate r path g).map Finding.standing = (p.checkGate r' path g).map Finding.standing := by
  cases hparse : Version.parse g.introducedIn with
  | error e => simp only [checkGate, hparse]
  | ok introduced =>
    obtain ⟨hsize, hlt⟩ := (checkGate_ne_nil_iff hparse).1 h
    have hearlier : r < introduced := by
      rw [Version.lt_iff_cmp] at hlt ⊢
      exact Std.TransCmp.lt_of_isLE_of_lt hle hlt
    rw [Version.lt_iff_cmp, ← Std.OrientedCmp.gt_iff_lt] at hlt hearlier
    simp only [checkGate, hparse, if_neg hsize, if_pos hlt, if_pos hearlier]
    cases hseverity : g.severity <;> rfl

theorem checkCompatibility_forRuntime (h : Version.parse runtime = .ok r) (n : Nat) :
    p.checkCompatibility (c.forRuntime runtime n) =
      p.checkEngine r ++ FeatureGate.place.each (c.featureGates.take n) (p.checkGate r) := by
  rw [checkCompatibility, Config.forRuntime]
  simp only [h]
  rfl

theorem toldOfFeature_eq (h : Version.parse runtime = .ok r) (i : Nat) :
    p.toldOfFeature c runtime i =
    (c.featureGates[i]?.map (p.checkGate r (FeatureGate.place.index i))).getD [] := by
  rw [toldOfFeature, checkCompatibility_forRuntime h, checkCompatibility_forRuntime h,
    Path.each_take_succ, ← List.append_assoc, List.drop_left]

theorem checkCompatibility_step (h : Version.parse runtime = .ok r) (i : Nat) :
    p.checkCompatibility (c.forRuntime runtime (i + 1)) =
      p.checkCompatibility (c.forRuntime runtime i) ++ p.toldOfFeature c runtime i := by
  rw [toldOfFeature_eq h, checkCompatibility_forRuntime h, checkCompatibility_forRuntime h,
    Path.each_take_succ, List.append_assoc]

theorem checkCompatibility_run (h : Version.parse runtime = .ok r) (n : Nat) :
    p.checkCompatibility (c.forRuntime runtime n) =
      p.checkCompatibility (c.forRuntime runtime 0) ++
        (List.range n).flatMap (p.toldOfFeature c runtime) := by
  induction n with
  | zero => exact (List.append_nil _).symm
  | succ n ih =>
    rw [checkCompatibility_step h, ih, List.range_succ, List.flatMap_append, List.flatMap_singleton,
      List.append_assoc]

theorem toldOfFeature_antitone (h : Version.parse runtime = .ok r)
    (h' : Version.parse runtime' = .ok r') (hle : r ≤ r')
    (htold : p.toldOfFeature c runtime' i ≠ []) :
    (p.toldOfFeature c runtime i).map Finding.standing =
      (p.toldOfFeature c runtime' i).map Finding.standing := by
  rw [toldOfFeature_eq h'] at htold
  rw [toldOfFeature_eq h, toldOfFeature_eq h']
  cases hg : c.featureGates[i]? with
  | none => rfl
  | some g =>
    rw [hg] at htold
    exact checkGate_antitone hle htold

theorem toldOfFeature_ne_nil_iff (h : Version.parse runtime = .ok r)
    (hg : c.featureGates[i]? = some g)
    (hintroduced : Version.parse g.introducedIn = .ok introduced) :
    p.toldOfFeature c runtime i ≠ [] ↔ p.size g.kind ≠ 0 ∧ r < introduced := by
  rw [toldOfFeature_eq h, hg]
  exact checkGate_ne_nil_iff hintroduced

/-- The check tells of each gate in turn. Whatever it tells of a gate under a runtime it tells under
every earlier one, at the same place and with the same severity, so a later runtime has no more
findings about gates. A gate with a readable version is told of exactly if the pack has entries of
its kind and the runtime comes before that version. -/
theorem checkCompatibility_antitone (p : Pack) (c : Config) (h : Version.parse runtime = .ok r)
    (h' : Version.parse runtime' = .ok r') (hle : r ≤ r') :
    (p.checkCompatibility { c with runtimeVersion := some runtime } =
      p.checkCompatibility { c with runtimeVersion := some runtime, featureGates := [] } ++
        (List.range c.featureGates.length).flatMap (p.toldOfFeature c runtime)) ∧
    (∀ i, p.toldOfFeature c runtime' i ≠ [] → (p.toldOfFeature c runtime i).map Finding.standing =
      (p.toldOfFeature c runtime' i).map Finding.standing) ∧
    (((List.range c.featureGates.length).flatMap
        (p.toldOfFeature c runtime')).map Finding.standing).Sublist
      (((List.range c.featureGates.length).flatMap
        (p.toldOfFeature c runtime)).map Finding.standing) ∧
    ∀ i g introduced, c.featureGates[i]? = some g → Version.parse g.introducedIn = .ok introduced →
      (p.toldOfFeature c runtime i ≠ [] ↔ p.size g.kind ≠ 0 ∧ r < introduced) := by
  have hsublist (i : Nat) : ((p.toldOfFeature c runtime' i).map Finding.standing).Sublist
      ((p.toldOfFeature c runtime i).map Finding.standing) := by
    by_cases htold : p.toldOfFeature c runtime' i = []
    · rw [htold]
      exact List.nil_sublist _
    · exact toldOfFeature_antitone h h' hle htold ▸ List.Sublist.refl _
  refine ⟨?_, fun i ↦ toldOfFeature_antitone h h' hle, ?_,
    fun i g introduced ↦ toldOfFeature_ne_nil_iff h⟩
  · have hrun := checkCompatibility_run (p := p) (c := c) h c.featureGates.length
    rwa [Config.forRuntime, List.take_length] at hrun
  · rw [List.map_flatMap, List.map_flatMap]
    exact List.Sublist.flatMap_right _ fun i _ ↦ hsublist i

end Pack

def Sample.gated : Config :=
  { Config.initial with
    featureGates :=
      [⟨.metric, "9.0.0", .error⟩, ⟨.resource, "1.0.0", .warning⟩, ⟨.generator, "soon", .warning⟩] }

namespace Pack

theorem checkCompatibility_antitone_beta : ∃ p, (parse Sample.small).1 = some p ∧
    p.toldOfFeature Sample.gated "1.0.0-beta.2" 1 ≠ [] ∧
    (p.toldOfFeature Sample.gated "1.0.0-beta" 1).map Finding.standing =
      (p.toldOfFeature Sample.gated "1.0.0-beta.2" 1).map Finding.standing ∧
    p.toldOfFeature Sample.gated "1.0.0" 1 = [] := by
  obtain ⟨p, hp, hsize⟩ : ∃ p, (parse Sample.small).1 = some p ∧ p.size .resource ≠ 0 :=
    ⟨(parse Sample.small).1.get (by decide +kernel), (Option.some_get _).symm, by decide +kernel⟩
  have hbeta : Version.parse "1.0.0-beta" = .ok ⟨1, 0, 0, some "beta"⟩ := by rfl
  have hlater : Version.parse "1.0.0-beta.2" = .ok ⟨1, 0, 0, some "beta.2"⟩ := by rfl
  have hfinal : Version.parse "1.0.0" = .ok ⟨1, 0, 0, none⟩ := by rfl
  have hgate : Sample.gated.featureGates[1]? = some ⟨.resource, "1.0.0", .warning⟩ := rfl
  have hle : (⟨1, 0, 0, some "beta"⟩ : Version) ≤ ⟨1, 0, 0, some "beta.2"⟩ :=
    Version.le_iff_isLE.2 (by decide +kernel)
  have hlt : (⟨1, 0, 0, some "beta.2"⟩ : Version) < ⟨1, 0, 0, none⟩ :=
    Version.lt_iff_cmp.2 (by decide +kernel)
  have htold : p.toldOfFeature Sample.gated "1.0.0-beta.2" 1 ≠ [] :=
    (toldOfFeature_ne_nil_iff hlater hgate hfinal).2 ⟨hsize, hlt⟩
  obtain ⟨-, hsame, -⟩ := checkCompatibility_antitone p Sample.gated hbeta hlater hle
  refine ⟨p, hp, htold, hsame 1 htold, Decidable.byContradiction fun hfinally ↦ ?_⟩
  have hself := ((toldOfFeature_ne_nil_iff hfinal hgate hfinal).1 hfinally).2
  exact absurd (Version.lt_iff_cmp.1 hself) (by decide +kernel)

end Pack

end GamePack
