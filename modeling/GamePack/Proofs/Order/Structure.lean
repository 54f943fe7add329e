import GamePack.Compatibility
import GamePack.Proofs.Alike
import GamePack.Proofs.WellFormed

namespace GamePack

structure Pack.Shuffled (p q : Pack) : Prop where
  metadata : p.metadata = q.metadata
  collection : ∀ kind, (p.collection kind).Perm (q.collection kind)

namespace Structure

variable {p q : Pack}

theorem alike_ids {kind : Kind} (h : (p.ids kind).Perm (q.ids kind)) :
    Alike (ids p kind) (ids q kind) := by
  -- The findings about the shapes of ids are set apart from those about repetitions.
  have hparts (p : Pack) : Alike (ids p kind)
      ((p.ids kind).zipIdx.flatMap (fun x ↦ Finding.ensure (Id.isValid x.1)
          [.key kind.key, .index x.2, .key "id"] (.invalidId kind x.1)) ++
        (p.ids kind).zipIdx.flatMap fun x ↦ Finding.ensure (x.2 ≤ (p.ids kind).idxOf x.1)
          [.key kind.key, .index x.2, .key "id"]
            (.duplicateId kind x.1 ((p.ids kind).idxOf x.1))) :=
    .of_perm (List.flatMap_append_perm ..).symm
  have hshapes (ids : List String) :
      ids.zipIdx.countP (fun x ↦ !Id.isValid x.1) = ids.countP fun id ↦ !Id.isValid id := by
    conv_rhs => rw [← List.zipIdx_map_fst 0 ids, List.countP_map]
    rfl
  have hrepeated := countP_repeated_add_card (p.ids kind)
  have hrepeated' := countP_repeated_add_card (q.ids kind)
  rw [← h.length_eq, ← List.toFinset_eq_of_perm _ _ h] at hrepeated'
  refine (hparts p).trans (.trans (.append (.flatMap_ensure ?_) (.flatMap_ensure ?_))
    (hparts q).symm)
  · rw [hshapes, hshapes, h.countP_eq]
  · exact Nat.add_right_cancel (hrepeated.trans hrepeated'.symm)

theorem alike_resource (r : Resource) (path path' : Path) :
    Alike (resource path r) (resource path' r) :=
  .append (.ensure _ _ _ _ _) (.ensure _ _ _ _ _)

theorem alike_automation (a : Automation) (path path' : Path) :
    Alike (automation path a) (automation path' a) := by
  rw [automation, automation]
  split <;> exact .ensure _ _ _ _ _

theorem alike_transform (t : Transform) (path path' : Path) :
    Alike (transform path t) (transform path' t) := by
  rw [transform, transform]
  refine .append (.ensure _ _ _ _ _) ?_
  split <;> exact .ensure _ _ _ _ _

theorem alike_entity (e : Entity) (path path' : Path) : Alike (entity path e) (entity path' e) :=
  .flatMap (.refl _) fun _ _ ↦ .ensure _ _ _ _ _

theorem alike_locales (m : Metadata) (text : DisplayText) (path path' : Path) :
    Alike (locales m path text) (locales m path' text) := by
  refine .of_map_eq ?_
  rw [locales, locales, List.map_map, List.map_map]
  rfl

theorem alike_optionalLocales (m : Metadata) (text : Option DisplayText) (path path' : Path) :
    Alike (optionalLocales m path text) (optionalLocales m path' text) := by
  cases text with
  | none => exact .refl _
  | some text => exact alike_locales m text path path'

end Structure

namespace Pack.Shuffled

variable {p q : Pack}

theorem ids (h : p.Shuffled q) (kind : Kind) : (p.ids kind).Perm (q.ids kind) :=
  (h.collection kind).map _

theorem map_each_perm (h : p.Shuffled q) {kinds : List Kind} {β γ : Type}
    {f : (kind : Kind) → Path → kind.Entry → List β} {k : β → γ}
    (hf : ∀ kind path path' e, ((f kind path e).map k).Perm ((f kind path' e).map k)) :
    ((kinds.flatMap fun kind ↦ Path.each [.key kind.key] (p.collection kind) (f kind)).map k).Perm
      ((kinds.flatMap fun kind ↦
        Path.each [.key kind.key] (q.collection kind) (f kind)).map k) := by
  have heach (p : Pack) (kind : Kind) :
      ((Path.each [.key kind.key] (p.collection kind) (f kind)).map k).Perm
      ((p.collection kind).flatMap fun e ↦ (f kind [] e).map k) :=
    Path.map_each_perm fun e _ path ↦ hf kind path [] e
  rw [List.map_flatMap, List.map_flatMap]
  exact List.Perm.flatMap_left _ fun kind _ ↦
    (heach p kind).trans (((h.collection kind).flatMap_right _).trans (heach q kind).symm)

/-- The structure of a pack is found wanting as often in every order. -/
theorem alike_structure (h : p.Shuffled q) : Alike (Structure.check p) (Structure.check q) := by
  have hnames (kind : Kind) : Alike (Structure.names p kind) (Structure.names q kind) := by
    rw [Structure.names, Structure.names, h.metadata]
    exact .each (h.collection kind) fun e path path' ↦ Structure.alike_optionalLocales _ _ _ _
  rw [Structure.check, Structure.check, h.metadata]
  refine .append
    (.append (.append (.append (.append (.append (.append (.append ?_ ?_) ?_) ?_) ?_) ?_) ?_) ?_) ?_
  · exact .refl _
  · exact .flatMap (.refl _) fun kind _ ↦ Structure.alike_ids (h.ids kind)
  · exact .each (h.collection .resource) Structure.alike_resource
  · exact .each (h.collection .automation) Structure.alike_automation
  · exact .each (h.collection .transform) Structure.alike_transform
  · exact .each (h.collection .entity) Structure.alike_entity
  · exact .refl _
  · exact .refl _
  · exact .flatMap (.refl _) fun kind _ ↦ hnames kind

theorem checkCompatibility (h : p.Shuffled q) (c : Config) :
    p.checkCompatibility c = q.checkCompatibility c := by
  have hengine : p.checkEngine = q.checkEngine := by
    funext runtime
    rw [checkEngine, checkEngine, Pack.id, Pack.id, h.metadata]
  have hgate : p.checkGate = q.checkGate := by
    funext runtime path g
    rw [checkGate, checkGate, size, size, (h.collection g.kind).length_eq]
  rw [Pack.checkCompatibility, Pack.checkCompatibility, hengine, hgate]

end Pack.Shuffled

end GamePack
