import GamePack.Proofs.Order.PackCycle
import GamePack.Proofs.Siblings
import GamePack.Proofs.Verdict

namespace GamePack

namespace Text

theorem exists_digitChar_of_mem_toDigits {n : Nat} {c : Char} (h : c ∈ Nat.toDigits 16 n) :
    ∃ d, c = Nat.digitChar d := by
  induction n using Nat.strong_induction_on with
  | h n ih =>
    rw [Nat.toDigits_eq_if (by decide)] at h
    split at h
    · exact ⟨n, List.mem_singleton.1 h⟩
    · rename_i hle
      rcases List.mem_append.1 h with hhead | hlast
      · exact ih (n / 16) (by omega) hhead
      · exact ⟨n % 16, List.mem_singleton.1 hlast⟩

theorem exists_digitChar_of_mem_hex {width n : Nat} {c : Char} (h : c ∈ hex width n) :
    ∃ d, c = Nat.digitChar d := by
  rcases List.mem_append.1 h with hzero | hdigit
  · exact ⟨0, List.eq_of_mem_replicate hzero⟩
  · exact exists_digitChar_of_mem_toDigits hdigit

theorem le_length_hex (width n : Nat) : width ≤ (hex width n).length := by
  rw [hex, List.length_append, List.length_replicate]
  omega

end Text

theorem Digest.not_suffix_render (d : Digest) (before : List Char) :
    ¬ " invalid".toList <:+ before ++ d.render.toList := by
  intro h
  have hdigits : " invalid".toList <:+ Text.hex 8 d.value.toNat := by
    refine List.suffix_of_suffix_length_le h ?_ (Text.le_length_hex 8 _)
    simp only [render, String.toList_append, String.toList_ofList, ← List.append_assoc]
    exact List.suffix_append _ _
  obtain ⟨n, hn⟩ :=
    Text.exists_digitChar_of_mem_hex (hdigits.subset (by decide : 'i' ∈ " invalid".toList))
  exact Nat.digitChar_ne 'i' rfl hn.symm

namespace Report

/-- Whether the line of a report ends as the lines of invalid files do. -/
def SaysInvalid (r : Report) : Prop := ∃ before, r.digestLine = before ++ " invalid\n"

variable {r : Report}

theorem digestLine_of_some {digest : Digest} {id : String} (hdigest : r.digest? = some digest)
    (hid : r.packId = some id) : r.digestLine = s!"{id} {digest.render}\n" := by
  rw [digestLine, hdigest, hid]

theorem digestLine_of_none (h : r.digest? = none ∨ r.packId = none) :
    r.digestLine = s!"{r.path} invalid\n" := by
  rw [digestLine]
  split
  · rename_i hdigest hid
    rw [hdigest, hid] at h
    simp at h
  · rfl

theorem saysInvalid_iff : r.SaysInvalid ↔ r.digest? = none ∨ r.packId = none := by
  refine ⟨fun ⟨before, hline⟩ ↦ ?_, fun h ↦ ⟨r.path, digestLine_of_none h⟩⟩
  by_contra hboth
  rw [not_or, ← ne_eq, Option.ne_none_iff_exists', ← ne_eq, Option.ne_none_iff_exists'] at hboth
  obtain ⟨⟨digest, hdigest⟩, id, hid⟩ := hboth
  have hline : (id ++ " " ++ digest.render).toList ++ "\n".toList = (before ++ " invalid").toList ++
      "\n".toList := by
    rw [← String.toList_append, ← String.toList_append]
    refine congrArg String.toList (((digestLine_of_some hdigest hid).symm.trans hline).trans ?_)
    exact (String.append_assoc : before ++ " invalid" ++ "\n" = before ++ (" invalid" ++ "\n")).symm
  have hsuffix := congrArg (" invalid".toList <:+ ·) (List.append_cancel_right hline)
  simp only [String.toList_append] at hsuffix
  exact digest.not_suffix_render _ (hsuffix.mpr (List.suffix_append _ _))

end Report

def Json.KeysMetadata (doc : Json) : Prop := ∃ fields, doc.field? "metadata" = some (.obj fields)

/-- The id that a document shows of the pack read from it: its own, unless the
metadata are an array. -/
theorem Json.packId?_of_parse {doc : Json} {p : Pack} (h : (Pack.parse doc).1 = some p) :
    doc.KeysMetadata ∧ doc.packId? = some p.metadata.id ∨ ¬ doc.KeysMetadata ∧
    doc.packId? = none := by
  obtain ⟨metadata, hmetadata, hread⟩ := KnownPack.exists_metadata_of_parse h
  have hid : doc.packId? = (metadata.field? "id").bind str? := by
    rw [packId?, at?, hmetadata, Option.bind_some, at?]
    exact congrArg (Option.bind · str?) (Option.bind_fun_some _)
  rw [hid, KeysMetadata, hmetadata]
  cases hfields : metadata.fields? with
  | none =>
    refine .inr ⟨?_, by rw [field?_eq_none hfields]; rfl⟩
    rintro ⟨fields, hobj⟩
    rw [Option.some.inj hobj] at hfields
    cases hfields
  | some fields =>
    obtain rfl := eq_obj_of_fields? hfields
    have hlookup :=
      (Metadata.lookup_of_decoder (v := ⟨.obj fields, Nat.lt_succ_self _⟩) rfl hread).1
    exact .inl ⟨⟨fields, rfl⟩, by rw [field?, hlookup]; rfl⟩

namespace Cache

theorem exists_use_of_get? (uses : List (Option BalanceCheck × Request)) {key : CacheKey}
    {outcome : Outcome} (h : (ofUses uses).get? key = some outcome) :
    ∃ check c doc, (check, .validate c doc) ∈ uses ∧
      CacheKey.of c doc = key ∧ (GamePack.validate check c doc).outcome = outcome := by
  induction uses using List.reverseRecOn with
  | nil => cases h
  | append_singleton uses u ih =>
    rw [ofUses, List.foldl_concat] at h
    have hbefore (h : (ofUses uses).get? key = some outcome) : ∃ check c doc,
        (check, .validate c doc) ∈ uses ++ [u] ∧ CacheKey.of c doc = key ∧
          (GamePack.validate check c doc).outcome = outcome := by
      obtain ⟨check, c, doc, hmem, huse⟩ := ih h
      exact ⟨check, c, doc, List.mem_append_left _ hmem, huse⟩
    obtain ⟨check, request⟩ := u
    cases request with
    | clear => cases h
    | validate c doc =>
      cases hkey : (ofUses uses).get? (.of c doc) with
      | some remembered =>
        have hsame : (ofUses uses).serve check (.validate c doc) = ofUses uses := by
          rw [serve, validate_of_some hkey]
        exact hbefore (hsame ▸ h)
      | none =>
        have hnew : (ofUses uses).serve check (.validate c doc) =
            (ofUses uses).insert (.of c doc) (GamePack.validate check c doc).outcome := by
          rw [serve, validate_of_none hkey]
        rw [show uses.foldl _ empty = ofUses uses from rfl, hnew, get?_insert] at h
        split at h
        · rename_i hsame
          exact ⟨check, c, doc, List.mem_append_right _ (List.mem_singleton_self _), hsame.symm,
            Option.some_inj.1 h⟩
        · exact hbefore h

end Cache

namespace Options

variable {o : Options} {doc : Json}

/-- Whether a cache, if there is one, was used for no other document under a key of this one. -/
def Distinguishes (o : Options) (doc : Json) : Prop :=
  ∀ uses, o.uses = some uses → ∀ check c doc', (check, .validate c doc') ∈ uses →
    CacheKey.of c doc' = CacheKey.of o.config doc → doc' = doc

theorem exists_validate (h : o.Distinguishes doc) :
    ∃ check c, (o.validate doc).outcome = (GamePack.validate check c doc).outcome := by
  unfold validate
  cases huses : o.uses with
  | none => exact ⟨o.check, o.config, rfl⟩
  | some uses =>
    dsimp only
    cases hkey : (Cache.ofUses uses).get? (.of o.config doc) with
    | none => exact ⟨o.check, o.config, by rw [Cache.validate_of_none hkey]⟩
    | some outcome =>
      obtain ⟨check, c, doc', huse, hsame, rfl⟩ := Cache.exists_use_of_get? uses hkey
      obtain rfl := h uses huses check c doc' huse hsame
      exact ⟨check, c, by rw [Cache.validate_of_some hkey]⟩

/-- The line of a document says that it is invalid exactly if it is not accepted or shows no id. An
accepted document shows none exactly if its metadata are not given by key; otherwise its line is the
id and the digest of its pack. -/
theorem digestLine_report (o : Options) (path : String) (doc : Json) :
    let r := o.report path doc
    (r.SaysInvalid ↔ (∃ e, r.run.outcome = .error e) ∨ doc.packId? = none) ∧
      (r.SaysInvalid → r.digestLine = s!"{path} invalid\n") ∧
      ∀ v, r.run.outcome = .ok v → o.Distinguishes doc →
        (doc.packId? = none ↔ ¬ doc.KeysMetadata) ∧
          (doc.KeysMetadata → r.digestLine = s!"{v.pack.id} {v.pack.digest.render}\n") := by
  intro r
  have hdigest : r.digest? = none ↔ ∃ e, r.run.outcome = .error e := by
    rw [Report.digest?]
    cases r.run.outcome <;> simp
  refine ⟨Report.saysInvalid_iff.trans (or_congr_left hdigest),
    fun h ↦ Report.digestLine_of_none (Report.saysInvalid_iff.1 h), ?_⟩
  intro v hv hcache
  obtain ⟨check, c, hrun⟩ := exists_validate hcache
  obtain ⟨p, hparse, hpack⟩ := exists_pack_of_validate (hrun.symm.trans hv)
  have haccepted : r.digest? = some v.pack.digest := by rw [Report.digest?, hv]
  rcases Json.packId?_of_parse hparse with ⟨hkeyed, hid⟩ | ⟨hkeyed, hid⟩
  · refine ⟨by simp [hid, hkeyed], fun _ ↦ ?_⟩
    rw [Report.digestLine_of_some haccepted hid, hpack]
    rfl
  · exact ⟨by simp [hid, hkeyed], fun h ↦ absurd h hkeyed⟩

theorem outcome_validate_again (check : Option BalanceCheck) (c : Config) (doc : Json) :
    ((Options.mk check c (some [(check, .validate c doc)])).validate doc).outcome =
      (GamePack.validate check c doc).outcome := by
  have hremembered : (Cache.ofUses [(check, .validate c doc)]).get? (.of c doc) =
      some (GamePack.validate check c doc).outcome := by
    rw [Cache.ofUses, List.foldl_cons, List.foldl_nil, Cache.serve, Cache.validate_of_none rfl,
      Cache.get?_insert, if_pos rfl]
  unfold validate
  dsimp only
  rw [Cache.validate_of_some hremembered]

theorem digestLine_report_small :
    let o : Options := ⟨none, .initial, some [(none, .validate .initial Sample.small)]⟩
    o.Distinguishes Sample.small ∧ Sample.small.KeysMetadata ∧
      ∃ v, (o.report "small.json" Sample.small).run.outcome = .ok v ∧
        (o.report "small.json" Sample.small).digestLine =
          s!"{v.pack.id} {v.pack.digest.render}\n" := by
  intro o
  have hcache : o.Distinguishes Sample.small := by
    intro uses huses check c doc huse _
    obtain rfl := Option.some_inj.1 huses
    obtain ⟨-, hrequest⟩ := Prod.mk.inj (List.mem_singleton.1 huse)
    exact (Request.validate.inj hrequest).2
  have hkeyed : Sample.small.KeysMetadata := ⟨_, rfl⟩
  obtain ⟨v, hv⟩ := Sample.small_accepted
  have hv : (o.validate Sample.small).outcome = .ok v :=
    (outcome_validate_again none .initial Sample.small).trans hv
  exact ⟨hcache, hkeyed, v, hv,
    ((digestLine_report o "small.json" Sample.small).2.2 v hv hcache).2 hkeyed⟩

/-- A pack is read from the array and accepted, and yet its line says that it is invalid. -/
theorem digestLine_report_positional :
    let r := (Options.mk none .initial none).report "a.json" positional
    ∃ v, r.run.outcome = .ok v ∧ v.pack.id = "p" ∧ r.digestLine = "a.json invalid\n" := by
  intro r
  let p := (Pack.parse positional).1.get (by decide +kernel)
  have hparse : (Pack.parse positional).1 = some p := (Option.some_get _).symm
  have htransforms : p.transformGraph.cycles (p.ids .transform) .first = [] :=
    Graph.cycles_of_cyclesWithin (n := 3) (by decide +kernel)
  have hunlocks : p.unlockGraph.cycles p.unlockNodes .first = [] :=
    Graph.cycles_of_cyclesWithin (n := 3) (by decide +kernel)
  have hpacks : (p.metadata.dependencyGraph []).cycles [p.metadata.id] .first = [] :=
    Graph.cycles_of_cyclesWithin (n := 3) (by decide +kernel)
  have hcycles : hasIssues (p.checkCycles .initial) = false :=
    Pack.hasIssues_checkCycles_of_acyclic htransforms hunlocks hpacks (by decide +kernel)
      (by decide +kernel)
  obtain ⟨v, hv⟩ :=
    exists_ok_of_clean rfl rfl hparse (by decide +kernel) (by decide +kernel) hcycles
  obtain ⟨q, hread, hpack⟩ := exists_pack_of_validate hv
  obtain rfl : q = p := Option.some_inj.1 (hread.symm.trans hparse)
  refine ⟨v, hv, ?_, Report.digestLine_of_none (.inr (by decide +kernel))⟩
  rw [hpack]
  decide +kernel

end Options

end GamePack
