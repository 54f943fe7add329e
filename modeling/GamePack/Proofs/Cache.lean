import GamePack.Cache
import GamePack.Proofs.Run
import GamePack.Proofs.Soundness
import Mathlib.Data.Finset.Card

namespace GamePack

inductive Request
  | validate (c : Config) (doc : Json)
  | clear

namespace Request

def key? : Request → Option CacheKey
  | validate c doc => some (.of c doc)
  | clear => none

def recent (requests : List Request) : List CacheKey :=
  (requests.reverse.takeWhile (·.key?.isSome)).filterMap key?

@[simp]
theorem recent_validate (requests : List Request) (c : Config) (doc : Json) :
    recent (requests ++ [validate c doc]) = .of c doc :: recent requests := by
  simp [recent, key?]

@[simp]
theorem recent_clear (requests : List Request) : recent (requests ++ [clear]) = [] := by
  simp [recent, key?]

/-- Whether calls that share a key are the same call. -/
def KeysDiffer (requests : List Request) : Prop :=
  ∀ c doc c' doc', validate c doc ∈ requests → validate c' doc' ∈ requests →
    CacheKey.of c doc = CacheKey.of c' doc' → c = c' ∧ doc = doc'

end Request

theorem CacheKey.input_of (c : Config) (doc : Json) :
    (of c doc).input = (Text.units doc.chars).foldl Fnv.step Fnv.offsetBasis := by
  rw [of, Fnv.hash, Json.compact, String.toList_ofList]

namespace Cache

variable {cache : Cache} {key : CacheKey} {outcome : Outcome}

section

variable {m : Type → Type} [Monad m]

theorem getOrRun_of_some (h : cache.get? key = some outcome) (compute : m Run) :
    cache.getOrRun key compute = pure (cache, ⟨[], outcome⟩, true) := by
  rw [getOrRun, h]

theorem getOrRun_of_none (h : cache.get? key = none) (compute : m Run) :
    cache.getOrRun key compute = do
      let run ← compute
      return (cache.insert key run.outcome, run, false) := by
  rw [getOrRun, h]

end

variable {check : Option BalanceCheck} {c : Config} {doc : Json}

theorem validate_of_some (h : cache.get? (.of c doc) = some outcome) :
    cache.validate check c doc = (cache, ⟨replay (.of c doc) outcome, outcome⟩) := by
  rw [validate, getOrRun_of_some h]
  exact congrArg (fun events ↦ (cache, (⟨events, outcome⟩ : Run))) (List.append_nil _)

theorem validate_of_none (h : cache.get? (.of c doc) = none) : cache.validate check c doc =
    (cache.insert (.of c doc) (GamePack.validate check c doc).outcome,
      GamePack.validate check c doc) := by
  rw [validate, getOrRun_of_none h]
  rfl

theorem isSome_get? : (cache.get? key).isSome ↔ key ∈ cache.outcomes.map (·.1) := by
  rw [get?, List.lookup_isSome_iff, List.mem_map]
  exact exists_congr fun e ↦ and_congr_right fun _ ↦ by rw [beq_iff_eq, eq_comm]

theorem get?_insert (key' : CacheKey) :
    (cache.insert key outcome).get? key' =
      if key' = key then some outcome else cache.get? key' := by
  rw [get?, insert, List.lookup_cons]
  split <;> simp_all [get?]

end Cache

/-- A cache in use, with the keys for which the pipeline ran, the latest first. -/
structure Session where
  cache : Cache
  runs : List CacheKey

namespace Session

variable (check : Option BalanceCheck)

def start : Session := ⟨.empty, []⟩

def noted (c : Config) (doc : Json) : StateM (List CacheKey) Run := do
  modify (.of c doc :: ·)
  return validate check c doc

def call (c : Config) (doc : Json) (s : Session) : Run × Bool × Session :=
  let ((cache, run, hit), runs) := (s.cache.getOrRun (.of c doc) (noted check c doc)).run s.runs
  (run, hit, ⟨cache, runs⟩)

def serve (s : Session) : Request → Session
  | .validate c doc => (s.call check c doc).2.2
  | .clear => { s with cache := s.cache.clear }

def after (requests : List Request) : Session := requests.foldl (serve check) start

variable {check} {s : Session} {c : Config} {doc : Json}

theorem call_of_some {outcome : Outcome} (h : s.cache.get? (.of c doc) = some outcome) :
    s.call check c doc = (⟨[], outcome⟩, true, s) := by
  rw [call, Cache.getOrRun_of_some h]
  rfl

theorem call_of_none (h : s.cache.get? (.of c doc) = none) : s.call check c doc =
    (validate check c doc, false,
      ⟨s.cache.insert (.of c doc) (validate check c doc).outcome, .of c doc :: s.runs⟩) := by
  rw [call, Cache.getOrRun_of_none h]
  rfl

theorem validate_eq_call : (s.cache.validate check c doc).1 = (s.call check c doc).2.2.cache ∧
    (s.cache.validate check c doc).2.outcome = (s.call check c doc).1.outcome := by
  cases h : s.cache.get? (.of c doc) with
  | some outcome =>
    rw [Cache.validate_of_some h, call_of_some h]
    exact ⟨rfl, rfl⟩
  | none =>
    rw [Cache.validate_of_none h, call_of_none h]
    exact ⟨rfl, rfl⟩

theorem after_concat (requests : List Request) (r : Request) :
    after check (requests ++ [r]) = (after check requests).serve check r := by
  rw [after, List.foldl_concat]
  rfl

structure Remembers (check : Option BalanceCheck) (requests : List Request) (cache : Cache) :
    Prop where
  keys : cache.outcomes.map (·.1) = (Request.recent requests).dedup
  computed : ∀ key outcome, cache.get? key = some outcome →
    ∃ earlier c doc later, requests = earlier ++ .validate c doc :: later ∧ .clear ∉ later ∧
      CacheKey.of c doc = key ∧ key ∉ Request.recent earlier ∧
        (validate check c doc).outcome = outcome

theorem Remembers.mem_recent {requests : List Request} {cache : Cache}
    (h : Remembers check requests cache) (key : CacheKey) :
    (cache.get? key).isSome ↔ key ∈ Request.recent requests := by
  rw [Cache.isSome_get?, h.keys, List.mem_dedup]

theorem Remembers.serve {requests : List Request} (h : Remembers check requests s.cache)
    (r : Request) : Remembers check (requests ++ [r]) (s.serve check r).cache := by
  have hlater {key : CacheKey} {outcome : Outcome} {c : Config} {doc : Json}
      (hkey : s.cache.get? key = some outcome) :
      ∃ earlier c' doc' later, requests ++ [.validate c doc] =
        earlier ++ .validate c' doc' :: later ∧
        .clear ∉ later ∧ CacheKey.of c' doc' = key ∧ key ∉ Request.recent earlier ∧
        (validate check c' doc').outcome = outcome := by
    obtain ⟨earlier, c', doc', later, rfl, hclear, hrest⟩ := h.computed _ _ hkey
    refine ⟨earlier, c', doc', later ++ [.validate c doc], ?_, ?_, hrest⟩
    · rw [List.append_assoc, List.cons_append]
    · simpa using hclear
  cases r with
  | clear =>
    refine ⟨?_, fun key outcome hkey ↦ by cases hkey⟩
    rw [Request.recent_clear]
    rfl
  | validate c doc =>
    rw [Session.serve]
    cases hkey : s.cache.get? (.of c doc) with
    | some outcome =>
      rw [call_of_some hkey]
      have hmem := (h.mem_recent _).1 (Option.isSome_of_eq_some hkey)
      refine ⟨?_, fun key outcome ↦ hlater⟩
      rw [Request.recent_validate, List.dedup_cons_of_mem hmem, h.keys]
    | none =>
      rw [call_of_none hkey]
      have hmem : CacheKey.of c doc ∉ Request.recent requests := by
        rw [← h.mem_recent, hkey]
        exact Bool.false_ne_true
      refine ⟨?_, fun key outcome hfound ↦ ?_⟩
      · rw [Request.recent_validate, List.dedup_cons_of_notMem hmem, ← h.keys]
        rfl
      · rw [Cache.get?_insert] at hfound
        split at hfound
        · rename_i heq
          obtain rfl := heq
          exact ⟨requests, c, doc, [], rfl, List.not_mem_nil, rfl, hmem, Option.some_inj.1 hfound⟩
        · exact hlater hfound

theorem remembers_after (check : Option BalanceCheck) (requests : List Request) :
    Remembers check requests (after check requests).cache := by
  induction requests using List.reverseRecOn with
  | nil => exact ⟨rfl, fun key outcome hkey ↦ by cases hkey⟩
  | append_singleton requests r ih =>
    rw [after_concat]
    exact ih.serve r

theorem hit_iff (check : Option BalanceCheck) (requests : List Request) (c : Config) (doc : Json) :
    ((after check requests).call check c doc).2.1 = true ↔
      CacheKey.of c doc ∈ Request.recent requests := by
  rw [← (remembers_after check requests).mem_recent]
  cases h : (after check requests).cache.get? (.of c doc) with
  | some outcome => simp [call_of_some h]
  | none => simp [call_of_none h]

theorem runs_calls {before calls : List Request} (hbefore : Request.recent before = [])
    (hcalls : .clear ∉ calls) : (after check (before ++ calls)).runs =
      (Request.recent (before ++ calls)).dedup ++ (after check before).runs := by
  induction calls using List.reverseRecOn with
  | nil => simp [hbefore]
  | append_singleton calls r ih =>
    cases r with
    | clear => simp at hcalls
    | validate c doc =>
      have ih := ih fun h ↦ hcalls (List.mem_append_left _ h)
      have hmem := (remembers_after check (before ++ calls)).mem_recent (.of c doc)
      rw [← List.append_assoc, after_concat, Request.recent_validate, serve]
      cases h : (after check (before ++ calls)).cache.get? (.of c doc) with
      | some outcome =>
        rw [call_of_some h, ih, List.dedup_cons_of_mem (hmem.1 (Option.isSome_of_eq_some h))]
      | none =>
        rw [h] at hmem
        rw [call_of_none h, List.dedup_cons_of_notMem fun hk ↦ Bool.false_ne_true (hmem.2 hk), ih]
        rfl

theorem mem_recent_calls {before calls : List Request} (hbefore : Request.recent before = [])
    (hcalls : .clear ∉ calls) (key : CacheKey) :
    key ∈ Request.recent (before ++ calls) ↔ ∃ r ∈ calls, r.key? = some key := by
  induction calls using List.reverseRecOn with
  | nil => simp [hbefore]
  | append_singleton calls r ih =>
    cases r with
    | clear => simp at hcalls
    | validate c doc =>
      have ih := ih fun h ↦ hcalls (List.mem_append_left _ h)
      rw [← List.append_assoc, Request.recent_validate, List.mem_cons, ih]
      simp only [List.mem_append, List.mem_singleton, or_and_right, exists_or,
        exists_eq_left, Request.key?, Option.some.injEq]
      rw [or_comm, eq_comm (a := key)]

structure Transparent (check : Option BalanceCheck) (requests : List Request) : Prop where
  outcome : ∀ before c doc rest, requests = before ++ .validate c doc :: rest →
    ∃ run, (after check before).cache.validate check c doc =
        ((after check (before ++ [.validate c doc])).cache, run) ∧
      run.outcome = (validate check c doc).outcome
  hit : ∀ before c doc rest, requests = before ++ .validate c doc :: rest →
    (((after check before).call check c doc).2.1 = true ↔ CacheKey.of c doc ∈ Request.recent before)
  size : ∀ before rest, requests = before ++ rest →
    (after check before).cache.size = (Request.recent before).toFinset.card
  /-- From the start or a clearing on, the pipeline runs exactly once for each key
  that is asked for. -/
  once : ∀ before calls rest, requests = before ++ calls ++ rest →
    before = [] ∨ before.getLast? = some .clear → .clear ∉ calls →
    ∃ runs, (after check (before ++ calls)).runs = runs ++ (after check before).runs ∧ runs.Nodup ∧
      ∀ key, key ∈ runs ↔ ∃ r ∈ calls, r.key? = some key

theorem outcome_eq {requests before rest : List Request} {c : Config} {doc : Json}
    (h : Request.KeysDiffer requests) (hsplit : requests = before ++ .validate c doc :: rest) :
    ((after check before).call check c doc).1.outcome = (validate check c doc).outcome := by
  cases hkey : (after check before).cache.get? (.of c doc) with
  | none => rw [call_of_none hkey]
  | some outcome =>
    rw [call_of_some hkey]
    obtain ⟨earlier, c', doc', later, rfl, -, hsame, -, rfl⟩ :=
      (remembers_after check before).computed _ _ hkey
    obtain ⟨rfl, rfl⟩ := h c' doc' c doc (by simp [hsplit]) (by simp [hsplit]) hsame
    rfl

/-- As long as no two different calls share a key, a cache is seen in nothing but its
size and its hits. -/
theorem transparent {requests : List Request} (h : Request.KeysDiffer requests) :
    Transparent check requests where
  outcome before c doc rest hsplit := by
    refine ⟨((after check before).cache.validate check c doc).2, Prod.ext ?_ rfl, ?_⟩
    · rw [validate_eq_call.1, after_concat]
      rfl
    · rw [validate_eq_call.2, outcome_eq h hsplit]
  hit before c doc _ _ := hit_iff check before c doc
  size before _ _ := by
    rw [Cache.size, ← List.length_map (f := (·.1)), (remembers_after check before).keys,
      List.card_toFinset]
  once before calls _ _ hbefore hcalls := by
    have hrecent : Request.recent before = [] := by
      rcases hbefore with rfl | hlast
      · rfl
      · obtain ⟨earlier, rfl⟩ := List.getLast?_eq_some_iff.1 hlast
        exact Request.recent_clear earlier
    refine ⟨_, runs_calls hrecent hcalls, List.nodup_dedup _, fun key ↦ ?_⟩
    rw [List.mem_dedup, mem_recent_calls hrecent hcalls]

def mixed : List Request :=
  [.validate .initial Sample.small, .validate .initial .null,
    .validate .initial Sample.small, .clear, .validate .initial .null]

theorem transparent_mixed : Request.KeysDiffer mixed ∧ Transparent none mixed := by
  have hkey : CacheKey.of .initial Sample.small ≠ CacheKey.of .initial .null := by
    intro h
    have hinput := congrArg CacheKey.input h
    rw [CacheKey.input_of, CacheKey.input_of] at hinput
    exact absurd hinput (by decide +kernel)
  have hcall {c : Config} {doc : Json} (h : .validate c doc ∈ mixed) :
      c = .initial ∧ (doc = Sample.small ∨ doc = .null) := by
    simp only [mixed, List.mem_cons, Request.validate.injEq, reduceCtorEq,
      List.not_mem_nil, or_false, false_or] at h
    rcases h with ⟨hc, h⟩ | ⟨hc, h⟩ | ⟨hc, h⟩ | ⟨hc, h⟩
    · exact ⟨hc, .inl h⟩
    · exact ⟨hc, .inr h⟩
    · exact ⟨hc, .inl h⟩
    · exact ⟨hc, .inr h⟩
  have hdiffer : Request.KeysDiffer mixed := by
    intro c doc c' doc' h h' hsame
    obtain ⟨rfl, rfl | rfl⟩ := hcall h <;> obtain ⟨rfl, rfl | rfl⟩ := hcall h'
    · exact ⟨rfl, rfl⟩
    · exact absurd hsame hkey
    · exact absurd hsame.symm hkey
    · exact ⟨rfl, rfl⟩
  exact ⟨hdiffer, transparent hdiffer⟩

theorem streamed_replay (key : CacheKey) (outcome : Outcome) :
    (⟨Cache.replay key outcome, outcome⟩ : Run).streamed =
      match outcome with
      | .ok v => v.warnings
      | .error _ => [] := by
  have hheard (warnings : List Warning) :
      heard (.recalled key.digest :: warnings.map Event.replayed) = warnings := by
    rw [heard_cons_silent rfl, heard, List.filterMap_map]
    exact List.filterMap_some
  cases outcome <;> exact hheard _

/-- A call whose outcome is remembered is heard like the call that computed the outcome if a pack
was accepted; of a failure nothing is heard again. -/
theorem streamed_of_hit {requests : List Request} {c : Config} {doc : Json}
    (h : ((after check requests).call check c doc).2.1 = true) :
    ∃ earlier c' doc' later, requests = earlier ++ .validate c' doc' :: later ∧ .clear ∉ later ∧
      CacheKey.of c' doc' = CacheKey.of c doc ∧
      ((after check earlier).call check c' doc').2.1 = false ∧
      let first := ((after check earlier).cache.validate check c' doc').2
      let again := ((after check requests).cache.validate check c doc).2
      again.outcome = first.outcome ∧
        (∀ v, first.outcome = .ok v → again.streamed = first.streamed) ∧
        (∀ e, first.outcome = .error e → again.streamed = []) := by
  have hsome :=
    ((remembers_after check requests).mem_recent _).2 ((hit_iff check requests c doc).1 h)
  obtain ⟨outcome, hkey⟩ := Option.isSome_iff_exists.1 hsome
  obtain ⟨earlier, c', doc', later, hsplit, hclear, hsame, hnew, hfirst⟩ :=
    (remembers_after check requests).computed _ _ hkey
  have hmiss : (after check earlier).cache.get? (.of c' doc') = none := by
    rw [← Option.not_isSome_iff_eq_none, (remembers_after check earlier).mem_recent, hsame]
    exact hnew
  refine ⟨earlier, c', doc', later, hsplit, hclear, hsame, by rw [call_of_none hmiss], ?_⟩
  rw [Cache.validate_of_none hmiss, Cache.validate_of_some hkey]
  dsimp only
  rw [hfirst, streamed_replay]
  refine ⟨rfl, fun v hv ↦ ?_, fun e he ↦ ?_⟩
  · rw [hv]
    exact warnings_of_validate (hfirst.trans hv)
  · rw [he]

def advised : Config :=
  { Config.initial with allowlists :=
    { AllowlistSpecs.none with flags := some (.advisory ["Bad Id"]) } }

theorem streamed_of_hit_small :
    ((after none [.validate advised Sample.small]).call none advised Sample.small).2.1 = true ∧
      let first := ((after none []).cache.validate none advised Sample.small).2
      let again :=
        ((after none [.validate advised Sample.small]).cache.validate none advised Sample.small).2
      again.streamed = first.streamed ∧
        ⟨[.key "allowlists", .key "flags", .key "soft", .index 0],
          .invalidSoftEntry .flags "Bad Id"⟩ ∈
          again.streamed := by
  have hhit := (hit_iff none [.validate advised Sample.small] _ _).2 (List.mem_singleton_self _)
  obtain ⟨v, hv⟩ : ∃ v, (validate none advised Sample.small).outcome = .ok v :=
    exists_ok_of_clean rfl rfl (Option.some_get _).symm (by decide +kernel) (by decide +kernel)
      Sample.hasIssues_checkCycles_smallPack
  have hfirst : ((after none []).cache.validate none advised Sample.small).2 =
      validate none advised Sample.small := by
    rw [Cache.validate_of_none rfl]
  obtain ⟨earlier, c', doc', later, hsplit, -, -, -, -, hok, -⟩ := streamed_of_hit hhit
  obtain ⟨rfl, hrequest⟩ :
      earlier = [] ∧ Request.validate advised Sample.small = .validate c' doc' := by
    cases earlier with
    | nil => exact ⟨rfl, (List.cons.inj hsplit).1⟩
    | cons r earlier => simp at hsplit
  cases hrequest
  have hsame := hok v (by rw [hfirst, hv])
  refine ⟨hhit, hsame, ?_⟩
  rw [hsame, hfirst, streamed_validate rfl, warningsOf_append]
  exact List.mem_append_left _ (by decide +kernel)

def unversioned : Json := .obj
  [("metadata", .obj
    [("id", .str "p"),
      ("title", .obj [("default", .str "T"), ("variants", .obj [("fr", .str "T")])]),
      ("version", .str "one")])]

theorem silent_of_hit_unversioned :
    ((after none [.validate .initial unversioned]).call none .initial unversioned).2.1 = true ∧
      let first := ((after none []).cache.validate none .initial unversioned).2
      let again :=
        ((after none [.validate .initial unversioned]).cache.validate none .initial unversioned).2
      again.outcome = first.outcome ∧ again.streamed = [] ∧
        first.streamed = [⟨[.key "metadata", .key "title", .key "variants", .key "fr"],
          .unsupportedLocale "fr"⟩] := by
  have hkey : (after none [.validate .initial unversioned]).cache.get? (.of .initial unversioned) =
      some (validate none .initial unversioned).outcome :=
    (Cache.get?_insert _).trans (if_pos rfl)
  have hrejected : (validate none .initial unversioned).outcome.toOption.isNone := by decide +kernel
  have hstreamed : (validate none .initial unversioned).streamed =
      [⟨[.key "metadata", .key "title", .key "variants", .key "fr"], .unsupportedLocale "fr"⟩] := by
    decide +kernel
  refine ⟨(hit_iff none [.validate .initial unversioned] _ _).2 (List.mem_singleton_self _), ?_⟩
  rw [Cache.validate_of_some hkey, Cache.validate_of_none rfl]
  refine ⟨rfl, ?_, hstreamed⟩
  rw [streamed_replay]
  cases h : (validate none .initial unversioned).outcome with
  | error e => rfl
  | ok v =>
    rw [h] at hrejected
    cases hrejected

end Session

end GamePack
