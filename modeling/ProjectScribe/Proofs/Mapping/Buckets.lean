import Mathlib.Data.List.Nodup
import ProjectScribe.Mapping.Table

/-!
# What is in the buckets of platforms

Tokens that are pushed in order end up in the buckets of their platforms: every platform has one
bucket at most, and a bucket holds each token that was pushed for its platform once.
-/
namespace ProjectScribe.Mapping.PlatformTokens

variable {tokens : PlatformTokens} {platform token other text : String} {list : List String}
  {pairs : List (String × String)}

/-- Every platform has one bucket at most, and no bucket holds a token twice. -/
structure Orderly (tokens : PlatformTokens) : Prop where
  distinct : (tokens.buckets.map (·.1)).Nodup
  once : ∀ bucket ∈ tokens.buckets, bucket.2.Nodup

theorem orderly_empty : empty.Orderly := ⟨List.nodup_nil, by simp [empty]⟩

theorem mem_addOnce_iff : text ∈ addOnce token list ↔ text = token ∨ text ∈ list := by
  unfold addOnce
  split
  · next listed =>
    constructor
    · exact .inr
    · rintro (rfl | among)
      · exact listed
      · exact among
  · rw [List.mem_append, List.mem_singleton, or_comm]

theorem nodup_addOnce (once : list.Nodup) (token : String) : (addOnce token list).Nodup := by
  unfold addOnce
  split
  · exact once
  · next fresh => exact once.append (List.nodup_singleton token) (by simpa using fresh)

/-- Pushing a token opens a bucket for its platform if there is none. -/
theorem mem_platforms_pushTo {buckets : List (String × List String)} :
    other ∈ (pushTo platform token buckets).map (·.1) ↔
      other = platform ∨ other ∈ buckets.map (·.1) := by
  induction buckets with
  | nil => simp [pushTo]
  | cons bucket rest inductionHypothesis =>
    obtain ⟨name, list⟩ := bucket
    rw [pushTo]
    split
    · next here =>
      subst here
      simp
    · rw [List.map_cons, List.mem_cons, inductionHypothesis, List.map_cons, List.mem_cons]
      exact or_left_comm

/-- Pushing a token keeps the buckets in order. -/
theorem Orderly.push (orderly : tokens.Orderly) (platform token : String) :
    (tokens.push platform token).Orderly := by
  obtain ⟨distinct, once⟩ := orderly
  suffices kept : ∀ buckets : List (String × List String), (buckets.map (·.1)).Nodup →
      (∀ bucket ∈ buckets, bucket.2.Nodup) → Orderly ⟨pushTo platform token buckets⟩ from
    kept tokens.buckets distinct once
  intro buckets distinct once
  induction buckets with
  | nil => exact ⟨List.nodup_singleton platform, by simp [pushTo]⟩
  | cons bucket rest inductionHypothesis =>
    obtain ⟨name, list⟩ := bucket
    rw [List.map_cons, List.nodup_cons] at distinct
    rw [List.forall_mem_cons] at once
    rw [pushTo]
    split
    · next here =>
      refine ⟨?_, List.forall_mem_cons.mpr ⟨nodup_addOnce once.1 token, once.2⟩⟩
      rw [List.map_cons, List.nodup_cons]
      exact distinct
    · next elsewhere =>
      obtain ⟨distinctRest, onceRest⟩ := inductionHypothesis distinct.2 once.2
      refine ⟨?_, List.forall_mem_cons.mpr ⟨once.1, onceRest⟩⟩
      rw [List.map_cons, List.nodup_cons, mem_platforms_pushTo]
      refine ⟨?_, distinctRest⟩
      rintro (same | among)
      · exact elsewhere same
      · exact distinct.1 among

theorem Orderly.pushAll (orderly : tokens.Orderly) (pairs : List (String × String)) :
    (tokens.pushAll pairs).Orderly := by
  induction pairs generalizing tokens with
  | nil => exact orderly
  | cons pair rest inductionHypothesis => exact inductionHypothesis (orderly.push pair.1 pair.2)

/-- The tokens of a platform, none if it has no bucket. -/
def tokensOf (tokens : PlatformTokens) (platform : String) : List String :=
  (tokens.get? platform).getD []

theorem mem_tokensOf_push : text ∈ (tokens.push platform token).tokensOf other ↔
    (other, text) = (platform, token) ∨ text ∈ tokens.tokensOf other := by
  unfold tokensOf
  rw [get?_push, Prod.mk.injEq]
  split
  · next same => simp [same, mem_addOnce_iff]
  · next apart => simp [apart]

/-- A bucket holds what was pushed for its platform and what it held before. -/
theorem mem_tokensOf_pushAll : text ∈ (tokens.pushAll pairs).tokensOf platform ↔
    (platform, text) ∈ pairs ∨ text ∈ tokens.tokensOf platform := by
  induction pairs generalizing tokens with
  | nil => simp [pushAll]
  | cons pair rest inductionHypothesis =>
    have later : text ∈ ((tokens.push pair.1 pair.2).pushAll rest).tokensOf platform ↔
        (platform, text) ∈ rest ∨ text ∈ (tokens.push pair.1 pair.2).tokensOf platform :=
      inductionHypothesis
    rw [mem_tokensOf_push, or_left_comm, ← or_assoc] at later
    rw [List.mem_cons]
    exact later

/-- The buckets that are read are those with tokens. -/
theorem mem_toList_iff_mem_buckets :
    (platform, list) ∈ tokens.toList ↔ (platform, list) ∈ tokens.buckets ∧ list ≠ [] := by
  by_cases every : platform = everyPlatform <;> simp [toList, every]

/-- A bucket that is read holds no token twice. -/
theorem Orderly.nodup_of_mem (orderly : tokens.Orderly)
    (bucket : (platform, list) ∈ tokens.toList) : list.Nodup :=
  orderly.once _ (mem_toList_iff_mem_buckets.mp bucket).1

/-- What is read of a bucket is what the platform has, and never an empty list. -/
theorem mem_toList_iff (orderly : tokens.Orderly) :
    (platform, list) ∈ tokens.toList ↔ tokens.get? platform = some list ∧ list ≠ [] := by
  rw [mem_toList_iff_mem_buckets]
  refine and_congr_left fun _ => ?_
  unfold get?
  rw [Option.map_eq_some_iff]
  constructor
  · intro held
    cases found : tokens.buckets.find? (·.1 = platform) with
    | none => exact absurd (by simp) (List.find?_eq_none.mp found _ held)
    | some bucket =>
      refine ⟨bucket, rfl, ?_⟩
      have same : bucket.1 = platform := by simpa using List.find?_some found
      have one := List.inj_on_of_nodup_map orderly.distinct (List.mem_of_find?_eq_some found) held
        same
      rw [one]
  · rintro ⟨bucket, found, rfl⟩
    obtain rfl : bucket.1 = platform := by simpa using List.find?_some found
    exact List.mem_of_find?_eq_some found

/-- What stands in a bucket that is read are the tokens of its platform. -/
theorem tokensOf_of_mem (orderly : tokens.Orderly) (bucket : (platform, list) ∈ tokens.toList) :
    tokens.tokensOf platform = list := by
  rw [tokensOf, ((mem_toList_iff orderly).mp bucket).1, Option.getD_some]

/-- Every token of a platform stands in a bucket that is read. -/
theorem exists_bucket_iff (orderly : tokens.Orderly) : text ∈ tokens.tokensOf platform ↔
    ∃ list, (platform, list) ∈ tokens.toList ∧ text ∈ list := by
  constructor
  · intro held
    cases found : tokens.get? platform with
    | none => simp [tokensOf, found] at held
    | some list =>
      rw [tokensOf, found, Option.getD_some] at held
      exact ⟨list, (mem_toList_iff orderly).mpr ⟨found, List.ne_nil_of_mem held⟩, held⟩
  · rintro ⟨list, bucket, held⟩
    rw [tokensOf_of_mem orderly bucket]
    exact held

/-- A platform whose bucket is read had a token pushed for it. -/
theorem exists_pushed_of_mem (bucket : (platform, list) ∈ (empty.pushAll pairs).toList) :
    ∃ text, (platform, text) ∈ pairs := by
  have orderly : (empty.pushAll pairs).Orderly := orderly_empty.pushAll pairs
  have filled := ((mem_toList_iff orderly).mp bucket).2
  obtain ⟨text, rest, rfl⟩ := List.exists_cons_of_ne_nil filled
  have held : text ∈ (empty.pushAll pairs).tokensOf platform :=
    (exists_bucket_iff orderly).mpr ⟨_, bucket, List.mem_cons_self⟩
  rcases mem_tokensOf_pushAll.mp held with pushed | nothing
  · exact ⟨text, pushed⟩
  · exact absurd nothing List.not_mem_nil

end ProjectScribe.Mapping.PlatformTokens
