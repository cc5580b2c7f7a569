import Mathlib.Data.List.Induction
import ProjectScribe.Proofs.Mapping.Buckets

/-!
# Buckets as a record of what was pushed

However tokens are gathered, pushed one by one or as a table places them, the buckets tell exactly
what was pushed: there is one for each platform in the order in which the platforms first came up,
and it holds the tokens of this platform, each once, in the order in which they first came up.
-/
namespace ProjectScribe.Mapping.PlatformTokens

variable {tokens : PlatformTokens} {platform token other : String} {list more : List String}
  {pushes : List (String × String)}

section Distinct

/-- The distinct texts of a list are gathered from left to right. -/
theorem eraseDups_concat (list : List String) (text : String) :
    (list ++ [text]).eraseDups = addOnce text list.eraseDups := by
  rw [List.eraseDups_append, addOnce]
  by_cases listed : text ∈ list
  · simp [listed, List.removeAll]
  · simp [listed, List.removeAll, List.eraseDups_cons]

theorem nodup_eraseDups (list : List String) : list.eraseDups.Nodup := by
  induction list using List.reverseRecOn with
  | nil => exact List.nodup_nil
  | append_singleton list text inductionHypothesis =>
    rw [eraseDups_concat]
    exact nodup_addOnce inductionHypothesis text

theorem filter_addOnce (keep : String → Bool) (text : String) (list : List String) :
    (addOnce text list).filter keep =
      if keep text then addOnce text (list.filter keep) else list.filter keep := by
  unfold addOnce
  by_cases kept : keep text = true <;> by_cases listed : text ∈ list <;>
    simp [kept, listed, List.filter_append]

/-- Distinct texts of a class are those among the distinct texts. -/
theorem eraseDups_filter (keep : String → Bool) (list : List String) :
    (list.filter keep).eraseDups = list.eraseDups.filter keep := by
  induction list using List.reverseRecOn with
  | nil => rfl
  | append_singleton list text inductionHypothesis =>
    rw [List.filter_append, eraseDups_concat, filter_addOnce, ← inductionHypothesis]
    by_cases kept : keep text = true
    · rw [List.filter_cons_of_pos kept, List.filter_nil, eraseDups_concat, if_pos kept]
    · rw [List.filter_cons_of_neg kept, List.filter_nil, List.append_nil, if_neg kept]

theorem eraseDups_eq_nil_iff (list : List String) : list.eraseDups = [] ↔ list = [] := by
  cases list with
  | nil => simp
  | cons text rest => simp [List.eraseDups_cons]

theorem eraseDups_of_nodup (distinct : list.Nodup) : list.eraseDups = list := by
  induction list using List.reverseRecOn with
  | nil => rfl
  | append_singleton list text inductionHypothesis =>
    obtain ⟨distinctList, -, apart⟩ := List.nodup_append.mp distinct
    have fresh : text ∉ list := fun listed => apart text listed text List.mem_cons_self rfl
    rw [eraseDups_concat, inductionHypothesis distinctList]
    exact if_neg fresh

/-- The distinct texts of two lists are those of the first and what the second has beyond them. -/
theorem eraseDups_append_eq (list more : List String) :
    (list ++ more).eraseDups =
      list.eraseDups ++ more.eraseDups.filter (· ∉ list.eraseDups) := by
  rw [List.eraseDups_append, List.removeAll, eraseDups_filter]
  congr 2
  funext text
  simp [List.mem_eraseDups]

theorem addOnce_of_mem {text : String} (listed : text ∈ list) : addOnce text list = list :=
  if_pos listed

/-- Texts are changed before or after they are told apart: what is the same then counts once. -/
theorem eraseDups_map_eraseDups (change : String → String) (list : List String) :
    (list.eraseDups.map change).eraseDups = (list.map change).eraseDups := by
  induction list using List.reverseRecOn with
  | nil => rfl
  | append_singleton list text inductionHypothesis =>
    rw [eraseDups_concat, List.map_append, List.map_singleton, eraseDups_concat,
      ← inductionHypothesis]
    by_cases listed : text ∈ list.eraseDups
    · rw [addOnce_of_mem listed, addOnce_of_mem]
      exact List.mem_eraseDups.mpr (List.mem_map_of_mem listed)
    · have behind : addOnce text list.eraseDups = list.eraseDups ++ [text] := if_neg listed
      rw [behind, List.map_append, List.map_singleton, eraseDups_concat]

end Distinct

section Pushes

/-- The tokens that pushes bring to a platform, in order. -/
def pushedFor (pushes : List (String × String)) (platform : String) : List String :=
  (pushes.filter (·.1 = platform)).map (·.2)

/-- The platforms of pushes in the order in which they first come up. -/
def platformsOf (pushes : List (String × String)) : List String := (pushes.map (·.1)).eraseDups

/-- The platforms of pushes as they are read: the name for every platform first, the others in the
order in which they first come up. -/
def readingOrder (pushes : List (String × String)) : List String :=
  (if everyPlatform ∈ pushes.map (·.1) then [everyPlatform] else []) ++
    (platformsOf pushes).filter (· ≠ everyPlatform)

theorem pushAll_append (tokens : PlatformTokens) (pushes more : List (String × String)) :
    tokens.pushAll (pushes ++ more) = (tokens.pushAll pushes).pushAll more :=
  List.foldl_append

theorem pushedFor_append (pushes more : List (String × String)) (platform : String) :
    pushedFor (pushes ++ more) platform = pushedFor pushes platform ++ pushedFor more platform := by
  rw [pushedFor, List.filter_append, List.map_append]
  rfl

theorem pushedFor_concat (pushes : List (String × String)) (platform token other : String) :
    pushedFor (pushes ++ [(platform, token)]) other =
      if other = platform then pushedFor pushes other ++ [token] else pushedFor pushes other := by
  rw [pushedFor_append]
  by_cases same : other = platform
  · simp [pushedFor, same]
  · simp [pushedFor, same, Ne.symm same]

theorem nodup_platformsOf (pushes : List (String × String)) : (platformsOf pushes).Nodup :=
  nodup_eraseDups _

theorem mem_platformsOf_iff : platform ∈ platformsOf pushes ↔ platform ∈ pushes.map (·.1) :=
  List.mem_eraseDups

/-- Something is pushed for a platform exactly if the platform comes up. -/
theorem pushedFor_eq_nil_iff :
    pushedFor pushes platform = [] ↔ platform ∉ pushes.map (·.1) := by
  simp only [pushedFor, List.map_eq_nil_iff, List.filter_eq_nil_iff, decide_eq_true_eq,
    List.mem_map, not_exists, not_and]

end Pushes

section Single

/-- What a platform has after pushes: what it had, and what was pushed for it beyond that. -/
theorem tokensOf_pushAll (tokens : PlatformTokens) (pushes : List (String × String))
    (platform : String) :
    (tokens.pushAll pushes).tokensOf platform = tokens.tokensOf platform ++
      (pushedFor pushes platform).eraseDups.filter (· ∉ tokens.tokensOf platform) := by
  induction pushes using List.reverseRecOn with
  | nil => simp [pushAll, pushedFor]
  | append_singleton pushes last inductionHypothesis =>
    obtain ⟨name, token⟩ := last
    have step : (tokens.pushAll (pushes ++ [(name, token)])).tokensOf platform =
        if platform = name then addOnce token ((tokens.pushAll pushes).tokensOf platform)
        else (tokens.pushAll pushes).tokensOf platform := by
      rw [pushAll_append]
      change (((tokens.pushAll pushes).push name token).get? platform).getD [] = _
      rw [get?_push]
      split
      · next same =>
        rw [same]
        rfl
      · rfl
    rw [step, inductionHypothesis, pushedFor_concat]
    split
    · rw [eraseDups_concat, filter_addOnce]
      by_cases held : token ∈ tokens.tokensOf platform
      · simp [addOnce, held]
      · by_cases pushed : token ∈ pushedFor pushes platform
        · simp [addOnce, held, pushed]
        · simp [addOnce, held, pushed]
    · rfl

/-- Where there was nothing, a platform has the distinct tokens that are pushed for it. -/
theorem tokensOf_pushAll_empty (pushes : List (String × String)) (platform : String) :
    (empty.pushAll pushes).tokensOf platform = (pushedFor pushes platform).eraseDups := by
  have nothing : empty.tokensOf platform = [] := rfl
  rw [tokensOf_pushAll, nothing]
  simp

/-- A platform is without a bucket exactly if it was and nothing was pushed for it. -/
theorem get?_pushAll_eq_none_iff (tokens : PlatformTokens) (pushes : List (String × String))
    (platform : String) : (tokens.pushAll pushes).get? platform = none ↔
      tokens.get? platform = none ∧ pushedFor pushes platform = [] := by
  induction pushes using List.reverseRecOn with
  | nil => simp [pushAll, pushedFor]
  | append_singleton pushes last inductionHypothesis =>
    obtain ⟨name, token⟩ := last
    rw [pushAll_append, pushedFor_concat]
    change ((tokens.pushAll pushes).push name token).get? platform = none ↔ _
    rw [get?_push]
    split
    · simp
    · exact inductionHypothesis

theorem get?_pushAll_empty (pushes : List (String × String)) (platform : String) :
    (empty.pushAll pushes).get? platform =
      if pushedFor pushes platform = [] then none
      else some (pushedFor pushes platform).eraseDups := by
  have none_iff := get?_pushAll_eq_none_iff empty pushes platform
  split
  · next unpushed => exact none_iff.mpr ⟨rfl, unpushed⟩
  · next pushed =>
    cases found : (empty.pushAll pushes).get? platform with
    | none => exact absurd (none_iff.mp found).2 pushed
    | some list => rw [← tokensOf_pushAll_empty, tokensOf, found, Option.getD_some]

end Single

section Whole

theorem addOnce_cons_of_ne {name text : String} (apart : text ≠ name) (list : List String) :
    addOnce text (name :: list) = name :: addOnce text list := by
  unfold addOnce
  by_cases listed : text ∈ list <;> simp [listed, apart]

/-- A token pushed into buckets that are told by their names: its bucket has it then, and is opened
behind the others if there was none. -/
theorem pushTo_map {names : List String} (distinct : names.Nodup) (tokens : String → List String)
    (absent : platform ∉ names → tokens platform = []) (token : String) :
    pushTo platform token (names.map fun name => (name, tokens name)) =
      (addOnce platform names).map fun name =>
        (name, if name = platform then addOnce token (tokens name) else tokens name) := by
  induction names with
  | nil => simp [pushTo, addOnce, absent List.not_mem_nil]
  | cons name rest inductionHypothesis =>
    obtain ⟨fresh, distinctRest⟩ := List.nodup_cons.mp distinct
    rw [List.map_cons, pushTo]
    split
    · next here =>
      subst here
      have others : ∀ other ∈ rest, (other, tokens other) =
          (other, if other = name then addOnce token (tokens other) else tokens other) := by
        intro other listed
        rw [if_neg (ne_of_mem_of_not_mem listed fresh)]
      have opened : addOnce name (name :: rest) = name :: rest := if_pos List.mem_cons_self
      rw [opened, List.map_cons, if_pos rfl, List.map_congr_left others]
    · next elsewhere =>
      have further := inductionHypothesis distinctRest fun missing =>
        absent (by simp [Ne.symm elsewhere, missing])
      rw [further, addOnce_cons_of_ne (Ne.symm elsewhere), List.map_cons, if_neg elsewhere]

/-- The buckets after pushes: one for each platform that came up, with its distinct tokens. -/
theorem buckets_pushAll (pushes : List (String × String)) :
    (empty.pushAll pushes).buckets =
      (platformsOf pushes).map fun name => (name, (pushedFor pushes name).eraseDups) := by
  induction pushes using List.reverseRecOn with
  | nil => rfl
  | append_singleton pushes last inductionHypothesis =>
    obtain ⟨name, token⟩ := last
    have step : (empty.pushAll (pushes ++ [(name, token)])).buckets =
        pushTo name token (empty.pushAll pushes).buckets := by
      rw [pushAll_append]
      rfl
    have missing : name ∉ platformsOf pushes → (pushedFor pushes name).eraseDups = [] := by
      rw [mem_platformsOf_iff, eraseDups_eq_nil_iff]
      exact pushedFor_eq_nil_iff.mpr
    have opened : platformsOf (pushes ++ [(name, token)]) = addOnce name (platformsOf pushes) := by
      rw [platformsOf, List.map_append, List.map_singleton, eraseDups_concat]
      rfl
    rw [step, inductionHypothesis, pushTo_map (nodup_platformsOf pushes) _ missing, opened]
    refine List.map_congr_left fun other _ => ?_
    rw [pushedFor_concat]
    split
    · rw [eraseDups_concat]
    · rfl

/-- A platform that came up has tokens. -/
theorem distinct_ne_nil (came : platform ∈ platformsOf pushes) :
    (pushedFor pushes platform).eraseDups ≠ [] := by
  rw [ne_eq, eraseDups_eq_nil_iff, pushedFor_eq_nil_iff, not_not]
  exact mem_platformsOf_iff.mp came

theorem readingOrder_eq (pushes : List (String × String)) :
    readingOrder pushes = (platformsOf pushes).filter (· = everyPlatform) ++
      (platformsOf pushes).filter (· ≠ everyPlatform) := by
  have every : (platformsOf pushes).filter (· = everyPlatform) =
      if everyPlatform ∈ pushes.map (·.1) then [everyPlatform] else [] := by
    rw [List.filter_eq, (nodup_platformsOf pushes).count]
    simp only [mem_platformsOf_iff]
    split <;> rfl
  rw [readingOrder, every]

/-- The platforms are read in another order than that in which they came up, each once. -/
theorem readingOrder_perm (pushes : List (String × String)) :
    (readingOrder pushes).Perm (platformsOf pushes) := by
  rw [readingOrder_eq]
  convert List.filter_append_perm (· = everyPlatform) (platformsOf pushes) using 3
  simp

/-- What is read after pushes. -/
theorem toList_pushAll (pushes : List (String × String)) :
    (empty.pushAll pushes).toList =
      (readingOrder pushes).map fun name => (name, (pushedFor pushes name).eraseDups) := by
  rw [toList, buckets_pushAll, List.filter_map, List.filter_map, ← List.map_append]
  change List.filter _ (List.map _ ((platformsOf pushes).filter (· = everyPlatform) ++
    (platformsOf pushes).filter (· ≠ everyPlatform))) = _
  rw [← readingOrder_eq, List.filter_eq_self]
  intro bucket listed
  obtain ⟨name, read, rfl⟩ := List.mem_map.mp listed
  have filled := distinct_ne_nil ((readingOrder_perm pushes).mem_iff.mp read)
  simpa using filled

end Whole

section Alike

variable {others further : List (String × String)}

/-- Pushes that cannot be told apart by reading the buckets: each platform has the same tokens, and
the platforms other than the name for every platform come up in the same order. -/
structure ReadAlike (pushes others : List (String × String)) : Prop where
  tokens : ∀ platform,
    (pushedFor pushes platform).eraseDups = (pushedFor others platform).eraseDups
  order : ((pushes.map (·.1)).filter (· ≠ everyPlatform)).eraseDups =
    ((others.map (·.1)).filter (· ≠ everyPlatform)).eraseDups

theorem ReadAlike.toList_eq (alike : ReadAlike pushes others) :
    (empty.pushAll pushes).toList = (empty.pushAll others).toList := by
  have comes : everyPlatform ∈ pushes.map (·.1) ↔ everyPlatform ∈ others.map (·.1) := by
    rw [← not_iff_not, ← pushedFor_eq_nil_iff, ← pushedFor_eq_nil_iff, ← eraseDups_eq_nil_iff,
      alike.tokens, eraseDups_eq_nil_iff]
  have same : readingOrder pushes = readingOrder others := by
    have order := alike.order
    rw [eraseDups_filter, eraseDups_filter] at order
    simp only [readingOrder, comes, platformsOf, order]
  rw [toList_pushAll, toList_pushAll, same]
  exact List.map_congr_left fun platform _ => by rw [alike.tokens]

theorem ReadAlike.append {moreOthers : List (String × String)} (alike : ReadAlike pushes others)
    (moreAlike : ReadAlike further moreOthers) :
    ReadAlike (pushes ++ further) (others ++ moreOthers) where
  tokens := by
    intro platform
    rw [pushedFor_append, pushedFor_append, eraseDups_append_eq, eraseDups_append_eq,
      alike.tokens, moreAlike.tokens]
  order := by
    rw [List.map_append, List.map_append, List.filter_append, List.filter_append,
      eraseDups_append_eq, eraseDups_append_eq, alike.order, moreAlike.order]

theorem ReadAlike.flatMap {item : Type} {first second : item → List (String × String)}
    {items : List item} (alike : ∀ one ∈ items, ReadAlike (first one) (second one)) :
    ReadAlike (items.flatMap first) (items.flatMap second) := by
  induction items with
  | nil => exact ⟨fun _ => rfl, rfl⟩
  | cons one rest inductionHypothesis =>
    rw [List.forall_mem_cons] at alike
    rw [List.flatMap_cons, List.flatMap_cons]
    exact alike.1.append (inductionHypothesis alike.2)

/-- Tokens pushed platform by platform. -/
def grouped (platforms : List String) (tokens : String → List String) : List (String × String) :=
  platforms.flatMap fun platform => (tokens platform).map fun token => (platform, token)

theorem pushedFor_map (name : String) (list : List String) (platform : String) :
    pushedFor (list.map fun token => (name, token)) platform =
      if platform = name then list else [] := by
  by_cases same : platform = name
  · simp [pushedFor, List.filter_map, Function.comp_def, same]
  · simp [pushedFor, List.filter_map, Function.comp_def, same, Ne.symm same]

theorem pushedFor_grouped {platforms : List String} (distinct : platforms.Nodup)
    (tokens : String → List String) (platform : String) :
    pushedFor (grouped platforms tokens) platform =
      if platform ∈ platforms then tokens platform else [] := by
  induction platforms with
  | nil => simp [grouped, pushedFor]
  | cons name rest inductionHypothesis =>
    obtain ⟨fresh, distinctRest⟩ := List.nodup_cons.mp distinct
    have further := inductionHypothesis distinctRest
    rw [grouped] at further
    rw [grouped, List.flatMap_cons, pushedFor_append, pushedFor_map, further]
    by_cases same : platform = name
    · subst same
      simp [fresh]
    · simp [same]

/-- Platforms with tokens come up in the order in which these are pushed. -/
theorem platformsOf_grouped {platforms : List String} (distinct : platforms.Nodup)
    (tokens : String → List String) (filled : ∀ platform ∈ platforms, tokens platform ≠ []) :
    platformsOf (grouped platforms tokens) = platforms := by
  induction platforms with
  | nil => rfl
  | cons name rest inductionHypothesis =>
    obtain ⟨fresh, distinctRest⟩ := List.nodup_cons.mp distinct
    rw [List.forall_mem_cons] at filled
    have further := inductionHypothesis distinctRest filled.2
    rw [platformsOf, grouped] at further
    obtain ⟨token, more, tokensOfName⟩ := List.exists_cons_of_ne_nil filled.1
    have alone : (((tokens name).map fun token => (name, token)).map (·.1)).eraseDups = [name] := by
      simp [tokensOfName, List.eraseDups_cons, Function.comp_def]
    rw [platformsOf, grouped, List.flatMap_cons, List.map_append, eraseDups_append_eq, alone,
      further, List.filter_eq_self.mpr]
    · rfl
    · intro other listed
      simpa using ne_of_mem_of_not_mem listed fresh

/-- Distinct tokens that are all pushed for every platform are read in one bucket, if any. -/
theorem toList_everywhere (distinct : list.Nodup) :
    (empty.pushAll (list.map fun token => (everyPlatform, token))).toList =
      if list = [] then [] else [(everyPlatform, list)] := by
  split
  · next nothing =>
    subst nothing
    rfl
  · next filled =>
    have alone : platformsOf (list.map fun token => (everyPlatform, token)) = [everyPlatform] := by
      simpa [grouped] using platformsOf_grouped (List.nodup_singleton everyPlatform)
        (fun _ => list) (by simpa using filled)
    rw [toList_pushAll, readingOrder_eq, alone]
    simp [pushedFor_map, eraseDups_of_nodup distinct]

/-- Pushes that have gone through buckets of their own, and whose tokens have been changed then,
are read like the changed pushes. -/
theorem readAlike_regrouped (pushes : List (String × String)) (change : String → String) :
    ReadAlike
      ((empty.pushAll pushes).toList.flatMap fun (platform, tokens) =>
        tokens.map fun token => (platform, change token))
      (pushes.map fun (platform, token) => (platform, change token)) := by
  have distinct : (readingOrder pushes).Nodup :=
    (readingOrder_perm pushes).nodup_iff.mpr (nodup_platformsOf pushes)
  have regrouped : ((empty.pushAll pushes).toList.flatMap fun (platform, tokens) =>
      tokens.map fun token => (platform, change token)) =
      grouped (readingOrder pushes) fun platform =>
        (pushedFor pushes platform).eraseDups.map change := by
    simp [toList_pushAll, grouped, List.flatMap_map, Function.comp_def]
  rw [regrouped]
  constructor
  · intro platform
    have changed : pushedFor (pushes.map fun (platform, token) => (platform, change token))
        platform = (pushedFor pushes platform).map change := by
      simp [pushedFor, List.filter_map, Function.comp_def]
    rw [pushedFor_grouped distinct, changed]
    split
    · exact eraseDups_map_eraseDups change _
    · next missing =>
      rw [(readingOrder_perm pushes).mem_iff, mem_platformsOf_iff, ← pushedFor_eq_nil_iff]
        at missing
      rw [missing]
      rfl
  · have filled : ∀ platform ∈ readingOrder pushes,
        (pushedFor pushes platform).eraseDups.map change ≠ [] := by
      intro platform read
      rw [ne_eq, List.map_eq_nil_iff]
      exact distinct_ne_nil ((readingOrder_perm pushes).mem_iff.mp read)
    have named : (pushes.map fun (platform, token) => (platform, change token)).map (·.1) =
        pushes.map (·.1) := by
      rw [List.map_map]
      rfl
    have others : (readingOrder pushes).filter (· ≠ everyPlatform) =
        (platformsOf pushes).filter (· ≠ everyPlatform) := by
      rw [readingOrder_eq, List.filter_append, List.filter_filter, List.filter_filter]
      simp
    have platforms := platformsOf_grouped distinct _ filled
    rw [platformsOf] at platforms
    rw [named, eraseDups_filter, eraseDups_filter, platforms, others, platformsOf]

end Alike

section Steps

/-- A step by which tokens are gathered. -/
inductive Step
  | push (platform token : String)
  | resolve (table : Table) (token : String)

/-- What a step makes of the tokens that are gathered already. -/
def Step.perform (tokens : PlatformTokens) : Step → PlatformTokens
  | push platform token => tokens.push platform token
  | resolve table token => table.resolveInto token tokens

/-- The tokens that a step pushes, each with its platform. -/
def Step.pushed : Step → List (String × String)
  | push platform token => [(platform, token)]
  | resolve table token => table.placements token

/-- What is gathered by steps. -/
def gather (steps : List Step) : PlatformTokens := steps.foldl Step.perform empty

/-- What has been pushed by steps. -/
def pushedBy (steps : List Step) : List (String × String) := steps.flatMap Step.pushed

theorem perform_eq (step : Step) (tokens : PlatformTokens) :
    step.perform tokens = tokens.pushAll step.pushed := by
  cases step with
  | push platform token => rfl
  | resolve table token => rfl

theorem gather_eq (steps : List Step) : gather steps = empty.pushAll (pushedBy steps) := by
  induction steps using List.reverseRecOn with
  | nil => rfl
  | append_singleton steps last inductionHypothesis =>
    have step : gather (steps ++ [last]) = last.perform (gather steps) := by
      rw [gather, List.foldl_append]
      rfl
    have pushed : pushedBy (steps ++ [last]) = pushedBy steps ++ last.pushed := by
      rw [pushedBy, List.flatMap_append, List.flatMap_singleton]
      rfl
    rw [step, perform_eq, inductionHypothesis, ← pushAll_append, pushed]

/-- Buckets tell what has been pushed. -/
structure Records (tokens : PlatformTokens) (pushes : List (String × String)) : Prop where
  /-- No two buckets have one name. -/
  distinct : (tokens.buckets.map (·.1)).Nodup
  /-- No bucket is empty, and none holds a token twice. -/
  filled : ∀ bucket ∈ tokens.buckets, bucket.2 ≠ [] ∧ bucket.2.Nodup
  /-- A platform has the distinct tokens that were pushed for it, in the order of the first
  pushes. -/
  got : ∀ platform, tokens.get? platform =
    if pushedFor pushes platform = [] then none else some (pushedFor pushes platform).eraseDups
  /-- There are no tokens exactly if none were pushed. -/
  vacant : tokens.isEmpty = true ↔ pushes = []
  /-- Every bucket is read once. -/
  once : tokens.toList.Perm tokens.buckets
  /-- The bucket for every platform is read first, the others in the order of the first pushes. -/
  inOrder : tokens.toList.map (·.1) = readingOrder pushes

theorem records_pushAll (pushes : List (String × String)) :
    Records (empty.pushAll pushes) pushes where
  distinct := (orderly_empty.pushAll pushes).distinct
  filled := by
    intro bucket listed
    rw [buckets_pushAll] at listed
    obtain ⟨name, came, rfl⟩ := List.mem_map.mp listed
    exact ⟨distinct_ne_nil came, nodup_eraseDups _⟩
  got := get?_pushAll_empty pushes
  vacant := by
    rw [isEmpty, buckets_pushAll, List.all_map, List.all_eq_true]
    constructor
    · intro vacant
      have none : platformsOf pushes = [] := by
        refine List.eq_nil_iff_forall_not_mem.mpr fun name came => distinct_ne_nil came ?_
        simpa using vacant name came
      rwa [platformsOf, eraseDups_eq_nil_iff, List.map_eq_nil_iff] at none
    · rintro rfl name came
      exact absurd came List.not_mem_nil
  once := by
    rw [toList_pushAll, buckets_pushAll]
    exact (readingOrder_perm pushes).map _
  inOrder := by
    rw [toList_pushAll, List.map_map]
    exact List.map_id _

/-- Whatever steps gather tokens from nothing, the buckets tell what has been pushed. What a table
makes of one more token comes, for each platform, behind what the platform has, without what it has
already. -/
theorem gather_records (steps : List Step) :
    Records (gather steps) (pushedBy steps) ∧
      ∀ (table : Table) (token platform : String),
        (table.resolveInto token (gather steps)).tokensOf platform =
          (gather steps).tokensOf platform ++ ((table.resolve token).tokensOf platform).filter
            (· ∉ (gather steps).tokensOf platform) ∧
        ((table.resolveInto token (gather steps)).get? platform = none ↔
          (gather steps).get? platform = none ∧ (table.resolve token).get? platform = none) := by
  refine ⟨?_, fun table token platform => ⟨?_, ?_⟩⟩
  · rw [gather_eq]
    exact records_pushAll _
  · have alone : (table.resolve token).tokensOf platform =
        (pushedFor (table.placements token) platform).eraseDups := by
      rw [Table.resolve, Table.resolveInto, tokensOf_pushAll_empty]
    rw [alone]
    exact tokensOf_pushAll _ _ _
  · have alone : (table.resolve token).get? platform = none ↔
        pushedFor (table.placements token) platform = [] := by
      rw [Table.resolve, Table.resolveInto, get?_pushAll_eq_none_iff]
      exact and_iff_right rfl
    rw [alone]
    exact get?_pushAll_eq_none_iff _ _ _

end Steps

end ProjectScribe.Mapping.PlatformTokens
