import ProjectScribe.Proofs.Reading.CompanionItems

/-!
# When a companion overrides everything

A companion replaces what items say, but only for the first item of each key, and an item of a
group is never compared with those that the same group adds. Here stands what this makes of the
companion's intent: exactly when every item carries what the companion says last about it, exactly
when it does not matter how the companion's items are cut into groups, and exactly when merging
the companion once more changes nothing.
-/
namespace ProjectScribe.Reading.ElementFormat

open Xml (Element)

/-- An item says what is stated last of several items that are the same, if there are any. -/
def Carries (stated : List Item) (item : Item) : Prop :=
  ∀ metadata, lastStated stated item = some metadata → item.metadata = metadata

instance (stated : List Item) (item : Item) : Decidable (Carries stated item) :=
  decidable_of_iff (∀ metadata ∈ lastStated stated item, item.metadata = metadata) Iff.rfl

section Places

variable (applied before after : List Item) (item : Item)

/-- How applied items leave one item of a list: those whose keys stand before it do not reach
it. -/
theorem refresh_split :
    refresh applied (before ++ item :: after) =
      refresh applied before ++ override (applied.filter (isNew before)) item ::
        refresh ((applied.filter (isNew before)).filter (!·.isSame item)) after := by
  rw [refresh_append, refresh]

/-- An item that nothing is stated of says what it says. -/
theorem override_eq_self (unsaid : lastStated applied item = none) :
    override applied item = item := by
  rw [override, unsaid]
  rfl

/-- No applied item reaches an item with the key of an earlier one. -/
theorem override_repeated (repeated : isNew before item = false) :
    override (applied.filter (isNew before)) item = item := by
  apply override_eq_self
  apply lastStated_filter_eq_none
  intro other _ same
  rw [isNew_eq_of_key before same, repeated]

/-- The first item of its key says what is applied last with the key. -/
theorem override_first (first : isNew before item = true) :
    override (applied.filter (isNew before)) item = override applied item := by
  have said : lastStated (applied.filter (isNew before)) item = lastStated applied item := by
    apply lastStated_filter
    intro other _ same
    rw [isNew_eq_of_key before same, first]
  rw [override, override, said]

/-- Every item that applied items leave comes from one item of the list. -/
theorem mem_refresh_iff (list : List Item) (left : Item) :
    left ∈ refresh applied list ↔ ∃ before item after, list = before ++ item :: after ∧
      left = override (applied.filter (isNew before)) item := by
  constructor
  · induction list generalizing applied with
    | nil => simp [refresh]
    | cons first rest inductionHypothesis =>
      intro listed
      rcases List.mem_cons.mp listed with same | later
      · refine ⟨[], first, rest, rfl, ?_⟩
        rw [same, override_first]
        rfl
      · obtain ⟨before, item, after, whole, stands⟩ := inductionHypothesis _ later
        refine ⟨first :: before, item, after, by rw [whole, List.cons_append], ?_⟩
        rw [stands, filter_isNew_cons]
  · rintro ⟨before, item, after, rfl, rfl⟩
    rw [refresh_split]
    exact List.mem_append_right _ List.mem_cons_self

end Places

section Statements

variable (known : List Item) (groups : List (List Item)) (item : Item)

/-- Of a known item everything is applied that a companion states. -/
theorem lastStated_applications_of_known (old : isNew known item = false) :
    lastStated (applications known groups) item = lastStated groups.flatten item := by
  induction groups generalizing known with
  | nil => rfl
  | cons group rest inductionHypothesis =>
    have still : isNew (known ++ group.filter (isNew known)) item = false := by
      simp only [isNew, List.any_append, Bool.not_or, Bool.and_eq_false_iff] at old ⊢
      exact .inl old
    have applied : lastStated (group.filter (!isNew known ·)) item = lastStated group item := by
      apply lastStated_filter
      intro other _ same
      rw [isNew_eq_of_key known same, old, Bool.not_false]
    rw [applications, List.flatten_cons, lastStated_append, lastStated_append, applied,
      inductionHypothesis _ still]

/-- What is applied last of an item is what the companion states last. -/
theorem lastStated_of_applications {metadata : List Metadata}
    (applied : lastStated (applications known groups) item = some metadata) :
    lastStated groups.flatten item = some metadata := by
  induction groups generalizing known with
  | nil => exact applied
  | cons group rest inductionHypothesis =>
    cases old : isNew known item with
    | false => rwa [lastStated_applications_of_known known (group :: rest) item old] at applied
    | true =>
      have unsaid : lastStated (group.filter (!isNew known ·)) item = none := by
        apply lastStated_filter_eq_none
        intro other _ same
        rw [isNew_eq_of_key known same, old, Bool.not_true]
      rw [applications, lastStated_append, unsaid, Option.or_none] at applied
      rw [List.flatten_cons, lastStated_append, inductionHypothesis _ applied]
      rfl

/-- An item that says what is applied last carries what is stated. -/
theorem carries_override (applied : lastStated (applications known groups) item ≠ none) :
    Carries groups.flatten (override (applications known groups) item) := by
  obtain ⟨metadata, last⟩ := Option.ne_none_iff_exists'.mp applied
  intro stated said
  rw [lastStated_congr _ (key_override item _), lastStated_of_applications known groups item last,
    Option.some.injEq] at said
  rw [override, last, ← said]
  rfl

end Statements

section Overriding

variable (known : List Item) (groups : List (List Item))

/-- All merged items carry what the companion states exactly if those do that no application
changes: the repeated ones, and those that only their own group states. -/
theorem carries_iff :
    (∀ item ∈ groups.foldl mergeGroup known, Carries groups.flatten item) ↔
      ∀ before item after, known ++ additions known groups = before ++ item :: after →
        isNew before item = false ∨ lastStated (applications known groups) item = none →
        Carries groups.flatten item := by
  rw [foldl_mergeGroup]
  constructor
  · intro carried before item after whole unchanged
    -- An item that no application changes stands among the merged ones as it is.
    have left : override ((applications known groups).filter (isNew before)) item = item := by
      rcases unchanged with repeated | unsaid
      · exact override_repeated _ before item repeated
      · have none : lastStated ((applications known groups).filter (isNew before)) item = none := by
          rw [lastStated_eq_none] at unsaid ⊢
          exact fun listed => unsaid (List.map_subset _ (List.filter_subset_self _) listed)
        exact override_eq_self _ item none
    refine carried item ((mem_refresh_iff _ _ _).mpr ⟨before, item, after, whole, left.symm⟩)
  · intro carried merged listed
    obtain ⟨before, item, after, whole, rfl⟩ := (mem_refresh_iff _ _ _).mp listed
    cases first : isNew before item with
    | false =>
      rw [override_repeated _ before item first]
      exact carried before item after whole (.inl first)
    | true =>
      rw [override_first _ before item first]
      by_cases unsaid : lastStated (applications known groups) item = none
      · rw [override_eq_self _ item unsaid]
        exact carried before item after whole (.inr unsaid)
      · exact carries_override known groups item unsaid

end Overriding

section Cutting

/-- If no two new items of several groups are the same, then all of them are added and all others
are applied, however the groups are cut. -/
theorem additions_of_nodup (known : List Item) (groups : List (List Item))
    (distinct : ((groups.flatten.filter (isNew known)).map Item.key).Nodup) :
    additions known groups = groups.flatten.filter (isNew known) ∧
      applications known groups = groups.flatten.filter (!isNew known ·) := by
  induction groups generalizing known with
  | nil => exact ⟨rfl, rfl⟩
  | cons group rest inductionHypothesis =>
    rw [List.flatten_cons, List.filter_append, List.map_append, List.nodup_append] at distinct
    obtain ⟨_, later, apart⟩ := distinct
    -- What the group adds makes no item of the later groups known.
    have same : ∀ item ∈ rest.flatten,
        isNew (known ++ group.filter (isNew known)) item = isNew known item := by
      intro item listed
      cases new : isNew known item with
      | false =>
        rw [isNew_eq_false] at new ⊢
        rw [List.map_append]
        exact List.mem_append_left _ new
      | true =>
        rw [isNew_iff, List.map_append, List.mem_append, not_or]
        refine ⟨(isNew_iff known item).mp new, fun added => ?_⟩
        exact apart item.key added item.key
          (List.mem_map_of_mem (List.mem_filter.mpr ⟨listed, new⟩)) rfl
    have sameOld : ∀ item ∈ rest.flatten,
        (!isNew (known ++ group.filter (isNew known)) item) = !isNew known item := by
      intro item listed
      rw [same item listed]
    have kept := List.filter_congr same
    rw [← kept] at later
    obtain ⟨added, applied⟩ := inductionHypothesis _ later
    rw [additions, applications, added, applied, kept, List.filter_congr sameOld,
      List.flatten_cons, List.filter_append, List.filter_append]
    exact ⟨rfl, rfl⟩

/-- One by one, no two items with one key are added. -/
theorem nodup_additions_singletons (known stated : List Item) :
    ((additions known (stated.map fun item => [item])).map Item.key).Nodup := by
  induction stated generalizing known with
  | nil => exact List.nodup_nil
  | cons item rest inductionHypothesis =>
    rw [List.map_cons, additions, List.map_append, List.nodup_append]
    refine ⟨?_, inductionHypothesis _, ?_⟩
    · cases new : isNew known item <;> simp [new]
    · rintro first firstListed second secondListed rfl
      obtain ⟨later, laterListed, sameKey⟩ := List.mem_map.mp secondListed
      have new := isNew_of_mem_additions _ _ later laterListed
      rw [isNew_iff, List.map_append, List.mem_append, not_or, sameKey] at new
      exact new.2 firstListed

/-- The keys that merging leaves: those of the known items and of those that are added. -/
theorem keys_foldl_mergeGroup (known : List Item) (groups : List (List Item)) :
    (groups.foldl mergeGroup known).map Item.key =
      known.map Item.key ++ (additions known groups).map Item.key := by
  rw [foldl_mergeGroup, keys_refresh, List.map_append]

/-- If merging items as one group is merging them one by one, then no two new ones are the
same. -/
theorem nodup_of_cuts_agree (known stated : List Item)
    (agree : [stated].foldl mergeGroup known =
      (stated.map fun item => [item]).foldl mergeGroup known) :
    ((stated.filter (isNew known)).map Item.key).Nodup := by
  -- Both ways leave the same keys, and one by one no key is added twice.
  have keys := congrArg (List.map Item.key) agree
  rw [keys_foldl_mergeGroup, keys_foldl_mergeGroup, List.append_cancel_left_eq, additions,
    additions, List.append_nil] at keys
  rw [keys]
  exact nodup_additions_singletons known stated

end Cutting

section Again

/-- Applying some items to a list is applying others exactly if both say the same to the first
item of each key. -/
theorem refresh_eq_iff (first second list : List Item) :
    refresh first list = refresh second list ↔
      ∀ before item after, list = before ++ item :: after → isNew before item = true →
        override first item = override second item := by
  induction list generalizing first second with
  | nil => simp [refresh]
  | cons head rest inductionHypothesis =>
    have alone : ∀ applied : List Item,
        applied.filter (!·.isSame head) = applied.filter (isNew [head]) := by
      intro applied
      rw [filter_isNew_cons]
      exact (List.filter_eq_self.mpr fun _ _ => rfl).symm
    have reached : ∀ before item, isNew (head :: before) item =
        (isNew [head] item && isNew before item) := by
      intro before item
      simp [isNew]
    rw [refresh, refresh, List.cons.injEq, inductionHypothesis, alone, alone]
    constructor
    · rintro ⟨same, others⟩ before item after whole first
      cases before with
      | nil =>
        obtain ⟨rfl, -⟩ := List.cons.inj whole
        exact same
      | cons front before =>
        obtain ⟨rfl, inner⟩ := List.cons.inj whole
        obtain ⟨apart, new⟩ := Bool.and_eq_true_iff.mp ((reached before item).symm.trans first)
        have left := others before item after inner new
        rwa [override_first _ _ item apart, override_first _ _ item apart] at left
    · intro agree
      refine ⟨agree [] head rest rfl rfl, fun before item after whole new => ?_⟩
      cases apart : isNew [head] item with
      | false => rw [override_repeated _ _ item apart, override_repeated _ _ item apart]
      | true =>
        rw [override_first _ _ item apart, override_first _ _ item apart]
        refine agree (head :: before) item after (by rw [whole, List.cons_append]) ?_
        rw [reached, apart, new, Bool.and_self]

/-- If everything is known already, then everything is applied. -/
theorem applications_of_known (known : List Item) (groups : List (List Item))
    (old : ∀ item ∈ groups.flatten, isNew known item = false) :
    additions known groups = [] ∧ applications known groups = groups.flatten := by
  have none : groups.flatten.filter (isNew known) = [] :=
    List.filter_eq_nil_iff.mpr fun item listed => by simp [old item listed]
  have all : groups.flatten.filter (!isNew known ·) = groups.flatten :=
    List.filter_eq_self.mpr fun item listed => by simp [old item listed]
  obtain ⟨added, applied⟩ := additions_of_nodup known groups (by rw [none]; exact List.nodup_nil)
  exact ⟨added.trans none, applied.trans all⟩

/-- The keys that a companion states are known once it is merged. -/
theorem known_of_merged (known : List Item) (groups : List (List Item)) :
    ∀ item ∈ groups.flatten, isNew (groups.foldl mergeGroup known) item = false := by
  have listed : ∀ item ∈ groups.flatten,
      item.key ∈ (known ++ additions known groups).map Item.key := by
    induction groups generalizing known with
    | nil => simp
    | cons group rest inductionHypothesis =>
      intro item stated
      rw [additions, ← List.append_assoc]
      rcases List.mem_append.mp stated with first | later
      · rw [List.map_append, List.map_append]
        refine List.mem_append_left _ ?_
        cases new : isNew known item with
        | false => exact List.mem_append_left _ ((isNew_eq_false known item).mp new)
        | true =>
          exact List.mem_append_right _
            (List.mem_map_of_mem (List.mem_filter.mpr ⟨first, new⟩))
      · exact inductionHypothesis _ item later
  intro item stated
  rw [isNew_eq_false, keys_foldl_mergeGroup, ← List.map_append]
  exact listed item stated

/-- Merging once more changes nothing exactly if each item carries what is stated that is the
first of its key and that only its own group states. -/
theorem again_iff (known : List Item) (groups : List (List Item)) :
    groups.foldl mergeGroup (groups.foldl mergeGroup known) = groups.foldl mergeGroup known ↔
      ∀ before item after, known ++ additions known groups = before ++ item :: after →
        isNew before item = true → lastStated (applications known groups) item = none →
        Carries groups.flatten item := by
  obtain ⟨noneAdded, allApplied⟩ := applications_of_known _ _ (known_of_merged known groups)
  rw [foldl_mergeGroup (groups.foldl mergeGroup known), noneAdded, allApplied, List.append_nil,
    foldl_mergeGroup known, refresh_refresh, refresh_eq_iff]
  -- The second merge applies everything that is stated; where the first applied something with a
  -- key, that was stated last already.
  have pointwise : ∀ item, override (applications known groups ++ groups.flatten) item =
      override (applications known groups) item ↔
        (lastStated (applications known groups) item = none → Carries groups.flatten item) := by
    intro item
    rw [override, override, lastStated_append]
    cases applied : lastStated (applications known groups) item with
    | none =>
      cases stated : lastStated groups.flatten item with
      | none => simp [Carries, stated]
      | some metadata =>
        obtain ⟨kind, path, said⟩ := item
        simp [Carries, stated, eq_comm]
    | some metadata =>
      simp [lastStated_of_applications known groups item applied]
  constructor
  · intro agree before item after whole first
    exact (pointwise item).mp (agree before item after whole first)
  · intro carried before item after whole first
    exact (pointwise item).mpr (carried before item after whole first)

end Again

section Companions

/-- The companion with elements of items in one group. -/
def inOneGroup (elements : List Element) : Element :=
  .mk "Project" [] "" [.mk "ItemGroup" [] "" elements]

/-- The companion with every element of an item in a group of its own. -/
def inOwnGroups (elements : List Element) : Element :=
  .mk "Project" [] "" (elements.map fun element => .mk "ItemGroup" [] "" [element])

theorem groupsOf_inOneGroup (elements : List Element) :
    groupsOf (some (inOneGroup elements)) = [elements.map Item.ofElement] := rfl

theorem groupsOf_inOwnGroups (elements : List Element) :
    groupsOf (some (inOwnGroups elements)) =
      (elements.map Item.ofElement).map fun item => [item] := by
  have groups : (elements.map fun element => Element.mk "ItemGroup" [] "" [element]).filter
      (·.name = "ItemGroup") =
        elements.map fun element => Element.mk "ItemGroup" [] "" [element] := by
    rw [List.filter_eq_self]
    intro group listed
    obtain ⟨element, -, rfl⟩ := List.mem_map.mp listed
    rfl
  change ((elements.map fun element => Element.mk "ItemGroup" [] "" [element]).filter
      (·.name = "ItemGroup")).map itemsOf = _
  rw [groups, List.map_map, List.map_map]
  rfl

/-- What a companion states stands in elements. -/
theorem stated_eq_map (companion : Option Element) :
    ∃ elements : List Element, (groupsOf companion).flatten = elements.map Item.ofElement := by
  rw [groupsOf]
  cases companion.bind projectElement? with
  | none => exact ⟨[], rfl⟩
  | some element =>
    refine ⟨((element.children.filter (·.name = "ItemGroup")).map Element.children).flatten, ?_⟩
    rw [List.map_flatten, List.map_map]
    rfl

/-- How a companion is cut into groups does not matter exactly if no two of its new items are the
same. -/
theorem cutting_iff (known : List Item) (companion : Option Element) :
    (∀ other, (groupsOf other).flatten = (groupsOf companion).flatten →
        (readCompanion known other).value = (readCompanion known companion).value) ↔
      (((groupsOf companion).flatten.filter (isNew known)).map Item.key).Nodup := by
  constructor
  · intro agree
    obtain ⟨elements, stated⟩ := stated_eq_map companion
    have one := agree (some (inOneGroup elements)) (by
      rw [groupsOf_inOneGroup, List.flatten_singleton, stated])
    have own := agree (some (inOwnGroups elements)) (by
      rw [groupsOf_inOwnGroups, stated, ← List.flatMap_def, List.flatMap_singleton'])
    rw [stated]
    refine nodup_of_cuts_agree known _ ?_
    have same := one.trans own.symm
    rwa [value_readCompanion, value_readCompanion, groupsOf_inOneGroup, groupsOf_inOwnGroups]
      at same
  · intro distinct other same
    obtain ⟨added, applied⟩ := additions_of_nodup known (groupsOf companion) distinct
    rw [← same] at distinct
    obtain ⟨otherAdded, otherApplied⟩ := additions_of_nodup known (groupsOf other) distinct
    rw [value_readCompanion, value_readCompanion, foldl_mergeGroup, foldl_mergeGroup, added,
      applied, otherAdded, otherApplied, same]

/-- Exactly when a companion overrides what is said about items. Behind the known items stand
those that it adds, and the first item of each key says what is applied to it last. All items
carry what the companion states last exactly if those do that are repeated, or that only their own
group states; the cutting into groups does not matter exactly if no two new items are the same;
and merging once more changes nothing exactly if the first items carry it of what only their own
groups state. -/
theorem readCompanion_overrides_iff (known : List Item) (companion : Option Element) :
    ((∀ item ∈ (readCompanion known companion).value,
          Carries (groupsOf companion).flatten item) ↔
        ∀ before item after,
          known ++ additions known (groupsOf companion) = before ++ item :: after →
          isNew before item = false ∨
            lastStated (applications known (groupsOf companion)) item = none →
          Carries (groupsOf companion).flatten item) ∧
      ((∀ other, (groupsOf other).flatten = (groupsOf companion).flatten →
          (readCompanion known other).value = (readCompanion known companion).value) ↔
        (((groupsOf companion).flatten.filter (isNew known)).map Item.key).Nodup) ∧
      ((readCompanion (readCompanion known companion).value companion).value =
          (readCompanion known companion).value ↔
        ∀ before item after,
          known ++ additions known (groupsOf companion) = before ++ item :: after →
          isNew before item = true →
          lastStated (applications known (groupsOf companion)) item = none →
          Carries (groupsOf companion).flatten item) := by
  refine ⟨?_, cutting_iff known companion, ?_⟩
  · rw [value_readCompanion]
    exact carries_iff known (groupsOf companion)
  · rw [value_readCompanion, value_readCompanion]
    exact again_iff known (groupsOf companion)

/-- A source file. -/
def sourceItem (path : String) (metadata : List Metadata) : Item := ⟨"ClCompile", path, metadata⟩

/-- A companion that states a source file in a filter. -/
def sourceInFilter : Element :=
  .mk "Project" [] "" [
    .mk "ItemGroup" [] "" [
      .mk "ClCompile" [⟨"Include", "a.cpp"⟩] "" [.mk "Filter" [] "Src" []]]]

/-- Not every item carries what a companion states last: of two items that are the same the second
keeps what it says. -/
theorem sourceInFilter_reaches_first_alone :
    ¬ ∀ item ∈ (readCompanion [sourceItem "a.cpp" [], sourceItem "A.cpp" []]
          (some sourceInFilter)).value,
      Carries (groupsOf (some sourceInFilter)).flatten item := by
  decide

end Companions

end ProjectScribe.Reading.ElementFormat
