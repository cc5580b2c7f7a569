import Mathlib.Data.List.Basic
import ProjectScribe.Reading.ElementFormat

/-!
# How a companion's items join those of a project file

Two items are the same if they agree in their `key`. The groups of a companion come one after the
other. An item of a group is applied if an item known before the group is the same, and added
behind the known ones otherwise; applied items change what the first item of their key says. All
groups together do no more than this: the known items are followed by all that are added, and
then the first item of each key says what the last applied item of the key says.
-/
namespace ProjectScribe.Reading.ElementFormat

open Xml (Element)

/-- What makes two items the same: the kind, and the path in its normal form up to case. -/
def Item.key (item : Item) : String × String :=
  (item.kind, Text.lower (Path.normal item.path))

theorem Item.isSame_iff (left right : Item) :
    left.isSame right = true ↔ left.key = right.key := by
  simp [Item.isSame, Item.key, Text.sameLetters_iff]

/-- Being the same depends on the keys alone. -/
theorem Item.isSame_eq (left right : Item) : left.isSame right = decide (left.key = right.key) := by
  rw [Bool.eq_iff_iff, Item.isSame_iff, decide_eq_true_eq]

/-- Whether an item is new beside known ones. -/
def isNew (known : List Item) (item : Item) : Bool := !known.any (·.isSame item)

/-- What the last of several items says that is the same as an item. -/
def lastStated (items : List Item) (item : Item) : Option (List Metadata) :=
  (items.filter (·.isSame item)).getLast?.map (·.metadata)

/-- An item that says what the last of several items says that is the same. -/
def override (applied : List Item) (item : Item) : Item :=
  { item with metadata := (lastStated applied item).getD item.metadata }

/-- Known items, the first of each key as applied items leave it. -/
def refresh (applied : List Item) : List Item → List Item
  | [] => []
  | item :: rest => override applied item :: refresh (applied.filter (!·.isSame item)) rest

/-- The items of groups that are added to known ones. -/
def additions (known : List Item) : List (List Item) → List Item
  | [] => []
  | group :: rest =>
    let added := group.filter (isNew known)
    added ++ additions (known ++ added) rest

/-- The items of groups that are applied to known ones, or to those that are added before. -/
def applications (known : List Item) : List (List Item) → List Item
  | [] => []
  | group :: rest =>
    group.filter (!isNew known ·) ++ applications (known ++ group.filter (isNew known)) rest

/-- The groups of a companion. -/
def groupsOf (companion : Option Element) : List (List Item) :=
  match companion.bind projectElement? with
  | none => []
  | some element => (element.children.filter (·.name = "ItemGroup")).map itemsOf

section Keys

variable (known : List Item) (item : Item)

theorem isNew_eq_false : isNew known item = false ↔ item.key ∈ known.map Item.key := by
  simp [isNew, Item.isSame_iff]

theorem isNew_iff : isNew known item = true ↔ item.key ∉ known.map Item.key := by
  rw [← isNew_eq_false, Bool.not_eq_false]

/-- Whether an item is new depends on its key alone. -/
theorem isNew_eq_of_key {left right : Item} (same : left.key = right.key) :
    isNew known left = isNew known right := by
  rw [Bool.eq_iff_iff, isNew_iff, isNew_iff, same]

/-- Whether an item is new depends on the keys of the known ones alone. -/
theorem isNew_congr {known other : List Item} (keys : known.map Item.key = other.map Item.key) :
    isNew known = isNew other := by
  funext item
  rw [Bool.eq_iff_iff, isNew_iff, isNew_iff, keys]

/-- What is new beside one item and others is what passes the one and is new beside the others. -/
theorem filter_isNew_cons (applied rest : List Item) :
    applied.filter (isNew (item :: rest)) =
      (applied.filter (!·.isSame item)).filter (isNew rest) := by
  rw [List.filter_filter]
  apply List.filter_congr
  intro other _
  rw [isNew, isNew, List.any_cons, Bool.not_or, Bool.and_comm, Item.isSame_eq other item,
    Item.isSame_eq item other, decide_eq_decide.mpr eq_comm]

theorem key_override (applied : List Item) : (override applied item).key = item.key := rfl

theorem keys_refresh (applied list : List Item) :
    (refresh applied list).map Item.key = list.map Item.key := by
  induction list generalizing applied with
  | nil => rfl
  | cons item rest inductionHypothesis =>
    rw [refresh, List.map_cons, List.map_cons, inductionHypothesis, key_override]

/-- What items say aside, applied items leave a list. -/
theorem labels_refresh (applied list : List Item) :
    (refresh applied list).map (fun item => (item.kind, item.path)) =
      list.map fun item => (item.kind, item.path) := by
  induction list generalizing applied with
  | nil => rfl
  | cons item rest inductionHypothesis =>
    rw [refresh, List.map_cons, List.map_cons, inductionHypothesis]
    rfl

theorem lastStated_congr (items : List Item) {left right : Item} (same : left.key = right.key) :
    lastStated items left = lastStated items right := by
  simp only [lastStated, Item.isSame_eq, same]

theorem lastStated_append (first second : List Item) :
    lastStated (first ++ second) item = (lastStated second item).or (lastStated first item) := by
  rw [lastStated, List.filter_append, List.getLast?_append, Option.map_or]
  rfl

/-- Nothing is said where no item is the same. -/
theorem lastStated_eq_none (items : List Item) :
    lastStated items item = none ↔ item.key ∉ items.map Item.key := by
  simp [lastStated, Item.isSame_iff]

/-- Items that are not the same as an item can be dropped. -/
theorem lastStated_filter (items : List Item) (keep : Item → Bool)
    (keeps : ∀ other ∈ items, other.key = item.key → keep other = true) :
    lastStated (items.filter keep) item = lastStated items item := by
  rw [lastStated, lastStated, List.filter_filter]
  congr 2
  apply List.filter_congr
  intro other listed
  cases same : other.isSame item with
  | false => rfl
  | true => rw [keeps other listed ((Item.isSame_iff other item).mp same), Bool.and_self]

/-- Nothing is said where the items that are the same are dropped. -/
theorem lastStated_filter_eq_none (items : List Item) (keep : Item → Bool)
    (drops : ∀ other ∈ items, other.key = item.key → keep other = false) :
    lastStated (items.filter keep) item = none := by
  rw [lastStated_eq_none, List.mem_map]
  rintro ⟨other, listed, same⟩
  obtain ⟨stated, kept⟩ := List.mem_filter.mp listed
  rw [drops other stated same] at kept
  exact Bool.false_ne_true kept

end Keys

section Refresh

theorem refresh_nil (list : List Item) : refresh [] list = list := by
  induction list with
  | nil => rfl
  | cons item rest inductionHypothesis =>
    rw [refresh, List.filter_nil, inductionHypothesis]
    rfl

/-- To apply some items and then others is to apply them all. -/
theorem refresh_refresh (first second list : List Item) :
    refresh second (refresh first list) = refresh (first ++ second) list := by
  induction list generalizing first second with
  | nil => rfl
  | cons item rest inductionHypothesis =>
    have head : override second (override first item) = override (first ++ second) item := by
      rw [override, lastStated_congr second (key_override item first), override, override,
        lastStated_append]
      cases lastStated second item <;> rfl
    have tail : second.filter (!·.isSame (override first item)) =
        second.filter (!·.isSame item) := by
      apply List.filter_congr
      intro other _
      rw [Item.isSame_eq, Item.isSame_eq, key_override]
    rw [refresh, refresh, refresh, inductionHypothesis, head, tail, ← List.filter_append]

/-- Items that are applied to a list reach those behind it only with keys that the list does not
have. -/
theorem refresh_append (applied list more : List Item) :
    refresh applied (list ++ more) =
      refresh applied list ++ refresh (applied.filter (isNew list)) more := by
  induction list generalizing applied with
  | nil =>
    have all : applied.filter (isNew []) = applied :=
      List.filter_eq_self.mpr fun _ _ => rfl
    rw [all]
    rfl
  | cons item rest inductionHypothesis =>
    rw [List.cons_append, refresh, inductionHypothesis, filter_isNew_cons, refresh,
      List.cons_append]

/-- Items of which none is new beside a list reach nothing behind it. -/
theorem refresh_append_of_known (applied list more : List Item)
    (known : ∀ item ∈ applied, isNew list item = false) :
    refresh applied (list ++ more) = refresh applied list ++ more := by
  have none : applied.filter (isNew list) = [] :=
    List.filter_eq_nil_iff.mpr fun item listed => by simp [known item listed]
  rw [refresh_append, none, refresh_nil]

/-- An item that no applied item is the same as stays what it is, where it is. -/
theorem getElem?_refresh (applied list : List Item) (place : Nat) (item : Item)
    (stands : list[place]? = some item) (apart : item.key ∉ applied.map Item.key) :
    (refresh applied list)[place]? = some item := by
  induction list generalizing applied place with
  | nil => simp at stands
  | cons first rest inductionHypothesis =>
    rw [refresh]
    cases place with
    | zero =>
      have same : first = item := by simpa using stands
      rw [List.getElem?_cons_zero, same, override, (lastStated_eq_none item applied).mpr apart]
      rfl
    | succ place =>
      rw [List.getElem?_cons_succ] at stands ⊢
      refine inductionHypothesis _ place stands fun listed => apart ?_
      exact List.map_subset _ (List.filter_subset_self _) listed

end Refresh

section Merge

/-- What the first item that is the same says is replaced, unless the given item is new. -/
theorem replaceFirst_eq (item : Item) (known : List Item) :
    replaceFirst item known = if isNew known item then none else some (refresh [item] known) := by
  induction known with
  | nil => rfl
  | cons first rest inductionHypothesis =>
    have mirrored : item.isSame first = first.isSame item := by
      rw [Item.isSame_eq, Item.isSame_eq, decide_eq_decide.mpr eq_comm]
    cases same : first.isSame item with
    | true =>
      have old : isNew (first :: rest) item = false := by simp [isNew, same]
      have said : lastStated [item] first = some item.metadata := by
        simp [lastStated, mirrored, same]
      -- The first match takes the item, and nothing is left to apply behind it.
      have passed : [item].filter (!·.isSame first) = [] := by simp [mirrored, same]
      rw [replaceFirst, if_pos same, old, refresh, passed, refresh_nil, override, said]
      rfl
    | false =>
      have unsaid : lastStated [item] first = none := by simp [lastStated, mirrored, same]
      have passed : [item].filter (!·.isSame first) = [item] := by simp [mirrored, same]
      have alike : isNew (first :: rest) item = isNew rest item := by simp [isNew, same]
      rw [replaceFirst, if_neg (by simp [same]), inductionHypothesis, refresh, passed, override,
        unsaid, alike]
      cases isNew rest item <;> rfl

/-- One group: the items that are not new are applied, and the new ones are left. -/
theorem mergeItems_eq (known incoming : List Item) :
    mergeItems known incoming =
      (refresh (incoming.filter (!isNew known ·)) known, incoming.filter (isNew known)) := by
  induction incoming generalizing known with
  | nil =>
    rw [mergeItems, List.filter_nil, List.filter_nil, refresh_nil]
  | cons item rest inductionHypothesis =>
    rw [mergeItems, replaceFirst_eq]
    cases new : isNew known item with
    | true => simp [new, inductionHypothesis]
    | false =>
      have alike := isNew_congr (keys_refresh [item] known)
      simp [new, inductionHypothesis, alike, refresh_refresh]

theorem mergeGroup_eq (known incoming : List Item) :
    mergeGroup known incoming =
      refresh (incoming.filter (!isNew known ·)) (known ++ incoming.filter (isNew known)) := by
  rw [mergeGroup, mergeItems_eq, refresh_append_of_known]
  intro item listed
  simpa using (List.mem_filter.mp listed).2

/-- Which items are added and which are applied depends on the keys of the known ones alone. -/
theorem additions_congr (groups : List (List Item)) {known other : List Item}
    (keys : known.map Item.key = other.map Item.key) :
    additions known groups = additions other groups ∧
      applications known groups = applications other groups := by
  induction groups generalizing known other with
  | nil => exact ⟨rfl, rfl⟩
  | cons group rest inductionHypothesis =>
    have alike := isNew_congr keys
    have keysMore : (known ++ group.filter (isNew other)).map Item.key =
        (other ++ group.filter (isNew other)).map Item.key := by
      rw [List.map_append, List.map_append, keys]
    obtain ⟨added, applied⟩ := inductionHypothesis keysMore
    rw [additions, applications, alike, added, applied]
    exact ⟨rfl, rfl⟩

/-- What is applied is stated by the companion. -/
theorem applications_subset (known : List Item) (groups : List (List Item)) :
    applications known groups ⊆ groups.flatten := by
  induction groups generalizing known with
  | nil => exact List.Subset.refl _
  | cons group rest inductionHypothesis =>
    intro item listed
    rw [List.flatten_cons, List.mem_append]
    rcases List.mem_append.mp listed with first | later
    · exact .inl (List.mem_filter.mp first).1
    · exact .inr (inductionHypothesis _ later)

/-- Items that are added are new beside the known ones. -/
theorem isNew_of_mem_additions (known : List Item) (groups : List (List Item)) :
    ∀ item ∈ additions known groups, isNew known item = true := by
  induction groups generalizing known with
  | nil => simp [additions]
  | cons group rest inductionHypothesis =>
    intro item listed
    rcases List.mem_append.mp listed with first | later
    · exact (List.mem_filter.mp first).2
    · have new := inductionHypothesis _ item later
      simp only [isNew, List.any_append, Bool.not_or, Bool.and_eq_true] at new ⊢
      exact new.1

/-- All groups together: the known items and those that are added, the first of each key as the
applied items leave it. -/
theorem foldl_mergeGroup (known : List Item) (groups : List (List Item)) :
    groups.foldl mergeGroup known =
      refresh (applications known groups) (known ++ additions known groups) := by
  induction groups generalizing known with
  | nil => rw [List.foldl_nil, applications, additions, List.append_nil, refresh_nil]
  | cons group rest inductionHypothesis =>
    -- Applying items leaves the keys, so the later groups meet the same known keys either way.
    have keys := keys_refresh (group.filter (!isNew known ·)) (known ++ group.filter (isNew known))
    have applied : ∀ item ∈ group.filter (!isNew known ·),
        isNew (known ++ group.filter (isNew known)) item = false := by
      intro item listed
      have old : isNew known item = false := by simpa using (List.mem_filter.mp listed).2
      rw [isNew_eq_false, List.map_append]
      exact List.mem_append_left _ ((isNew_eq_false known item).mp old)
    obtain ⟨sameAdded, sameApplied⟩ := additions_congr rest keys
    rw [List.foldl_cons, inductionHypothesis, mergeGroup_eq, sameApplied, sameAdded,
      ← refresh_append_of_known _ _ _ applied, refresh_refresh, applications, additions,
      List.append_assoc]

/-- Groups are merged in their order, whatever stands among them. -/
theorem value_readCompanionParts (known : List Item) (parts : List Element) :
    (Reported.fold readCompanionPart known parts).value =
      ((parts.filter (·.name = "ItemGroup")).map itemsOf).foldl mergeGroup known := by
  induction parts generalizing known with
  | nil => rfl
  | cons part rest inductionHypothesis =>
    rw [Reported.fold, Reported.value_bind, inductionHypothesis, readCompanionPart]
    by_cases isGroup : part.name = "ItemGroup"
    · rw [if_pos isGroup, List.filter_cons_of_pos (by simpa using isGroup)]
      rfl
    · rw [if_neg isGroup, List.filter_cons_of_neg (by simpa using isGroup)]
      rfl

/-- The items known after a companion: its groups are merged one after the other. -/
theorem value_readCompanion (known : List Item) (companion : Option Element) :
    (readCompanion known companion).value = (groupsOf companion).foldl mergeGroup known := by
  rw [readCompanion, groupsOf]
  cases companion.bind projectElement? with
  | none => rfl
  | some element => exact value_readCompanionParts known element.children

end Merge

end ProjectScribe.Reading.ElementFormat
