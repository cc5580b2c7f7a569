import ProjectScribe.Proofs.FilterTree.Keys
import ProjectScribe.Proofs.Reading.FilterChains
import ProjectScribe.Proofs.Reading.ItemFiles

/-!
# What filter items make of a tree

The tree of items has a filter for every path that an item names, whether it states the filter or
stands in it, and for the beginnings of that path; it has no others, and paths count up to case and
separators. What a filter says about its files is what the filter items with its path say last; a
filter that only comes about with a path says nothing. All this is kept step by step, and holds of
the complete tree.
-/
namespace ProjectScribe.Reading.ElementFormat

open FilterTree (KeepsNames)

/-- The key of the filter with a path. -/
def filterKey (path : String) : List String := (filterNames path).map Text.lower

/-- The last thing of a name that items say about the filter with a key. -/
def lastSaid (filters : List Item) (key : List String) (name : String) : Option String :=
  filters.reverse.findSome? fun item => if filterKey item.path = key then item.find? name else none

/-- The extensions that items give to the filter with a key. -/
def extensionsSaid (filters : List Item) (key : List String) : Option (List String) :=
  (lastSaid filters key "Extensions").map (items isSemicolon)

/-- Whether the files of the filter with a key are tracked, as far as items say. -/
def trackedSaid (filters : List Item) (key : List String) : Bool :=
  (lastSaid filters key "SourceControlFiles").all isYes

/-- A key that is the root's or leads to one of some keys. -/
def Leads (keys : List (List String)) (key : List String) : Prop :=
  key = [] ∨ ∃ wanted ∈ keys, key <+: wanted

/-- A tree that has the filters on the way to some keys, once each, and says about them what filter
items say. -/
structure Reflects (tree : FilterTree) (keys : List (List String)) (filters : List Item) :
    Prop where
  grown : tree.Grown
  apart : tree.SiblingsApart
  places : ∀ key, (∃ place, place < tree.size ∧ tree.keyAt place = key) ↔ Leads keys key
  known : ∀ item ∈ filters, ∃ place, place < tree.size ∧ tree.keyAt place = filterKey item.path
  said : ∀ place node, tree.node? place = some node →
    node.extensions = extensionsSaid filters (tree.keyAt place) ∧
      node.isTracked = trackedSaid filters (tree.keyAt place)

section Saying

/-- What is said last is what the last item says, or else what the items before it say. -/
theorem lastSaid_concat (filters : List Item) (item : Item) (key : List String) (name : String) :
    lastSaid (filters ++ [item]) key name =
      if filterKey item.path = key then (item.find? name).or (lastSaid filters key name)
      else lastSaid filters key name := by
  rw [lastSaid, List.reverse_append, List.reverse_singleton, List.findSome?_append]
  split <;> simp_all [lastSaid]

/-- Nothing is said about a filter that no item states. -/
theorem lastSaid_of_unknown {filters : List Item} {key : List String}
    (unknown : ∀ item ∈ filters, filterKey item.path ≠ key) (name : String) :
    lastSaid filters key name = none := by
  rw [lastSaid, List.findSome?_eq_none_iff]
  intro item listed
  rw [if_neg (unknown item (List.mem_reverse.mp listed))]

/-- Where no two items state one filter, what is said is what the one item says that states it. -/
theorem lastSaid_eq_some_iff {filters : List Item}
    (apart : filters.Pairwise fun first second => filterKey first.path ≠ filterKey second.path)
    (key : List String) (name value : String) :
    lastSaid filters key name = some value ↔
      ∃ item ∈ filters, filterKey item.path = key ∧ item.find? name = some value := by
  induction filters using List.reverseRecOn with
  | nil => simp [lastSaid]
  | append_singleton filters last inductionHypothesis =>
    obtain ⟨apartBefore, -, others⟩ := List.pairwise_append.mp apart
    have further := inductionHypothesis apartBefore
    rw [lastSaid_concat]
    by_cases states : filterKey last.path = key
    · have unknown : ∀ item ∈ filters, filterKey item.path ≠ key := by
        intro item listed
        rw [← states]
        exact others item listed last List.mem_cons_self
      rw [if_pos states, lastSaid_of_unknown unknown, Option.or_none]
      simp only [List.mem_append, List.mem_singleton]
      constructor
      · intro found
        exact ⟨last, .inr rfl, states, found⟩
      · rintro ⟨item, listed | rfl, same, found⟩
        · exact absurd same (unknown item listed)
        · exact found
    · rw [if_neg states, further]
      simp only [List.mem_append, List.mem_singleton]
      constructor
      · rintro ⟨item, listed, same, found⟩
        exact ⟨item, .inl listed, same, found⟩
      · rintro ⟨item, listed | rfl, same, found⟩
        · exact ⟨item, listed, same, found⟩
        · exact absurd same states

end Saying

section Lookup

variable {tree : FilterTree}

/-- A filter that is found by its name stands below the place and has the name, up to case. -/
theorem of_childNamed (shaped : tree.Shaped) {place child : Nat} {name : String}
    (found : childNamed tree place name = some child) :
    tree.parentOf child = some place ∧
      ∃ node, tree.node? child = some node ∧ Text.lower node.name = Text.lower name := by
  have below := (shaped.mem_childrenOf place child).mp (List.mem_of_find?_eq_some found)
  have named := List.find?_some found
  refine ⟨below.1, ?_⟩
  cases stands : tree.node? child with
  | none =>
    rw [stands] at named
    cases named
  | some node =>
    rw [stands, Option.any_some] at named
    exact ⟨node, rfl, Text.sameLetters_iff.mp named⟩

/-- Where no filter is found by a name, no filter below the place has it, in any case. -/
theorem of_childNamed_eq_none (shaped : tree.Shaped) {place : Nat} {name : String}
    (inside : place < tree.size) (missing : childNamed tree place name = none) (child : Nat)
    (node : FilterNode) (above : tree.parentOf child = some place)
    (stands : tree.node? child = some node) : Text.lower node.name ≠ Text.lower name := by
  rw [childNamed, List.find?_eq_none] at missing
  have apart := missing child ((shaped.mem_childrenOf place child).mpr ⟨above, inside⟩)
  rwa [stands, Option.any_some, Text.sameLetters_iff] at apart

/-- The place that names lead to has the names in its key. -/
theorem keyAt_locate (shaped : tree.Shaped) {place target : Nat} {names : List String}
    (found : locate tree place names = some target) :
    tree.keyAt target = tree.keyAt place ++ names.map Text.lower := by
  induction names generalizing place with
  | nil =>
    obtain rfl := Option.some.inj found
    rw [List.map_nil, List.append_nil]
  | cons name rest inductionHypothesis =>
    obtain ⟨child, first, further⟩ := Option.bind_eq_some_iff.mp found
    obtain ⟨above, node, stands, same⟩ := of_childNamed shaped first
    rw [inductionHypothesis further, shaped.keyAt_of_parentOf above stands, same, List.map_cons,
      List.append_assoc, List.singleton_append]

end Lookup

section Keys

/-- Whether a key leads on depends only on what the keys begin with. -/
theorem leads_concat_iff (keys : List (List String)) (wanted key : List String) :
    Leads (keys ++ [wanted]) key ↔ Leads keys key ∨ key <+: wanted := by
  simp only [Leads, List.mem_append, List.mem_singleton]
  constructor
  · rintro (top | ⟨other, listed | rfl, begins⟩)
    · exact .inl (.inl top)
    · exact .inl (.inr ⟨other, listed, begins⟩)
    · exact .inr begins
  · rintro ((top | ⟨other, listed, begins⟩) | begins)
    · exact .inl top
    · exact .inr ⟨other, .inl listed, begins⟩
    · exact .inr ⟨wanted, .inr rfl, begins⟩

/-- What a key begins with leads where the key does. -/
theorem Leads.of_start {keys : List (List String)} {key start : List String}
    (leads : Leads keys key) (begins : start <+: key) : Leads keys start := by
  rcases leads with rfl | ⟨wanted, listed, further⟩
  · exact .inl (List.prefix_nil.mp begins)
  · exact .inr ⟨wanted, listed, begins.trans further⟩

end Keys

namespace Reflects

variable {tree : FilterTree} {keys : List (List String)} {filters : List Item}

/-- The tree with nothing but the root has no filters and says nothing. -/
theorem empty : Reflects .empty [] [] where
  grown := .empty
  apart := by
    intro first second parent node other above _ _ _ _
    have behind := FilterTree.empty_shaped.lt_of_parentOf above
    have size : FilterTree.empty.size = 1 := rfl
    omega
  places := by
    intro key
    constructor
    · rintro ⟨place, inside, rfl⟩
      obtain rfl : place = 0 := Nat.lt_one_iff.mp inside
      exact .inl rfl
    · rintro (rfl | ⟨wanted, listed, -⟩)
      · exact ⟨0, by decide, rfl⟩
      · cases listed
  known := by simp
  said := by
    intro place node stands
    have inside := FilterTree.lt_size_of_node? stands
    obtain rfl : place = 0 := Nat.lt_one_iff.mp inside
    obtain rfl := Option.some.inj stands
    exact ⟨rfl, rfl⟩

/-- The places of a tree have keys that lead to the wanted ones. -/
theorem leads (reflects : Reflects tree keys filters) {place : Nat} (inside : place < tree.size) :
    Leads keys (tree.keyAt place) :=
  (reflects.places _).mp ⟨place, inside, rfl⟩

/-- Keys that lead to the same are as good. -/
theorem of_leads {others : List (List String)} (reflects : Reflects tree keys filters)
    (same : ∀ key, Leads keys key ↔ Leads others key) : Reflects tree others filters :=
  { reflects with places := fun key => (reflects.places key).trans (same key) }

/-- A missing filter is added with the key that leads to it, and says nothing yet. -/
theorem addChild (reflects : Reflects tree keys filters) (place : Nat) (name : String)
    (inside : place < tree.size) (missing : childNamed tree place name = none) :
    Reflects (tree.addChild place { name := name })
      (keys ++ [tree.keyAt place ++ [Text.lower name]]) filters := by
  have shaped := reflects.grown.shaped
  have grown := reflects.grown.addChild place { name := name } inside rfl
  have apart := reflects.apart.addChild place { name := name } inside
    (of_childNamed_eq_none shaped inside missing)
  have keeps := KeepsNames.addChild tree place { name := name } inside
  have size := tree.size_addChild place { name := name }
  have newKey := FilterTree.keyAt_addChild shaped place { name := name } inside rfl
  have oldKey : ∀ other, other < tree.size →
      (tree.addChild place { name := name }).keyAt other = tree.keyAt other :=
    fun other old => keeps.keyAt_eq shaped grown.shaped old
  have known : ∀ item ∈ filters, ∃ other, other < tree.size ∧
      (tree.addChild place { name := name }).keyAt other = filterKey item.path := by
    intro item listed
    obtain ⟨other, old, key⟩ := reflects.known item listed
    exact ⟨other, old, (oldKey other old).trans key⟩
  refine ⟨grown, apart, fun key => ?_, fun item listed => ?_, fun other node stands => ?_⟩
  · rw [leads_concat_iff, ← reflects.places key]
    constructor
    · rintro ⟨other, placed, rfl⟩
      by_cases new : other = tree.size
      · rw [new, newKey]
        exact .inr List.prefix_rfl
      · have old : other < tree.size := by omega
        exact .inl ⟨other, old, (oldKey other old).symm⟩
    · rintro (⟨other, old, rfl⟩ | begins)
      · exact ⟨other, by omega, oldKey other old⟩
      · -- What the new key begins with is the key itself, or leads to the place above it.
        rcases List.prefix_concat_iff.mp begins with rfl | earlier
        · exact ⟨tree.size, by omega, newKey⟩
        · obtain ⟨other, old, same⟩ :=
            (reflects.places key).mpr ((reflects.leads inside).of_start earlier)
          exact ⟨other, by omega, (oldKey other old).trans same⟩
  · obtain ⟨other, old, key⟩ := known item listed
    exact ⟨other, by omega, key⟩
  · by_cases new : other = tree.size
    · -- An item that states the new filter would have its place among the old ones.
      subst new
      have unknown : ∀ item ∈ filters, filterKey item.path ≠
          (tree.addChild place { name := name }).keyAt tree.size := by
        intro item listed same
        obtain ⟨other, old, key⟩ := known item listed
        have one := grown.shaped.eq_of_keyAt apart (by omega) (by omega) (key.trans same)
        omega
      rw [tree.node?_addChild place tree.size _ inside, if_pos rfl] at stands
      obtain rfl := Option.some.inj stands
      rw [extensionsSaid, trackedSaid, lastSaid_of_unknown unknown, lastSaid_of_unknown unknown]
      exact ⟨rfl, rfl⟩
    · have old : other < tree.size := by
        have placed := FilterTree.lt_size_of_node? stands
        omega
      rw [oldKey other old]
      rw [tree.node?_addChild place other _ inside, if_neg new] at stands
      split at stands
      · obtain ⟨earlier, stood, rfl⟩ := Option.map_eq_some_iff.mp stands
        exact reflects.said other earlier stood
      · exact reflects.said other node stands

/-- Going down along names adds the key that they lead to. -/
theorem descend (reflects : Reflects tree keys filters) (place : Nat) (inside : place < tree.size)
    (names : List String) :
    Reflects (descend tree place names).1
      (keys ++ [tree.keyAt place ++ names.map Text.lower]) filters := by
  induction names generalizing tree keys place with
  | nil =>
    rw [List.map_nil, List.append_nil]
    refine reflects.of_leads fun key => ?_
    rw [leads_concat_iff]
    refine ⟨.inl, fun either => either.elim id ?_⟩
    exact (reflects.leads inside).of_start
  | cons name rest inductionHypothesis =>
    rw [ElementFormat.descend]
    cases found : childNamed tree place name with
    | some child =>
      obtain ⟨above, node, stands, same⟩ := of_childNamed reflects.grown.shaped found
      have further := inductionHypothesis reflects child
        (lt_size_of_childNamed reflects.grown.shaped found)
      rwa [reflects.grown.shaped.keyAt_of_parentOf above stands, same, List.append_assoc] at further
    | none =>
      have added := reflects.addChild place name inside found
      have further := inductionHypothesis added tree.size (by simp)
      have newKey :=
        FilterTree.keyAt_addChild reflects.grown.shaped place { name := name } inside rfl
      rw [newKey] at further
      refine further.of_leads fun key => ?_
      rw [leads_concat_iff, leads_concat_iff, leads_concat_iff, List.append_assoc,
        List.singleton_append, List.map_cons]
      -- The new filter lies on the way to where the other names lead.
      have onTheWay : key <+: tree.keyAt place ++ [Text.lower name] →
          key <+: tree.keyAt place ++ Text.lower name :: rest.map Text.lower := by
        intro begins
        rw [List.append_cons]
        exact begins.trans (List.prefix_append _ _)
      tauto

/-- A change of what a node says is reflected if it says what is said about its filter. -/
theorem modify {others : List Item} (reflects : Reflects tree keys filters) (place : Nat)
    (change : FilterNode → FilterNode) (position : FilterTree.KeepsPosition change)
    (name : ∀ node, (change node).name = node.name)
    (known : ∀ item ∈ others, ∃ place, place < tree.size ∧
      tree.keyAt place = filterKey item.path)
    (said : ∀ other node, tree.node? other = some node →
      let changed := if place = other then change node else node
      changed.extensions = extensionsSaid others (tree.keyAt other) ∧
        changed.isTracked = trackedSaid others (tree.keyAt other)) :
    Reflects (tree.modify place change) keys others := by
  have grown := reflects.grown.modify place change position
  have keeps := KeepsNames.modify tree place change position name
  have size := tree.size_modify place change
  have sameKey : ∀ other, other < tree.size →
      (tree.modify place change).keyAt other = tree.keyAt other :=
    fun other inside => keeps.keyAt_eq reflects.grown.shaped grown.shaped inside
  refine ⟨grown, reflects.apart.of_keepsNames keeps size, fun key => ?_, fun item listed => ?_,
    fun other node stands => ?_⟩
  · rw [← reflects.places key, size]
    refine exists_congr fun other => and_congr_right fun inside => ?_
    rw [sameKey other inside]
  · obtain ⟨other, inside, key⟩ := known item listed
    exact ⟨other, by omega, (sameKey other inside).trans key⟩
  · have inside : other < tree.size := by
      have placed := FilterTree.lt_size_of_node? stands
      omega
    rw [sameKey other inside]
    rw [FilterTree.node?_modify] at stands
    by_cases here : place = other
    · rw [if_pos here] at stands
      obtain ⟨earlier, stood, rfl⟩ := Option.map_eq_some_iff.mp stands
      have changed := said other earlier stood
      rwa [if_pos here] at changed
    · rw [if_neg here] at stands
      have kept := said other node stands
      rwa [if_neg here] at kept

/-- A file changes nothing of what the filters say. -/
theorem addFile (reflects : Reflects tree keys filters) (place : Nat) (file : FileEntry) :
    Reflects (tree.addFile place file) keys filters := by
  refine reflects.modify place _ (FilterTree.keepsPosition_addFile file) (fun _ => rfl)
    reflects.known fun other node stands => ?_
  dsimp only
  split <;> exact reflects.said other node stands

end Reflects

section Items

/-- The filter that a filter item states, with what the item says about it. -/
def Item.applyTo (item : Item) (node : FilterNode) : FilterNode :=
  { node with
    extensions := ((item.find? "Extensions").map (items isSemicolon)).or node.extensions
    isTracked := ((item.find? "SourceControlFiles").map isYes).getD node.isTracked }

/-- The tree after a filter item: the filter is there, and changed as the item says. -/
theorem value_addFilter (tree : FilterTree) (item : Item) :
    (addFilter tree item).value =
      (ensureFilter tree item.path).1.modify (ensureFilter tree item.path).2 item.applyTo := by
  have unchanged : ∀ (current : FilterTree) (place : Nat), current.modify place (fun node => node) =
      current := by
    intro current place
    rw [FilterTree.modify, show (fun node : FilterNode => node) = id from rfl, List.modify_id]
  have twice : ∀ (current : FilterTree) (place : Nat) (first second : FilterNode → FilterNode),
      (current.modify place first).modify place second =
        current.modify place fun node => second (first node) := by
    intro current place first second
    rw [FilterTree.modify, FilterTree.modify, List.modify_modify_eq]
    rfl
  rw [addFilter]
  obtain ⟨between, place⟩ := ensureFilter tree item.path
  simp only [Reported.value_bind, Reported.value_pure]
  have applied : item.applyTo = fun node =>
      { node with
        extensions := ((item.find? "Extensions").map (items isSemicolon)).or node.extensions
        isTracked := ((item.find? "SourceControlFiles").map isYes).getD node.isTracked } := rfl
  rw [applied]
  cases item.find? "Extensions" with
  | none =>
    cases item.find? "SourceControlFiles" with
    | none => exact (unchanged between place).symm
    | some tracked => simp only [Option.map_none, Option.none_or, Option.map_some, Option.getD_some]
  | some extensions =>
    cases item.find? "SourceControlFiles" with
    | none => simp only [Option.map_none, Option.map_some, Option.some_or, Option.getD_none]
    | some tracked => simp only [twice, Option.map_some, Option.some_or, Option.getD_some]

/-- The keys of the filters that an item needs: that of the filter in which it stands, if it is a
file. -/
def Item.filterKeys (item : Item) : List (List String) :=
  if item.isFile then [item.filterPath.map Text.lower] else []

namespace Reflects

variable {tree : FilterTree} {keys : List (List String)} {filters : List Item}

/-- A filter item is reflected, behind those that came before it. -/
theorem addFilter (reflects : Reflects tree keys filters) (item : Item) :
    Reflects (addFilter tree item).value (keys ++ [filterKey item.path]) (filters ++ [item]) := by
  have opened := reflects.descend FilterTree.root reflects.grown.shaped.rooted
    (filterNames item.path)
  have reached := ensureFilter_descends tree reflects.grown item.path
  rw [FilterTree.keyAt_root, List.nil_append] at opened
  rw [value_addFilter]
  rw [← ensureFilter] at opened
  generalize ensureFilter tree item.path = arrival at opened reached
  obtain ⟨between, place⟩ := arrival
  have inside : place < between.size := reached.inside
  have key : between.keyAt place = filterKey item.path := by
    rw [keyAt_locate opened.grown.shaped reached.located, FilterTree.keyAt_root, List.nil_append]
    rfl
  refine opened.modify place item.applyTo (fun _ => ⟨rfl, rfl⟩) (fun _ => rfl) ?_ ?_
  · intro other listed
    rcases List.mem_append.mp listed with earlier | last
    · exact opened.known other earlier
    · rw [List.mem_singleton.mp last]
      exact ⟨place, inside, key⟩
  · intro other node stands
    obtain ⟨extensions, tracked⟩ := opened.said other node stands
    have placed := FilterTree.lt_size_of_node? stands
    dsimp only
    rw [extensionsSaid, trackedSaid, lastSaid_concat, lastSaid_concat]
    by_cases here : place = other
    · subst here
      rw [if_pos rfl, if_pos key.symm, if_pos key.symm, Item.applyTo, extensions, tracked]
      constructor
      · cases item.find? "Extensions" <;> simp [extensionsSaid]
      · cases item.find? "SourceControlFiles" <;> simp [trackedSaid]
    · -- Another place has another key, about which the item says nothing.
      have apart : filterKey item.path ≠ between.keyAt other := by
        intro same
        exact here (opened.grown.shaped.eq_of_keyAt opened.apart inside placed (key.trans same))
      rw [if_neg here, if_neg apart, if_neg apart]
      exact ⟨extensions, tracked⟩

/-- An item that is no filter needs its filter, and says nothing about it. -/
theorem addItem (reflects : Reflects tree keys filters) (item : Item) :
    Reflects (addItem tree item).value (keys ++ item.filterKeys) filters := by
  have unfiled : item.isFile = false → (ElementFormat.addItem tree item).value = tree →
      Reflects (ElementFormat.addItem tree item).value (keys ++ item.filterKeys) filters := by
    intro noFile same
    rw [same, Item.filterKeys, noFile]
    simpa using reflects
  by_cases isOther : item.kind ∈ otherKinds
  · have apart : ∀ kind ∈ otherKinds, kind ∉ fileKinds := by decide
    refine unfiled (by simp [Item.isFile, apart item.kind isOther]) ?_
    rw [ElementFormat.addItem, if_pos isOther]
    rfl
  · by_cases isKind : item.kind ∈ fileKinds
    · by_cases pathless : Path.normal item.path = ""
      · refine unfiled (by simp [Item.isFile, pathless]) ?_
        rw [ElementFormat.addItem, if_neg isOther, if_neg (not_not_intro isKind)]
        dsimp only
        rw [if_pos pathless]
        rfl
      · have opened := reflects.descend FilterTree.root reflects.grown.shaped.rooted item.filterPath
        rw [FilterTree.keyAt_root, List.nil_append] at opened
        rw [ElementFormat.addItem, if_neg isOther, if_neg (not_not_intro isKind)]
        dsimp only
        rw [if_neg pathless, ElementFormat.addFile, ensureFilterOf_eq, Item.filterKeys,
          if_pos (by simp [Item.isFile, isKind, pathless])]
        generalize ElementFormat.descend tree FilterTree.root item.filterPath = arrival at opened
        obtain ⟨between, place⟩ := arrival
        dsimp only
        split
        · exact opened
        · exact opened.addFile place _
    · refine unfiled (by simp [Item.isFile, isKind]) ?_
      rw [ElementFormat.addItem, if_neg isOther, if_pos isKind]
      rfl

/-- Filter items are reflected one after the other. -/
theorem addFilters (reflects : Reflects tree keys filters) (more : List Item) :
    Reflects (Reported.fold ElementFormat.addFilter tree more).value
      (keys ++ more.map fun item => filterKey item.path) (filters ++ more) := by
  induction more generalizing tree keys filters with
  | nil => simpa [Reported.fold] using reflects
  | cons item rest inductionHypothesis =>
    have further := inductionHypothesis (reflects.addFilter item)
    simpa [Reported.fold] using further

/-- The filters of items are there after all of them. -/
theorem addItems (reflects : Reflects tree keys filters) (more : List Item) :
    Reflects (Reported.fold ElementFormat.addItem tree more).value
      (keys ++ more.flatMap (·.filterKeys)) filters := by
  induction more generalizing tree keys with
  | nil => simpa [Reported.fold] using reflects
  | cons item rest inductionHypothesis =>
    have further := inductionHypothesis (reflects.addItem item)
    simpa [Reported.fold] using further

end Reflects

/-- The filter items among all. -/
def filterItems (all : List Item) : List Item := all.filter (·.kind = "Filter")

/-- The keys that items want filters for: those of the filter items, and those of the filters in
which files stand. -/
def wantedKeys (all : List Item) : List (List String) :=
  ((filterItems all).map fun item => filterKey item.path) ++ all.flatMap (·.filterKeys)

/-- Filter items need no filters to stand in. -/
theorem filterKeys_others (all : List Item) :
    (all.filter (·.kind ≠ "Filter")).flatMap (·.filterKeys) = all.flatMap (·.filterKeys) := by
  induction all with
  | nil => rfl
  | cons item rest inductionHypothesis =>
    rw [List.flatMap_cons, ← inductionHypothesis]
    by_cases isFilter : item.kind = "Filter"
    · have noFile : item.isFile = false := by
        rw [Item.isFile, isFilter]
        rfl
      rw [List.filter_cons_of_neg (by simpa using isFilter), Item.filterKeys, noFile]
      rfl
    · rw [List.filter_cons_of_pos (by simpa using isFilter), List.flatMap_cons]

/-- The tree of items has the filters that these name, and says about them what the filter items
say. -/
theorem treeOfItems_reflects (all : List Item) :
    Reflects (treeOfItems all).value (wantedKeys all) (filterItems all) := by
  have filters := Reflects.empty.addFilters (filterItems all)
  have entered := filters.addItems (all.filter (·.kind ≠ "Filter"))
  rw [filterKeys_others, List.nil_append, List.nil_append] at entered
  exact entered

end Items

section Chains

/-- What the filters along names say about their files, below a filter with a key. -/
def markingsFrom (filters : List Item) (key : List String) : List String → List Marking
  | [] => []
  | name :: rest =>
    ⟨name, trackedSaid filters (key ++ [Text.lower name])⟩ ::
      markingsFrom filters (key ++ [Text.lower name]) rest

/-- The chain of the filters around an item. -/
def Item.chain (filters : List Item) (item : Item) : List Marking :=
  markingsFrom filters [] item.filterPath

/-- The last of some names adds its filter inside the others. -/
theorem markingsFrom_concat (filters : List Item) (key names : List String) (name : String) :
    markingsFrom filters key (names ++ [name]) =
      markingsFrom filters key names ++
        [⟨name, trackedSaid filters (key ++ (names ++ [name]).map Text.lower)⟩] := by
  induction names generalizing key with
  | nil => rfl
  | cons first rest inductionHypothesis =>
    rw [List.cons_append, markingsFrom, inductionHypothesis, markingsFrom]
    simp

/-- The reason for which a tree leaves out the files of a filter is that of the innermost filter
along its names. -/
theorem Reflects.inheritedSkipReason?_eq {tree : FilterTree} {keys : List (List String)}
    {filters : List Item} (reflects : Reflects tree keys filters) {place : Nat}
    (inside : place < tree.size) (names : List String)
    (key : tree.keyAt place = names.map Text.lower) :
    inheritedSkipReason? tree place = innermostReason? (markingsFrom filters [] names) := by
  have shaped := reflects.grown.shaped
  induction place using Nat.strongRecOn generalizing names with
  | ind place inductionHypothesis =>
    rcases shaped.root_or_below inside with rfl | ⟨parent, node, earlier, above, stands⟩
    · rw [FilterTree.keyAt_root] at key
      obtain rfl := List.map_eq_nil_iff.mp key.symm
      rfl
    · have tracked := (reflects.said place node stands).2
      rw [key] at tracked
      rw [shaped.keyAt_of_parentOf above stands] at key
      obtain ⟨others, last, rfl, keyAbove, same⟩ := List.append_eq_map_iff.mp key
      obtain ⟨name, rfl, named⟩ := List.map_eq_singleton_iff.mp same
      clear same
      have further := inductionHypothesis parent earlier (by omega) others keyAbove.symm
      rw [inheritedSkipReason?] at further
      rw [markingsFrom_concat, innermostReason?_concat, ← further, inheritedSkipReason?,
        shaped.ancestry_of_parentOf above, stands]
      have same : (⟨name, node.isTracked⟩ : Marking).reason? =
          filterSkipReason? node.name node.isTracked := by
        rw [Marking.reason?, filterSkipReason?, filterSkipReason?, isGeneratedFilter_congr named]
      rw [List.nil_append, ← tracked, same, Option.toList_some, List.singleton_append,
        List.findSome?_cons]
      cases filterSkipReason? node.name node.isTracked <;> rfl

end Chains

end ProjectScribe.Reading.ElementFormat
