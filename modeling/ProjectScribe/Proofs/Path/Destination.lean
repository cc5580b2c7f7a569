import Mathlib.Data.List.Count
import Mathlib.Data.List.Induction
import ProjectScribe.Path.Relative
import ProjectScribe.Proofs.Text.Pieces

/-!
# Where paths lead

A path leads to its destination component by component, and no file is consulted: a dot stays, a
name goes down, and two dots undo the name before them. Where there is no such name they lead above
the start of the path, but never above the root. Two paths resolve to the same one when they have
the same destination.

The relative path from a base to a target should lead from the destination of the base to that of
the target. It does so if no two dots are left in the base behind the common beginning, and
otherwise only if the rest of the target climbs to the root anyway, where all that came before is
forgotten.
-/
namespace ProjectScribe.Path

/-- Where a path leads: so many steps above its start, or to the root, and from there down along
names. -/
structure Destination where
  isRooted : Bool := false
  above : Nat := 0
  names : List String := []
deriving DecidableEq, Repr

namespace Destination

/-- Some steps up. Those for which no name is left lead above the start, or stay at the root. -/
def ascend (destination : Destination) (steps : Nat) : Destination where
  isRooted := destination.isRooted
  above :=
    if destination.isRooted then destination.above
    else destination.above + (steps - destination.names.length)
  names := destination.names.take (destination.names.length - steps)

/-- Down along names. -/
def descend (destination : Destination) (names : List String) : Destination :=
  { destination with names := destination.names ++ names }

/-- Where one component leads. -/
def along (destination : Destination) : Component → Destination
  | .root => { isRooted := true }
  | .here => destination
  | .up => destination.ascend 1
  | .name text => destination.descend [text]

/-- Where components lead one after the other. -/
def follow (destination : Destination) (components : List Component) : Destination :=
  components.foldl along destination

section Steps

variable (destination : Destination)

@[simp] theorem isRooted_ascend (steps : Nat) :
    (destination.ascend steps).isRooted = destination.isRooted := rfl

@[simp] theorem ascend_zero : destination.ascend 0 = destination := by
  cases destination
  simp [ascend]

@[simp] theorem descend_nil : destination.descend [] = destination := by
  cases destination
  simp [descend]

/-- Steps up add to each other. -/
theorem ascend_ascend (first second : Nat) :
    (destination.ascend first).ascend second = destination.ascend (first + second) := by
  obtain ⟨isRooted, above, names⟩ := destination
  simp only [ascend, List.length_take, List.take_take, mk.injEq, true_and]
  constructor
  · cases isRooted with
    | true => rfl
    | false =>
      simp only [Bool.false_eq_true, if_false]
      omega
  · congr 1
    omega

/-- A step up undoes the last of some names. -/
theorem ascend_descend_concat (names : List String) (name : String) :
    (destination.descend (names ++ [name])).ascend 1 = destination.descend names := by
  obtain ⟨isRooted, above, before⟩ := destination
  have enough : 1 - (before ++ (names ++ [name])).length = 0 := by
    simp only [List.length_append, List.length_singleton]
    omega
  have left : (before ++ (names ++ [name])).length - 1 = (before ++ names).length := by
    simp only [List.length_append, List.length_singleton]
    omega
  simp only [ascend, descend, enough, Nat.add_zero, ite_self, left]
  rw [← List.append_assoc, List.take_left]

/-- Two climbs, followed by the same names, end in one place only if they are equally long or both
come to the root. -/
theorem ascend_descend_eq_iff (more steps : Nat) (names : List String) :
    (destination.ascend (more + steps)).descend names =
        (destination.ascend steps).descend names ↔
      more = 0 ∨ destination.isRooted = true ∧ destination.names.length ≤ steps := by
  obtain ⟨isRooted, above, before⟩ := destination
  simp only [ascend, descend, mk.injEq, true_and, List.append_left_inj]
  constructor
  · rintro ⟨sameAbove, sameNames⟩
    have lengths := congrArg List.length sameNames
    simp only [List.length_take] at lengths
    cases isRooted with
    | true =>
      simp only [true_and]
      omega
    | false =>
      simp only [Bool.false_eq_true, if_false] at sameAbove
      omega
  · rintro (rfl | ⟨rooted, short⟩)
    · simp
    · subst rooted
      have none : before.length - steps = 0 := by omega
      have noneMore : before.length - (more + steps) = 0 := by omega
      rw [none, noneMore]
      exact ⟨rfl, rfl⟩

end Steps

section Follow

variable (destination : Destination) (components : List Component)

theorem follow_append (further : List Component) :
    destination.follow (components ++ further) =
      (destination.follow components).follow further :=
  List.foldl_append

theorem follow_concat (component : Component) :
    destination.follow (components ++ [component]) =
      (destination.follow components).along component :=
  destination.follow_append components [component]

/-- Two dots in a row are so many steps up. -/
theorem follow_replicate_up (steps : Nat) :
    destination.follow (List.replicate steps .up) = destination.ascend steps := by
  induction steps with
  | zero => exact (destination.ascend_zero).symm
  | succ steps inductionHypothesis =>
    rw [List.replicate_succ', follow_concat, inductionHypothesis]
    exact destination.ascend_ascend steps 1

variable {components} (below : .root ∉ components)

include below

/-- One step up for each name undoes the names, and leaves a step up for each two dots. -/
theorem ascend_follow :
    (destination.follow components).ascend (components.countP Component.isName) =
      destination.ascend (components.count .up) := by
  induction components using List.reverseRecOn with
  | nil => rfl
  | append_singleton components last inductionHypothesis =>
    have undone := inductionHypothesis fun listed => below (List.mem_append_left _ listed)
    rw [follow_concat, List.countP_append, List.count_append]
    cases last with
    | root => exact absurd (List.mem_append_right _ (List.mem_singleton.mpr rfl)) below
    | here => exact undone
    | up =>
      change ((destination.follow components).ascend 1).ascend (_ + 0) =
        destination.ascend (_ + 1)
      rw [Nat.add_zero, ascend_ascend, Nat.add_comm 1, ← ascend_ascend, undone, ascend_ascend]
    | name text =>
      change ((destination.follow components).descend [text]).ascend (_ + 1) =
        destination.ascend (_ + 0)
      have up := (destination.follow components).ascend_descend_concat [] text
      rw [List.nil_append, descend_nil] at up
      rw [Nat.add_comm, ← ascend_ascend, up, undone, Nat.add_zero]

/-- Where components lead from a place is told by where they lead on their own: so many steps up,
and then down along the names that are left. -/
theorem follow_eq :
    destination.follow components =
      (destination.ascend (follow {} components).above).descend (follow {} components).names ∧
    (follow {} components).isRooted = false := by
  induction components using List.reverseRecOn with
  | nil =>
    refine ⟨?_, rfl⟩
    change destination = (destination.ascend 0).descend []
    rw [ascend_zero, descend_nil]
  | append_singleton components last inductionHypothesis =>
    obtain ⟨led, relative⟩ :=
      inductionHypothesis fun listed => below (List.mem_append_left _ listed)
    rw [follow_concat, follow_concat, led]
    generalize follow {} components = alone at relative
    obtain ⟨isRooted, above, names⟩ := alone
    subst relative
    cases last with
    | root => exact absurd (List.mem_append_right _ (List.mem_singleton.mpr rfl)) below
    | here => exact ⟨rfl, rfl⟩
    | name text =>
      refine ⟨?_, rfl⟩
      simp [along, descend]
    | up =>
      refine ⟨?_, rfl⟩
      rcases List.eq_nil_or_concat names with rfl | ⟨names, name, rfl⟩
      · -- No name is left, so the step leads further up.
        change ((destination.ascend above).descend []).ascend 1 =
          (destination.ascend (above + 1)).descend []
        rw [descend_nil, descend_nil, ascend_ascend]
      · have shorter := ascend_descend_concat { above := above } names name
        rw [List.concat_eq_append, along, ascend_descend_concat]
        rw [descend, List.nil_append, descend, List.nil_append] at shorter
        rw [along, shorter]

/-- Components below a place lead to the root only if the place is seen from there. -/
theorem isRooted_follow : (destination.follow components).isRooted = destination.isRooted := by
  rw [(destination.follow_eq below).1]
  rfl

end Follow

end Destination

/-- Where a path leads, by its components alone. -/
def destination (path : String) : Destination := Destination.follow {} (components path)

example : destination "/a/./b/../../../c" = { isRooted := true, names := ["c"] } := by decide
example : destination "a/../../b" = { above := 1, names := ["b"] } := by decide

section Joining

/-- The components of a path but for a leading slash or dot. -/
def steps (path : String) : List Component := (segments path).filterMap segmentComponent

/-- Only a leading slash leads to the root. -/
theorem root_not_mem_steps (path : String) : .root ∉ steps path := by
  intro listed
  obtain ⟨segment, -, found⟩ := List.mem_filterMap.mp listed
  rw [segmentComponent] at found
  split at found
  · cases found
  · split at found <;> cases found

/-- What a leading slash or dot adds to the components shows only in whether a path starts from the
root. -/
theorem destination_eq (path : String) :
    destination path = Destination.follow { isRooted := isRooted path } (steps path) := by
  rw [destination, components, Destination.follow_append, leading, ← steps]
  cases isRooted path with
  | true => rfl
  | false =>
    rw [if_neg Bool.false_ne_true]
    split <;> rfl

/-- A path that continues another adds its own components. -/
theorem steps_join (base continuation : String) (relative : isRooted continuation = false) :
    steps (join base continuation) = steps base ++ steps continuation ∧
      isRooted (join base continuation) = isRooted base := by
  rw [join, relative, Bool.false_or]
  split
  · next empty =>
    have none : base = "" := by simpa using empty
    subst none
    exact ⟨rfl, relative⟩
  · next filled =>
    have begins : ∀ more : List Char,
        ((base.toList ++ more).head? == some '/') = (base.toList.head? == some '/') := by
      intro more
      cases written : base.toList with
      | nil => simp [written] at filled
      | cons c rest => rfl
    split
    · next ends =>
      obtain ⟨text, written⟩ := List.getLast?_eq_some_iff.mp (eq_of_beq ends)
      constructor
      · have parts := Text.pieces_append_separator (· == '/') text continuation.toList
          (c := '/') rfl
        have alone := Text.pieces_append_separator (· == '/') text [] (c := '/') rfl
        simp only [steps, segments, String.toList_append, written, List.append_assoc,
          List.singleton_append, parts, alone, List.filterMap_append]
        simp [Text.pieces, segmentComponent]
      · rw [isRooted, String.toList_append, begins]
        rfl
    · constructor
      · have parts := Text.pieces_append_separator (· == '/') base.toList continuation.toList
          (c := '/') rfl
        have slash : "/".toList = ['/'] := rfl
        simp only [steps, segments, String.toList_append, slash, List.append_assoc,
          List.singleton_append, parts, List.filterMap_append]
      · rw [isRooted, String.toList_append, String.toList_append, List.append_assoc, begins]
        rfl

/-- A component of a path other than its leading slash is a path of its own, which does not start
from the root. -/
theorem steps_text {path : String} {component : Component} (listed : component ∈ components path)
    (below : component ≠ .root) :
    steps component.text = [component].filter (· ≠ .here) ∧ isRooted component.text = false := by
  cases component with
  | root => exact absurd rfl below
  | here => decide
  | up => decide
  | name text =>
    have inside : .name text ∈ steps path := by
      rcases List.mem_append.mp listed with first | inside
      · rw [leading] at first
        split at first
        · simp at first
        · split at first <;> simp at first
      · exact inside
    obtain ⟨segment, among, found⟩ := List.mem_filterMap.mp inside
    have plain := Text.plain_of_mem_pieces _ among
    rw [segmentComponent] at found
    split at found
    · cases found
    · next notDot =>
      split at found
      · cases found
      · next notDots =>
        obtain rfl : String.ofList segment = text := by simpa using found
        have whole := Text.pieces_of_plain _ segment plain
        have itself : segmentComponent segment = some (.name (String.ofList segment)) := by
          rw [segmentComponent, if_neg notDot, if_neg notDots]
        constructor
        · simp [steps, segments, Component.text, whole, itself]
        · cases segment with
          | nil => simp at notDot
          | cons c rest => simpa [isRooted, Component.text] using plain c List.mem_cons_self

/-- Components that are paths of their own are put together to a path with these components, dots
left out. -/
theorem steps_foldl_join (start : String) (list : List Component)
    (each : ∀ component ∈ list, steps component.text = [component].filter (· ≠ .here) ∧
      isRooted component.text = false) :
    steps (list.foldl (fun path component => join path component.text) start) =
        steps start ++ list.filter (· ≠ .here) ∧
      isRooted (list.foldl (fun path component => join path component.text) start) =
        isRooted start := by
  induction list generalizing start with
  | nil => simp
  | cons component rest inductionHypothesis =>
    obtain ⟨own, relative⟩ := each component List.mem_cons_self
    obtain ⟨joined, rooted⟩ := steps_join start component.text relative
    obtain ⟨further, same⟩ := inductionHypothesis (join start component.text)
      fun other listed => each other (List.mem_cons_of_mem component listed)
    rw [List.foldl_cons]
    refine ⟨?_, same.trans rooted⟩
    rw [further, joined, own, List.append_assoc, ← List.filter_append, List.singleton_append]

/-- Dots lead nowhere. -/
theorem Destination.follow_filter (destination : Destination) (list : List Component) :
    destination.follow (list.filter (· ≠ .here)) = destination.follow list := by
  induction list generalizing destination with
  | nil => rfl
  | cons component rest inductionHypothesis =>
    by_cases here : component = .here
    · rw [List.filter_cons_of_neg (by simp [here]), inductionHypothesis, here]
      rfl
    · rw [List.filter_cons_of_pos (by simp [here])]
      exact inductionHypothesis (destination.along component)

end Joining

section Relative

/-- The components that two paths have in common from the left. -/
def beginning (path other : String) : List Component :=
  (components path).take (commonLength (components path) (components other))

/-- The components of a path behind those that it has in common with another. -/
def behind (path other : String) : List Component :=
  (components path).drop (commonLength (components path) (components other))

theorem commonLength_comm (left right : List Component) :
    commonLength left right = commonLength right left := by
  fun_induction commonLength left right with
  | case1 a left right inductionHypothesis =>
    rw [commonLength, if_pos rfl, inductionHypothesis]
  | case2 a left b right other => rw [commonLength, if_neg (Ne.symm other)]
  | case3 left right other =>
    cases left with
    | nil => cases right <;> rfl
    | cons a left =>
      cases right with
      | nil => rfl
      | cons b right => exact absurd rfl (other a left b right rfl)

theorem take_commonLength (left right : List Component) :
    left.take (commonLength left right) = right.take (commonLength left right) := by
  fun_induction commonLength left right with
  | case1 a left right inductionHypothesis => simp [inductionHypothesis]
  | case2 a left b right other => rfl
  | case3 left right other => rfl

/-- A path leads on from where its beginning leads. -/
theorem destination_behind (path other : String) :
    destination path =
      (Destination.follow {} (beginning path other)).follow (behind path other) := by
  rw [← Destination.follow_append, beginning, behind, List.take_append_drop]
  rfl

/-- Where two paths both start from the root or both do not, neither has a leading slash behind the
common beginning. -/
theorem root_not_mem_behind {path other : String} (same : isRooted path = isRooted other) :
    .root ∉ behind path other := by
  rw [behind, components, components, leading, leading, ← steps, ← steps]
  cases rooted : isRooted path with
  | true =>
    rw [← same, rooted]
    simp only [if_true, List.singleton_append, commonLength, List.drop_succ_cons]
    exact fun listed => root_not_mem_steps path (List.mem_of_mem_drop listed)
  | false =>
    intro listed
    rcases List.mem_append.mp (List.mem_of_mem_drop listed) with first | further
    · rw [if_neg Bool.false_ne_true] at first
      split at first <;> simp at first
    · exact root_not_mem_steps path further

/-- The relative path, wherever there is one, is put together from a step up for each name that is
left in the base and from what is left of the target. -/
theorem steps_relative {target base found : String} (seen : relative target base = some found) :
    isRooted target = isRooted base ∧ isRooted found = false ∧
      steps found = (List.replicate ((behind base target).countP Component.isName) Component.up ++
        behind target base).filter (· ≠ .here) := by
  rw [relative] at seen
  split at seen
  · cases seen
  · next alike =>
    have same : isRooted target = isRooted base := by simpa using alike
    have parts : relativeComponents (components target) (components base) =
        List.replicate ((behind base target).countP Component.isName) .up ++
          behind target base := by
      simp only [relativeComponents, behind, List.map_const', List.countP_eq_length_filter,
        commonLength_comm (components base)]
    have each : ∀ component ∈ relativeComponents (components target) (components base),
        steps component.text = [component].filter (· ≠ .here) ∧
          isRooted component.text = false := by
      rw [parts]
      intro component listed
      rcases List.mem_append.mp listed with climbing | left
      · rw [List.eq_of_mem_replicate climbing]
        decide
      · refine steps_text (List.mem_of_mem_drop left) ?_
        rintro rfl
        exact root_not_mem_behind same left
    obtain ⟨put, relative⟩ := steps_foldl_join "" _ each
    obtain rfl := Option.some.inj seen
    refine ⟨same, relative, ?_⟩
    rw [put, parts]
    rfl

/-- There is a relative path if both paths start from the root or neither does, and it leads from
where the base leads to where the target leads if and only if no two dots are left in the base
behind the common beginning, or what is left of the target climbs as many steps as the common
beginning has names below the root. -/
theorem relative_leads_iff (target base : String) :
    ((relative target base).isSome ↔ isRooted target = isRooted base) ∧
      ∀ found, relative target base = some found →
        (destination (join base found) = destination target ↔
          .up ∉ behind base target ∨
            isRooted target = true ∧
              (Destination.follow {} (beginning target base)).names.length ≤
                (Destination.follow {} (behind target base)).above) := by
  constructor
  · rw [relative]
    cases isRooted target <;> cases isRooted base <;> simp
  · intro found seen
    obtain ⟨same, isRelative, parts⟩ := steps_relative seen
    obtain ⟨joined, rooted⟩ := steps_join base found isRelative
    have below := root_not_mem_behind same
    have belowBase := root_not_mem_behind same.symm
    have shared : beginning base target = beginning target base := by
      rw [beginning, beginning, commonLength_comm (components base), take_commonLength]
    set start := Destination.follow {} (beginning target base) with startsAt
    have ofTarget : destination target = start.follow (behind target base) :=
      destination_behind target base
    have ofBase : destination base = start.follow (behind base target) := by
      rw [destination_behind base target, shared]
    have ofJoined : destination (join base found) =
        (start.ascend ((behind base target).count .up)).follow (behind target base) := by
      rw [destination_eq, joined, rooted, Destination.follow_append, ← destination_eq, parts,
        Destination.follow_filter, Destination.follow_append, Destination.follow_replicate_up,
        ofBase, Destination.ascend_follow start belowBase]
    have fromRoot : start.isRooted = isRooted target := by
      rw [← Destination.isRooted_follow start below, ← ofTarget, destination_eq,
        Destination.isRooted_follow _ (root_not_mem_steps target)]
    rw [ofJoined, ofTarget, (Destination.follow_eq _ below).1, (Destination.follow_eq start below).1,
      Destination.ascend_ascend, Destination.ascend_descend_eq_iff, List.count_eq_zero, fromRoot]

/-- From a base with two dots at its end, a relative path is right for a target that climbs to the
root. -/
theorem relative_leads_iff_climbing :
    relative "/../lib/x.c" "/src/.." = some "../../lib/x.c" ∧
      destination (join "/src/.." "../../lib/x.c") = destination "/../lib/x.c" :=
  ⟨by decide, ((relative_leads_iff "/../lib/x.c" "/src/..").2 _ (by decide)).mpr (by decide)⟩

/-- From such a base, the relative path to another target leads elsewhere, although there is one
that leads to it. -/
theorem parentInBase_astray :
    relative "/w/b/p.vcproj" "/w/a/.." = some "../b/p.vcproj" ∧
      destination (join "/w/a/.." "../b/p.vcproj") ≠ destination "/w/b/p.vcproj" ∧
      destination (join "/w/a/.." "b/p.vcproj") = destination "/w/b/p.vcproj" := by
  decide

end Relative

end ProjectScribe.Path
