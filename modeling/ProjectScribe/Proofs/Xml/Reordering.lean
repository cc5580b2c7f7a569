import Mathlib.Data.List.Forall2
import Mathlib.Data.List.Nodup
import ProjectScribe.Xml.Element

/-!
# Attributes in another order

Attributes have names and no order. Two documents are the same up to the order of attributes if
their elements are, one by one, and an element in which each name occurs once says the same of each
name in every order.
-/
namespace ProjectScribe.Xml

mutual

/-- Two elements that differ in nothing but the order of attributes, in them or below them. No
element has two attributes of one name. -/
inductive Reordered : Element → Element → Prop where
  | mk {name text : String} {attributes moved : List Attribute} {children others : List Element}
      (perm : attributes.Perm moved) (once : (attributes.map (·.name)).Nodup)
      (below : AllReordered children others) :
      Reordered (.mk name attributes text children) (.mk name moved text others)

/-- Several elements that differ, one by one, in nothing but the order of attributes. -/
inductive AllReordered : List Element → List Element → Prop where
  | nil : AllReordered [] []
  | cons {first second : Element} {rest others : List Element} (head : Reordered first second)
      (tail : AllReordered rest others) : AllReordered (first :: rest) (second :: others)

end

/-- Of attributes of which no two have one name, the one with a name is found in every order. -/
theorem find?_perm {entries others : List Attribute} (perm : entries.Perm others)
    (once : (entries.map (·.name)).Nodup) (name : String) :
    entries.find? (·.name = name) = others.find? (·.name = name) := by
  induction perm with
  | nil => rfl
  | cons entry _ inductionHypothesis =>
    rw [List.find?_cons, List.find?_cons, inductionHypothesis (List.nodup_cons.mp once).2]
  | swap first second rest =>
    have apart : second.name ≠ first.name := by
      intro same
      exact (List.nodup_cons.mp once).1 (by simp [same])
    by_cases here : first.name = name
    · have elsewhere : second.name ≠ name := fun named => apart (named.trans here.symm)
      simp [here, elsewhere]
    · simp [here, List.find?_cons]
  | trans between _ first second =>
    exact (first once).trans (second ((between.map _).nodup_iff.mp once))

namespace AllReordered

/-- Elements correspond one by one. -/
theorem forall₂ : ∀ {elements others : List Element}, AllReordered elements others →
    List.Forall₂ Reordered elements others
  | [], _, .nil => .nil
  | _ :: _, _, .cons head tail => .cons head tail.forall₂

/-- Elements in a row behind others. -/
theorem append {elements others more further : List Element}
    (first : AllReordered elements others) (second : AllReordered more further) :
    AllReordered (elements ++ more) (others ++ further) := by
  induction elements generalizing others with
  | nil =>
    cases first
    exact second
  | cons element rest inductionHypothesis =>
    cases first with
    | cons head tail => exact .cons head (inductionHypothesis tail)

/-- A test that does not depend on the order of attributes finds as much in both. -/
theorem any_eq {test : Element → Bool}
    (same : ∀ first second, Reordered first second → test first = test second) :
    ∀ {elements others : List Element}, AllReordered elements others →
      elements.any test = others.any test
  | [], _, .nil => rfl
  | first :: _, second :: _, .cons head tail => by
    rw [List.any_cons, List.any_cons, same first second head, tail.any_eq same]

end AllReordered

namespace Reordered

variable {element changed : Element}

theorem name_eq (reordered : Reordered element changed) : element.name = changed.name := by
  cases reordered
  rfl

theorem attributes_perm (reordered : Reordered element changed) :
    element.attributes.Perm changed.attributes := by
  cases reordered with
  | mk perm => exact perm

theorem once (reordered : Reordered element changed) :
    (element.attributes.map (·.name)).Nodup := by
  cases reordered with
  | mk perm once => exact once

theorem children (reordered : Reordered element changed) :
    AllReordered element.children changed.children := by
  cases reordered with
  | mk perm once below => exact below

/-- The value of a name does not depend on the order of attributes. -/
theorem value?_eq (reordered : Reordered element changed) (name : String) :
    element.value? name = changed.value? name := by
  rw [Element.value?, Element.value?, find?_perm reordered.attributes_perm reordered.once]

theorem valueOf_eq (reordered : Reordered element changed) (name : String) :
    element.valueOf name = changed.valueOf name := by
  rw [Element.valueOf, Element.valueOf, reordered.value?_eq]

end Reordered

mutual

/-- The elements of a document correspond one by one. -/
theorem Reordered.withDescendants : ∀ (element changed : Element), Reordered element changed →
    AllReordered element.withDescendants changed.withDescendants
  | .mk name attributes text children, .mk _ moved _ others, .mk perm once below => by
    rw [Element.withDescendants, Element.withDescendants]
    exact .cons (.mk perm once below) (AllReordered.descendantsOf children others below)

/-- The elements below several elements correspond one by one. -/
theorem AllReordered.descendantsOf : ∀ elements others : List Element,
    AllReordered elements others →
      AllReordered (Element.descendantsOf elements) (Element.descendantsOf others)
  | [], [], .nil => by
    rw [Element.descendantsOf]
    exact .nil
  | first :: rest, second :: others, .cons head tail => by
    rw [Element.descendantsOf, Element.descendantsOf]
    exact (Reordered.withDescendants first second head).append
      (AllReordered.descendantsOf rest others tail)

end

end ProjectScribe.Xml
