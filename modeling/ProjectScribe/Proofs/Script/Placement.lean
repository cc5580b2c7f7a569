import ProjectScribe.Proofs.Mapping.Buckets
import ProjectScribe.Script.Assembly

/-!
# Where the tokens of a script are placed

Directories, libraries and definitions of a configuration are translated one after the other, and
what the tables make of them is pushed into buckets in this order. So the buckets are in order, a
bucket belongs to every platform or to one that the table names, and what is in it is known from
the placements of the single tokens.
-/
namespace ProjectScribe

open Mapping

namespace Mapping

variable {table : Table} {token platform : String}

/-- A table names a platform if a segment of one of its entries is about it. -/
def Table.Names (table : Table) (platform : String) : Prop :=
  ∃ entry ∈ table.entries, ∃ segment ∈ entry.line.segments, segment.platform = platform

/-- The platform of a placement is every platform or one that the table names. -/
theorem Table.platform_of_placement {text : String}
    (placed : (platform, text) ∈ table.placements token) :
    platform = everyPlatform ∨ table.Names platform := by
  rw [placements] at placed
  split at placed
  · exact .inl (Prod.mk.inj (List.mem_singleton.mp placed)).1
  · next entry found =>
    have among : entry ∈ table.entries := by
      rcases Option.or_eq_some_iff.mp found with byKey | ⟨-, byPattern⟩
      · exact List.mem_of_find?_eq_some byKey
      · exact List.mem_of_find?_eq_some byPattern
    obtain ⟨segment, listed, fits⟩ := List.mem_filterMap.mp placed
    have platforms := (placeSegment_eq_some_iff.mp fits).1
    by_cases unnamed : segment.platform = ""
    · exact .inl (platforms.trans (if_pos unnamed))
    · exact .inr ⟨entry, among, segment, listed, (platforms.trans (if_neg unnamed)).symm⟩

/-- Tables name a platform if one of them does. -/
def Tables.Names (tables : Tables) (platform : String) : Prop :=
  ∃ table ∈ [tables.includeDirs, tables.dependencies, tables.libraryDirs, tables.defines],
    table.Names platform

/-- A table without entries leaves tokens as they are, on every platform. -/
theorem Table.placements_empty (token : String) :
    Table.empty.placements token = [(everyPlatform, token)] := rfl

end Mapping

namespace Script.Source

open PlatformTokens

variable {source : Source} {table : Table} {tokens : List String} {platform text : String}
  {configuration : Configuration}

section Tokens

/-- Tokens are placed where the table puts them when they are translated. -/
theorem value_place (source : Source) (table : Table) (tokens : List String) :
    (source.place table tokens).value = PlatformTokens.empty.pushAll
      (tokens.flatMap fun token => table.placements (translate source.names token).value) := by
  have gathered : ∀ (texts : List String) (before : PlatformTokens),
      texts.foldl (fun gathered token => table.resolveInto token gathered) before =
        before.pushAll (texts.flatMap table.placements) := by
    intro texts
    induction texts with
    | nil => exact fun _ => rfl
    | cons first rest inductionHypothesis =>
      intro before
      rw [List.foldl_cons, inductionHypothesis, List.flatMap_cons, pushAll, pushAll,
        List.foldl_append]
      rfl
  rw [place, Reported.value_bind, Reported.value_pure, gathered]
  simp [translateAll, List.flatMap_map]

theorem notes_place (source : Source) (table : Table) (tokens : List String) :
    (source.place table tokens).notes =
      tokens.flatMap fun token => (translate source.names token).notes := by
  simp [place, translateAll]

theorem orderly_place (source : Source) (table : Table) (tokens : List String) :
    (source.place table tokens).value.Orderly := by
  rw [value_place]
  exact orderly_empty.pushAll _

/-- A platform of placed tokens is every platform or one that the table names. -/
theorem platform_of_place {list : List String}
    (bucket : (platform, list) ∈ (source.place table tokens).value.toList) :
    platform = everyPlatform ∨ table.Names platform := by
  rw [value_place] at bucket
  obtain ⟨text, pushed⟩ := exists_pushed_of_mem bucket
  obtain ⟨token, -, placed⟩ := List.mem_flatMap.mp pushed
  exact Table.platform_of_placement placed

end Tokens

section Definitions

/-- Where a definition is placed, and what stands for it there. -/
def definitionPlacements (source : Source) (definition : String × String) :
    List (String × String) :=
  (source.tables.defines.resolve definition.1).toList.flatMap fun (platform, tokens) =>
    tokens.map fun token => (platform,
      definitionText definition.1 (translate source.names definition.2).value token)

/-- Definitions are placed one after the other. -/
theorem value_defines (source : Source) (configuration : Configuration) :
    (source.defines configuration).value = PlatformTokens.empty.pushAll
      ((distinctDefines configuration).flatMap source.definitionPlacements) := by
  have gathered : ∀ (definitions : List (String × String)) (before : PlatformTokens),
      (Reported.fold source.placeDefine before definitions).value =
        before.pushAll (definitions.flatMap source.definitionPlacements) := by
    intro definitions
    induction definitions with
    | nil => exact fun _ => rfl
    | cons first rest inductionHypothesis =>
      intro before
      rw [Reported.fold, Reported.value_bind, inductionHypothesis, List.flatMap_cons, pushAll,
        pushAll, List.foldl_append]
      rfl
  exact gathered _ _

theorem orderly_defines (source : Source) (configuration : Configuration) :
    (source.defines configuration).value.Orderly := by
  rw [value_defines]
  exact orderly_empty.pushAll _

/-- A platform of definitions is every platform or one that the table names. -/
theorem platform_of_defines {list : List String}
    (bucket : (platform, list) ∈ (source.defines configuration).value.toList) :
    platform = everyPlatform ∨ source.tables.defines.Names platform := by
  rw [value_defines] at bucket
  obtain ⟨text, pushed⟩ := exists_pushed_of_mem bucket
  obtain ⟨definition, -, placed⟩ := List.mem_flatMap.mp pushed
  obtain ⟨⟨other, tokens⟩, resolved, standsFor⟩ := List.mem_flatMap.mp placed
  obtain ⟨token, -, same⟩ := List.mem_map.mp standsFor
  obtain rfl := (Prod.mk.inj same).1
  obtain ⟨_, named⟩ := exists_pushed_of_mem resolved
  exact Table.platform_of_placement named

theorem notes_defines (source : Source) (configuration : Configuration) :
    (source.defines configuration).notes =
      (distinctDefines configuration).flatMap fun definition =>
        (translate source.names definition.2).notes := by
  refine Reported.seen_fold id rfl (fun _ _ => rfl) (fun before definition _ => ?_) _
  simp [placeDefine]

end Definitions

end Script.Source

end ProjectScribe
