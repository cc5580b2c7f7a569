import Mathlib.Data.List.Nodup
import ProjectScribe.Proofs.Reading.Lists
import ProjectScribe.Reading.AttributeFormat
import ProjectScribe.Reading.ElementFormat

/-!
# Definitions in both formats

A definition is written as `key=value`, or as its key alone if the value is empty, and a list of
definitions joins them by semicolons. Both formats read such a list alike: every key comes with
its value, but without the double quotes with which the value ends. These are taken for the end
of a pair of quotes around the whole item even where the item does not begin with a quote. So what
was written is read exactly if no value ends with a double quote.
-/
namespace ProjectScribe

namespace Defines

/-- A new key adds one entry and leaves the others. -/
theorem insertInto_perm (key value : String) (entries : List (String × String))
    (new : key ∉ entries.map (·.1)) :
    (insertInto key value entries).Perm ((key, value) :: entries) := by
  induction entries with
  | nil => exact .refl _
  | cons entry rest inductionHypothesis =>
    obtain ⟨other, kept⟩ := entry
    simp only [List.map_cons, List.mem_cons, not_or] at new
    obtain ⟨different, further⟩ := new
    rw [insertInto, if_neg different]
    split
    · exact .refl _
    · exact ((inductionHypothesis further).cons (other, kept)).trans (.swap _ _ _)

/-- A value under a key adds just the key. -/
theorem mem_keys_insertInto {key value other : String} {entries : List (String × String)} :
    other ∈ (insertInto key value entries).map (·.1) ↔
      other = key ∨ other ∈ entries.map (·.1) := by
  induction entries with
  | nil => simp [insertInto]
  | cons entry rest inductionHypothesis =>
    obtain ⟨known, kept⟩ := entry
    rw [insertInto]
    split
    · simp
    · split
      · next same => simp [same]
      · rw [List.map_cons, List.mem_cons, inductionHypothesis, List.map_cons, List.mem_cons]
        exact or_left_comm

/-- Definitions stand in the order of their keys, each key once. -/
def Ordered (defines : Defines) : Prop :=
  defines.entries.Pairwise fun definition later => definition.1 < later.1

theorem Ordered.insert {defines : Defines} (ordered : defines.Ordered) (key value : String) :
    (defines.insert key value).Ordered := by
  obtain ⟨entries⟩ := defines
  change (insertInto key value entries).Pairwise _
  change entries.Pairwise _ at ordered
  induction entries with
  | nil => exact List.pairwise_singleton _ _
  | cons entry rest inductionHypothesis =>
    obtain ⟨known, kept⟩ := entry
    obtain ⟨below, orderedRest⟩ := List.pairwise_cons.mp ordered
    rw [insertInto]
    split
    · next before =>
      refine List.pairwise_cons.mpr ⟨?_, ordered⟩
      rw [List.forall_mem_cons]
      exact ⟨before, fun later listed => String.lt_trans before (below later listed)⟩
    · next notBefore =>
      split
      · next same =>
        subst same
        exact List.pairwise_cons.mpr ⟨below, orderedRest⟩
      · next different =>
        have behind : known < key :=
          Std.lt_of_le_of_ne (String.not_lt.mp notBefore) (Ne.symm different)
        refine List.pairwise_cons.mpr ⟨fun later listed => ?_, inductionHypothesis orderedRest⟩
        rcases mem_keys_insertInto.mp (List.mem_map_of_mem listed) with same | among
        · exact same ▸ behind
        · obtain ⟨other, listedOther, same⟩ := List.mem_map.mp among
          exact same ▸ below other listedOther

/-- Write values under keys. A later one replaces an earlier one with its key. -/
def insertAll (defines : Defines) (pairs : List (String × String)) : Defines :=
  pairs.foldl (fun defines (key, value) => defines.insert key value) defines

theorem Ordered.insertAll {defines : Defines} (ordered : defines.Ordered)
    (pairs : List (String × String)) : (defines.insertAll pairs).Ordered := by
  induction pairs generalizing defines with
  | nil => exact ordered
  | cons pair rest inductionHypothesis => exact inductionHypothesis (ordered.insert pair.1 pair.2)

/-- Pairs with distinct new keys become entries. -/
theorem insertAll_perm (pairs : List (String × String)) (defines : Defines)
    (distinct : (pairs.map (·.1)).Nodup)
    (new : ∀ pair ∈ pairs, pair.1 ∉ defines.entries.map (·.1)) :
    (defines.insertAll pairs).entries.Perm (pairs ++ defines.entries) := by
  induction pairs generalizing defines with
  | nil => exact .refl _
  | cons pair rest inductionHypothesis =>
    obtain ⟨key, value⟩ := pair
    simp only [List.map_cons, List.nodup_cons] at distinct
    obtain ⟨once, restDistinct⟩ := distinct
    have one : (defines.insert key value).entries.Perm ((key, value) :: defines.entries) :=
      insertInto_perm key value defines.entries (new (key, value) List.mem_cons_self)
    have restNew : ∀ other ∈ rest,
        other.1 ∉ (defines.insert key value).entries.map (·.1) := by
      intro other listed
      rw [(one.map (·.1)).mem_iff, List.map_cons, List.mem_cons, not_or]
      constructor
      · intro same
        exact once (List.mem_map.mpr ⟨other, listed, same⟩)
      · exact new other (List.mem_cons_of_mem _ listed)
    refine (inductionHypothesis _ restDistinct restNew).trans ?_
    exact (one.append_left rest).trans List.perm_middle

end Defines

namespace Reading

open Xml (Attribute Element)

section Written

/-- A definition as an item of a list. -/
def writtenDefinition (pair : String × String) : String :=
  if pair.2 = "" then pair.1 else pair.1 ++ "=" ++ pair.2

/-- A value without the double quotes with which it ends, and without the blanks before these. -/
def withoutEndQuotes (value : String) : String :=
  String.ofList (Text.dropEndWhile Text.isBlank (Text.dropEndWhile isQuote value.toList))

/-- A definition as it is read. -/
def readDefinition (pair : String × String) : String × String := (pair.1, withoutEndQuotes pair.2)

@[simp] theorem fst_readDefinition (pair : String × String) : (readDefinition pair).1 = pair.1 := by
  dsimp only [readDefinition]

@[simp] theorem snd_readDefinition (pair : String × String) :
    (readDefinition pair).2 = withoutEndQuotes pair.2 := by
  dsimp only [readDefinition]

/-- A definition that can stand in a list: neither part has blanks at its ends or separators, the
key is neither empty nor cut by an equals sign nor quoted, and the item does not stand for
inherited values. The value may have equals signs and quotes. -/
structure Writable (pair : String × String) : Prop where
  keyed : pair.1 ≠ ""
  keyTrimmed : trimmed pair.1 = pair.1
  keyPlain : ∀ c ∈ pair.1.toList, isListMark c = false ∧ c ≠ '=' ∧ c ≠ '"'
  valueTrimmed : trimmed pair.2 = pair.2
  valuePlain : ∀ c ∈ pair.2.toList, isListMark c = false
  own : isInherited (writtenDefinition pair) = false

instance (pair : String × String) : Decidable (Writable pair) :=
  decidable_of_iff (pair.1 ≠ "" ∧ trimmed pair.1 = pair.1 ∧
      pair.1.toList.all (fun c => !isListMark c && c != '=' && c != '"') = true ∧
      trimmed pair.2 = pair.2 ∧ pair.2.toList.all (!isListMark ·) = true ∧
      isInherited (writtenDefinition pair) = false) (by
    simp only [List.all_eq_true, Bool.and_eq_true, Bool.not_eq_true', bne_iff_ne, and_assoc]
    exact ⟨fun ⟨keyed, keyTrimmed, keyPlain, valueTrimmed, valuePlain, own⟩ =>
        ⟨keyed, keyTrimmed, keyPlain, valueTrimmed, valuePlain, own⟩,
      fun ⟨keyed, keyTrimmed, keyPlain, valueTrimmed, valuePlain, own⟩ =>
        ⟨keyed, keyTrimmed, keyPlain, valueTrimmed, valuePlain, own⟩⟩)

/-- A trimmed value loses nothing with its end quotes if and only if it does not end with one. -/
theorem withoutEndQuotes_eq_self_iff {value : String} (whole : trimmed value = value) :
    withoutEndQuotes value = value ↔ value.toList.getLast? ≠ some '"' := by
  constructor
  · intro same quoted
    obtain ⟨before, split⟩ := List.getLast?_eq_some_iff.mp quoted
    have shorter : Text.dropEndWhile isQuote value.toList =
        Text.dropEndWhile isQuote before := by
      rw [split]
      exact List.rdropWhile_concat_pos isQuote before '"' rfl
    have atMost : (withoutEndQuotes value).toList.length ≤ before.length := by
      rw [withoutEndQuotes, String.toList_ofList, shorter]
      exact (List.rdropWhile_prefix _ _).length_le.trans (List.rdropWhile_prefix _ _).length_le
    rw [same, split, List.length_append, List.length_singleton] at atMost
    omega
  · intro unquoted
    have last : ∀ c ∈ value.toList.getLast?, isQuote c = false := by
      intro c ends
      simp only [isQuote, beq_eq_false_iff_ne]
      rintro rfl
      exact unquoted ends
    rw [withoutEndQuotes, Text.dropEndWhile_eq_self isQuote last,
      Text.dropEndWhile_eq_self _ (trimmed_eq_self_iff.mp whole).last, String.ofList_toList]

variable {pair : String × String}

/-- A definition is read as it is written if and only if its value does not end with a quote. -/
theorem readDefinition_eq_self_iff (whole : trimmed pair.2 = pair.2) :
    readDefinition pair = pair ↔ pair.2.toList.getLast? ≠ some '"' := by
  rw [← withoutEndQuotes_eq_self_iff whole, Prod.ext_iff, fst_readDefinition, snd_readDefinition]
  simp

/-- The bare form of a definition is the definition without the quotes at its end. -/
theorem bare_writtenDefinition (writable : Writable pair) :
    bare (writtenDefinition pair) =
      if pair.2 = "" then pair.1 else pair.1 ++ "=" ++ withoutEndQuotes pair.2 := by
  obtain ⟨key, value⟩ := pair
  have keyEnds := trimmed_eq_self_iff.mp writable.keyTrimmed
  have keyUnquoted : ∀ c ∈ key.toList, isQuote c = false := by
    intro c listed
    simpa [isQuote] using (writable.keyPlain c listed).2.2
  rw [writtenDefinition]
  split
  · rw [bare, bareItem_eq_self keyEnds (.of_forall keyUnquoted), String.ofList_toList]
  · have valueEnds := trimmed_eq_self_iff.mp writable.valueTrimmed
    have keyStart : ∀ c ∈ key.toList.head?, isQuote c = false := fun c begins =>
      keyUnquoted c (List.mem_of_mem_head? begins)
    have outer : ∀ rest, Text.trim (key.toList ++ '=' :: rest) =
        key.toList ++ '=' :: Text.dropEndWhile Text.isBlank rest := fun rest =>
      Text.strip_append_cons Text.isBlank key.toList rest keyEnds.first (by decide)
    have inner : ∀ rest, Text.strip isQuote (key.toList ++ '=' :: rest) =
        key.toList ++ '=' :: Text.dropEndWhile isQuote rest := fun rest =>
      Text.strip_append_cons isQuote key.toList rest keyStart (by decide)
    have parts : (key ++ "=" ++ value).toList = key.toList ++ '=' :: value.toList := by simp
    rw [bare, bareItem, parts, outer, Text.dropEndWhile_eq_self _ valueEnds.last, inner, outer,
      ← String.toList_inj]
    simp [withoutEndQuotes]

/-- Something is left of every definition. -/
theorem bare_writtenDefinition_ne_empty (writable : Writable pair) :
    bare (writtenDefinition pair) ≠ "" := by
  rw [bare_writtenDefinition writable]
  split
  · exact writable.keyed
  · intro empty
    have gone := congrArg String.toList empty
    rw [String.toList_append, String.toList_append] at gone
    exact absurd gone (by simp)

/-- No definition stands for inherited values in its bare form. -/
theorem own_bare_writtenDefinition (writable : Writable pair) :
    isInherited (bare (writtenDefinition pair)) = false := by
  have own := writable.own
  rw [← Bool.not_eq_true, isInherited_iff] at own ⊢
  intro inherits
  apply own
  rw [bare_writtenDefinition writable] at inherits
  rw [writtenDefinition]
  split at inherits
  · rwa [if_pos (by assumption)]
  · rw [if_neg (by assumption)]
    refine inherits.trans ?_
    rw [String.toList_append, String.toList_append (t := pair.2), withoutEndQuotes,
      String.toList_ofList, List.prefix_append_right_inj]
    exact (List.rdropWhile_prefix _ _).trans (List.rdropWhile_prefix _ _)

/-- A definition is cut at its first equals sign, which stands behind the key. -/
theorem definition_bare (writable : Writable pair) :
    definition (bare (writtenDefinition pair)) = readDefinition pair := by
  have keyUncut : '=' ∉ pair.1.toList := fun listed => (writable.keyPlain '=' listed).2.1 rfl
  rw [bare_writtenDefinition writable, definition]
  by_cases empty : pair.2 = ""
  · rw [if_pos empty, Text.cutAt_eq_none_iff.mpr keyUncut, writable.keyTrimmed, readDefinition,
      empty]
    rfl
  · have valueEnds := trimmed_eq_self_iff.mp writable.valueTrimmed
    have restEnds : Text.EndsOutside Text.isBlank (withoutEndQuotes pair.2).toList := by
      rw [withoutEndQuotes, String.toList_ofList]
      constructor
      · intro c begins
        exact valueEnds.first c
          (Text.head?_dropEndWhile isQuote (Text.head?_dropEndWhile Text.isBlank begins))
      · intro c ends
        exact Text.getLast?_dropEndWhile Text.isBlank ends
    rw [if_neg empty, String.toList_append, String.toList_append,
      show "=".toList = ['='] from rfl, List.append_assoc, List.singleton_append,
      Text.cutAt_append keyUncut]
    change (trimmed pair.1, trimmed _) = _
    rw [writable.keyTrimmed, trimmed_eq_self_iff.mpr restEnds, readDefinition]

/-- A definition has no separators of either format. -/
theorem plain_writtenDefinition (writable : Writable pair) :
    ∀ c ∈ (writtenDefinition pair).toList, isListMark c = false := by
  intro c listed
  rw [writtenDefinition] at listed
  split at listed
  · exact (writable.keyPlain c listed).1
  · simp only [String.toList_append, List.mem_append] at listed
    rcases listed with (inKey | inSign) | inValue
    · exact (writable.keyPlain c inKey).1
    · rw [show "=".toList = ['='] from rfl, List.mem_singleton] at inSign
      rw [inSign]
      rfl
    · exact writable.valuePlain c inValue

end Written

section Lists

variable {pairs : List (String × String)}

/-- A list of definitions as a value. -/
def writtenDefinitions (pairs : List (String × String)) : String :=
  ";".intercalate (pairs.map writtenDefinition)

/-- The items of a written list are its definitions in bare form, in both formats. -/
theorem items_writtenDefinitions (writable : ∀ pair ∈ pairs, Writable pair)
    (isSeparator : Char → Bool) (separates : isSeparator ';' = true)
    (marks : ∀ c, isListMark c = false → isSeparator c = false) :
    items isSeparator (writtenDefinitions pairs) =
      pairs.map fun pair => bare (writtenDefinition pair) := by
  have plain : ∀ item ∈ pairs.map writtenDefinition, ∀ c ∈ item.toList,
      isSeparator c = false := by
    intro item joined c listed
    obtain ⟨pair, member, rfl⟩ := List.mem_map.mp joined
    exact marks c (plain_writtenDefinition (writable pair member) c listed)
  have filled : ∀ item ∈ pairs.map writtenDefinition, bare item ≠ "" := by
    intro item joined
    obtain ⟨pair, member, rfl⟩ := List.mem_map.mp joined
    exact bare_writtenDefinition_ne_empty (writable pair member)
  rw [writtenDefinitions, items_intercalate isSeparator separates _ plain filled, List.map_map]
  rfl

/-- The keys and values that both formats find in a written list. -/
theorem map_definition_items (writable : ∀ pair ∈ pairs, Writable pair) :
    (items isListMark (writtenDefinitions pairs)).map definition =
        pairs.map readDefinition ∧
      (ownItems (writtenDefinitions pairs)).map definition =
        pairs.map readDefinition := by
  have cut : (pairs.map fun pair => bare (writtenDefinition pair)).map definition =
      pairs.map readDefinition := by
    rw [List.map_map]
    apply List.map_congr_left
    intro pair member
    rw [Function.comp_apply]
    exact definition_bare (writable pair member)
  have own : ∀ item ∈ pairs.map fun pair => bare (writtenDefinition pair),
      (!isInherited item) = true := by
    intro item listed
    obtain ⟨pair, member, rfl⟩ := List.mem_map.mp listed
    rw [own_bare_writtenDefinition (writable pair member)]
    rfl
  constructor
  · rw [items_writtenDefinitions writable isListMark rfl fun _ plain => plain, cut]
  · rw [ownItems, items_writtenDefinitions writable isSemicolon rfl fun c plain => by
      rw [isListMark, Bool.or_eq_false_iff] at plain
      exact plain.1, List.filter_eq_self.mpr own, cut]

/-- Trimming does not change a written list. -/
theorem trimmed_writtenDefinitions (writable : ∀ pair ∈ pairs, Writable pair) :
    trimmed (writtenDefinitions pairs) = writtenDefinitions pairs := by
  apply trimmed_intercalate
  intro item joined
  obtain ⟨pair, member, rfl⟩ := List.mem_map.mp joined
  obtain ⟨keyed, keyTrimmed, -, valueTrimmed, -, -⟩ := writable pair member
  rw [writtenDefinition]
  split
  · exact ⟨keyed, keyTrimmed⟩
  · rename_i valued
    have keyEnds := trimmed_eq_self_iff.mp keyTrimmed
    have valueEnds := trimmed_eq_self_iff.mp valueTrimmed
    -- The item begins as the key does and ends as the value does.
    have both : ∀ text ∈ [pair.1.toList, pair.2.toList],
        text ≠ [] ∧ Text.EndsOutside Text.isBlank text := by
      simp [keyed, valued, keyEnds, valueEnds]
    have whole := Text.EndsOutside.intercalate ['='] _ both
    have parts : (pair.1 ++ "=" ++ pair.2).toList =
        ['='].intercalate [pair.1.toList, pair.2.toList] := by simp
    rw [trimmed_eq_self_iff, parts]
    refine ⟨?_, whole.1⟩
    intro empty
    apply whole.2 (List.cons_ne_nil _ _)
    rw [← parts, empty]
    rfl

end Lists

section Compilers

/-- An attribute of a compiler adds none to the configuration, and only one attribute says
something about definitions. -/
theorem readCompilerAttribute_keeps (state : Configuration × CompilerSettings)
    (entry : Attribute) :
    (AttributeFormat.readCompilerAttribute state entry).value.1.compilers = state.1.compilers ∧
      (entry.name ≠ "PreprocessorDefinitions" →
        (AttributeFormat.readCompilerAttribute state entry).value.2.defines = state.2.defines) := by
  obtain ⟨configuration, compiler⟩ := state
  rw [AttributeFormat.readCompilerAttribute]
  split <;> simp_all

/-- The same of several attributes. -/
theorem readCompilerAttributes_keep (state : Configuration × CompilerSettings)
    (attributes : List Attribute) :
    (Reported.fold AttributeFormat.readCompilerAttribute state attributes).value.1.compilers =
        state.1.compilers ∧
      ((∀ entry ∈ attributes, entry.name ≠ "PreprocessorDefinitions") →
        (Reported.fold AttributeFormat.readCompilerAttribute state attributes).value.2.defines =
          state.2.defines) := by
  induction attributes generalizing state with
  | nil => exact ⟨rfl, fun _ => rfl⟩
  | cons entry rest inductionHypothesis =>
    have first := readCompilerAttribute_keeps state entry
    have further :=
      inductionHypothesis (AttributeFormat.readCompilerAttribute state entry).value
    constructor
    · exact further.1.trans first.1
    · intro others
      have restOthers := further.2 fun other listed =>
        others other (List.mem_cons_of_mem entry listed)
      exact restOthers.trans (first.2 (others entry List.mem_cons_self))

/-- Both formats read definitions from a value: the older one from an attribute, which stands only
once in its tool, the newer one from an element, whatever else is known of the compiler. -/
structure ReadInBoth (value : String) (defines : Defines) : Prop where
  inAttribute : ∀ (configuration : Configuration) (tool : Element),
    ⟨"PreprocessorDefinitions", value⟩ ∈ tool.attributes →
    (tool.attributes.map (·.name)).Nodup →
    (AttributeFormat.readCompiler configuration tool).value.compilers.map (·.defines) =
      configuration.compilers.map (·.defines) ++ [defines]
  inElement : ∀ (configuration : Configuration) (element : Element),
    element.name = "PreprocessorDefinitions" → element.text = value →
    (∀ compiler ∈ configuration.compilers.head?, compiler.defines = {}) →
    ((ElementFormat.readCompilerSetting configuration element).value.compilers.map
      (·.defines)).head? = some defines

variable {pairs : List (String × String)}

/-- Both formats read a written list as its pairs, whose values have lost their end quotes. -/
theorem readInBoth_writtenDefinitions (writable : ∀ pair ∈ pairs, Writable pair) :
    ReadInBoth (writtenDefinitions pairs)
      (Defines.insertAll {} (pairs.map readDefinition)) := by
  obtain ⟨attributeItems, elementItems⟩ := map_definition_items writable
  constructor
  · intro configuration tool listed once
    obtain ⟨before, after, parts⟩ := List.append_of_mem listed
    have others : ∀ entry ∈ before ++ after, entry.name ≠ "PreprocessorDefinitions" := by
      rw [parts, List.map_append, List.map_cons, List.nodup_middle, ← List.map_append,
        List.nodup_cons] at once
      intro entry member same
      exact once.1 (List.mem_map.mpr ⟨entry, member, same⟩)
    have ahead := (readCompilerAttributes_keep (configuration, {}) before).2 fun entry member =>
      others entry (List.mem_append_left after member)
    have defined : ∀ state : Configuration × CompilerSettings, state.2.defines = {} →
        (AttributeFormat.readCompilerAttribute state
          ⟨"PreprocessorDefinitions", writtenDefinitions pairs⟩).value.2.defines =
            Defines.insertAll {} (pairs.map readDefinition) := by
      rintro ⟨reached, compiler⟩ fresh
      rw [Defines.insertAll, ← attributeItems, ← fresh]
      rfl
    have whole : (Reported.fold AttributeFormat.readCompilerAttribute (configuration, {})
        tool.attributes).value.2.defines =
          Defines.insertAll {} (pairs.map readDefinition) := by
      rw [parts, Reported.value_fold, List.foldl_append, List.foldl_cons, ← Reported.value_fold,
        ← Reported.value_fold]
      refine Eq.trans ?_ (defined _ ahead)
      exact (readCompilerAttributes_keep _ after).2 fun entry member =>
        others entry (List.mem_append_right before member)
    have kept := (readCompilerAttributes_keep (configuration, {}) tool.attributes).1
    rw [AttributeFormat.readCompiler, Reported.value_bind, Reported.value_pure, List.map_append,
      kept, List.map_singleton, whole]
  · intro configuration element named written fresh
    have value : ElementFormat.textOf element = writtenDefinitions pairs := by
      rw [ElementFormat.textOf, written, trimmed_writtenDefinitions writable]
    have defined : ∀ compiler : CompilerSettings, compiler.defines = {} →
        (ElementFormat.readCompilerElement "PreprocessorDefinitions" (writtenDefinitions pairs)
          compiler).value.defines =
            Defines.insertAll {} (pairs.map readDefinition) := by
      intro compiler none
      rw [Defines.insertAll, ← elementItems, ← none]
      rfl
    rw [ElementFormat.readCompilerSetting, if_neg (by rw [named]; decide), named, value,
      ElementFormat.updateCompiler]
    cases known : configuration.compilers with
    | nil => exact congrArg some (defined {} rfl)
    | cons first others =>
      rw [known] at fresh
      exact congrArg some (defined first (fresh first rfl))

/-- A list of writable definitions with distinct keys is read in both formats as the same
definitions. These are the written ones without the quotes at the ends of values, hence exactly
the written ones if and only if no value ends with a quote. -/
theorem definitions_read (pairs : List (String × String))
    (writable : ∀ pair ∈ pairs, Writable pair) (distinct : (pairs.map (·.1)).Nodup) :
    ∃ defines : Defines,
      ReadInBoth (writtenDefinitions pairs) defines ∧
      defines.entries.Perm (pairs.map readDefinition) ∧
      (defines.entries.Perm pairs ↔ ∀ pair ∈ pairs, pair.2.toList.getLast? ≠ some '"') := by
  have keys : (pairs.map readDefinition).map (·.1) = pairs.map (·.1) := by
    rw [List.map_map]
    exact List.map_congr_left fun pair _ => fst_readDefinition pair
  have entries : (Defines.insertAll {} (pairs.map readDefinition)).entries.Perm
      (pairs.map readDefinition) := by
    have inserted := Defines.insertAll_perm
      (pairs.map readDefinition) {} (keys ▸ distinct) (by simp)
    rwa [List.append_nil] at inserted
  refine ⟨_, readInBoth_writtenDefinitions writable, entries, ?_⟩
  constructor
  · intro exact pair listed
    apply (readDefinition_eq_self_iff (writable pair listed).valueTrimmed).mp
    -- What is read belongs to the key of the pair, which no other pair has.
    have read : readDefinition pair ∈ pairs :=
      exact.mem_iff.mp (entries.mem_iff.mpr (List.mem_map.mpr ⟨pair, listed, rfl⟩))
    exact List.inj_on_of_nodup_map distinct read listed (fst_readDefinition pair)
  · intro unquoted
    have whole : pairs.map readDefinition = pairs := by
      refine (List.map_congr_left ?_).trans (List.map_id pairs)
      intro pair listed
      exact (readDefinition_eq_self_iff (writable pair listed).valueTrimmed).mpr
        (unquoted pair listed)
    rw [whole] at entries ⊢
    exact entries

/-- Three definitions: one without a value, one with an equals sign and quotes inside its value,
and one whose value ends with a quote. -/
theorem definitions_read_three :
    (∀ pair ∈ [("DEBUG", ""), ("LEVEL", "\"a\"=b"), ("NAME", "\"text\"")], Writable pair) ∧
      ∃ defines : Defines,
        ReadInBoth (writtenDefinitions
          [("DEBUG", ""), ("LEVEL", "\"a\"=b"), ("NAME", "\"text\"")]) defines ∧
        ¬ defines.entries.Perm [("DEBUG", ""), ("LEVEL", "\"a\"=b"), ("NAME", "\"text\"")] := by
  have writable : ∀ pair ∈ [("DEBUG", ""), ("LEVEL", "\"a\"=b"), ("NAME", "\"text\"")],
      Writable pair := by decide
  obtain ⟨defines, both, -, exactly⟩ := definitions_read _ writable (by decide)
  refine ⟨writable, defines, both, ?_⟩
  rw [exactly]
  decide

/-- A value that ends with a quote loses it in both formats, though its item does not begin with
one. -/
theorem endQuote_lost :
    Writable ("NAME", "\"text\"") ∧
      ((AttributeFormat.readCompiler {} (.mk "Tool" [⟨"Name", "VCCLCompilerTool"⟩,
        ⟨"PreprocessorDefinitions", writtenDefinitions [("NAME", "\"text\"")]⟩] ""
          [])).value.compilers.map (·.defines.entries)) = [[("NAME", "\"text")]] ∧
      ((ElementFormat.readCompilerSetting {} (.mk "PreprocessorDefinitions" []
        (writtenDefinitions [("NAME", "\"text\"")]) [])).value.compilers.map
          (·.defines.entries)) = [[("NAME", "\"text")]] := by
  decide

end Compilers

end Reading

end ProjectScribe
