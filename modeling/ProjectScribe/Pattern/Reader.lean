import ProjectScribe.Pattern.Basic
import ProjectScribe.Pattern.Folding
import ProjectScribe.Pattern.Property
import ProjectScribe.Text.Blank

/-!
# Reading patterns

The written form of patterns: literals, escapes, bracketed sets with set operations, groups with
flags, alternatives and repetitions. What is not a pattern has no reading. Capturing makes no
difference to what is matched, so groups leave no trace but the scope of their flags.

The reader consumes at least one character with every item, so the length of the text bounds the
number of its steps.
-/
namespace ProjectScribe.Pattern

/-- The flags under which a piece of a pattern is read. -/
structure Flags where
  ignoreCase : Bool := false
  multiLine : Bool := false
  dotAll : Bool := false
  unicode : Bool := true
  eitherEnding : Bool := false
  spaced : Bool := false

/-- A piece of a pattern with the depth of its nesting. Flags are a piece of their own, which
cannot be repeated. -/
structure Part where
  pattern : Pattern
  depth : Nat := 0
  repeatable : Bool := true

/-- What an escape or a plain character stands for. -/
inductive Primitive where
  | literal (c : Char) (isByte : Bool)
  | set (members : CharSet)
  | look (condition : Look)

/-- The deepest nesting that a pattern may have. -/
def deepest : Nat := 250

/-- The memory, in bytes, that the automaton of a pattern may take. -/
def largest : Nat := 10 * 1024 * 1024

section Scanning

/-- Skip a comment, up to and with the end of its line. -/
def skipComment : List Char → List Char
  | [] => []
  | c :: rest => if c = '\n' then rest else skipComment rest

/-- Skip blanks and comments, at most `steps` times. -/
def skipSpacing : Nat → List Char → List Char
  | 0, text => text
  | steps + 1, text =>
    match text.dropWhile Text.isBlank with
    | '#' :: rest => skipSpacing steps (skipComment rest)
    | rest => rest

/-- Skip blanks and comments where the flags say that they mean nothing. -/
def skip (flags : Flags) (text : List Char) : List Char :=
  if flags.spaced then skipSpacing text.length text else text

/-- The text after its first character, without what means nothing there. -/
def advance (flags : Flags) (text : List Char) : List Char := skip flags (text.drop 1)

/-- Whether a character is a hexadecimal digit. -/
def isHex (c : Char) : Bool :=
  c.isDigit || ('a' ≤ c && c ≤ 'f') || ('A' ≤ c && c ≤ 'F')

/-- The number that hexadecimal digits write. -/
def hexValue (digits : List Char) : Nat :=
  digits.foldl (fun value c =>
    value * 16 +
      if c.isDigit then c.toNat - 48 else if 'a' ≤ c then c.toNat - 87 else c.toNat - 55) 0

/-- The character with a code point, if there is one. -/
def charOf? (code : Nat) : Option Char :=
  if code < 0xD800 || (0xDFFF < code && code ≤ lastCode) then some (Char.ofNat code) else none

/-- The character that some hexadecimal digits name. -/
def hexChar? (digits : List Char) : Option Char := charOf? (hexValue digits)

/-- Exactly `count` hexadecimal digits. -/
def fixedHex (flags : Flags) : Nat → List Char → List Char → Option (List Char × List Char)
  | 0, digits, text => some (digits.reverse, text)
  | count + 1, digits, c :: rest =>
    if isHex c then
      fixedHex flags count (c :: digits) (advance flags (c :: rest))
    else none
  | _ + 1, _, [] => none

/-- Characters up to a closing brace, which `steps` bounds. -/
def braced (flags : Flags) : Nat → List Char → List Char → Option (List Char × List Char)
  | 0, _, _ => none
  | _ + 1, _, [] => none
  | steps + 1, gathered, c :: rest =>
    if c = '\x7d' then some (gathered.reverse, rest)
    else braced flags steps (c :: gathered) (advance flags (c :: rest))

/-- A hexadecimal escape after its letter: digits in braces, or a fixed number of them. -/
def hexEscape (flags : Flags) (count : Nat) (text : List Char) : Option (Char × List Char) :=
  match text with
  | [] => none
  | '\x7b' :: _ => do
    let (digits, rest) ← braced flags (text.length + 1) [] (advance flags text)
    if digits.isEmpty || !digits.all isHex then none
    else
      let c ← hexChar? digits
      some (c, skip flags rest)
  | _ => do
    let (digits, rest) ← fixedHex flags count [] text
    let c ← hexChar? digits
    some (c, rest)

/-- A decimal number of 32 bits with blanks around it. Afterwards stands what it could not use;
there is no number without a digit. -/
def decimal (flags : Flags) (text : List Char) : Option Nat × List Char :=
  let (digits, rest) := gather (text.length + 1) [] (text.dropWhile Text.isBlank)
  let value := digits.foldl (fun v c => v * 10 + (c.toNat - 48)) 0
  (if digits.isEmpty || UInt32.size ≤ value then none else some value, skipBlanks rest)
where
  /-- The digits from here on. -/
  gather : Nat → List Char → List Char → List Char × List Char
    | steps + 1, digits, c :: rest =>
      if c.isDigit then gather steps (c :: digits) (advance flags (c :: rest))
      else (digits.reverse, c :: rest)
    | _, digits, text => (digits.reverse, text)
  /-- The text without blanks in front. -/
  skipBlanks (text : List Char) : List Char := skip flags (text.dropWhile Text.isBlank)

end Scanning

section Sets

/-- A set closed under case where the flags say so. -/
def folded (flags : Flags) (set : CharSet) : CharSet :=
  if !flags.ignoreCase then set
  else if flags.unicode then closeUnderCase set
  else CharSet.ordered (set ++
    ((CharSet.intersection set [(65, 90)]).map fun (a, b) => (a + 32, b + 32)) ++
    ((CharSet.intersection set [(97, 122)]).map fun (a, b) => (a - 32, b - 32)))

/-- A set, or what it leaves out. A complement reaches beyond the first 128 characters, which is
possible only where characters are read as such. -/
def negated (flags : Flags) (negate : Bool) (set : CharSet) : Option CharSet :=
  if !negate then some set
  else if flags.unicode then some (CharSet.complement set)
  else none

/-- The set behind `d`, `s` or `w`, or its complement behind the capital letter. -/
def shorthand (flags : Flags) (letter : Char) : Option CharSet :=
  let set := match letter.toLower with
    | 'd' => if flags.unicode then digitSet else [(48, 57)]
    | 's' => if flags.unicode then blankSet else [(9, 13), (32, 32)]
    | _ => if flags.unicode then wordSet else [(48, 57), (65, 90), (95, 95), (97, 122)]
  negated flags letter.isUpper set

/-- A set by name, after `p` or `P`: one letter, or a name or a property and value in braces. -/
def property (flags : Flags) (negate : Bool) (text : List Char) :
    Option (CharSet × List Char) := do
  let (named, negate, rest) ← match text with
    | [] => none
    | '\x7b' :: _ => do
      let (name, rest) ← braced flags (text.length + 1) [] (advance flags text)
      match cutNot name with
      | some (p, value) => some (valueSet? p value, !negate, rest)
      | none =>
        match cut ':' name with
        | some (p, value) => some (valueSet? p value, negate, rest)
        | none =>
          match cut '=' name with
          | some (p, value) => some (valueSet? p value, negate, rest)
          | none => some (namedSet? name, negate, rest)
    | '\\' :: _ => none
    | c :: _ => some (namedSet? [c], negate, advance flags text)
  let set ← named
  if !flags.unicode then none
  else
    let set ← negated flags negate (folded flags set)
    some (set, rest)
where
  /-- What stands before and after a character. -/
  cut (separator : Char) (name : List Char) : Option (List Char × List Char) :=
    Text.cutAt separator name
  /-- What stands before and after the sign for inequality. -/
  cutNot (name : List Char) : Option (List Char × List Char) :=
    Text.cutAtText ['!', '='] name

end Sets

section Escapes

/-- Characters with a meaning of their own, which a backslash removes. -/
def isMeta (c : Char) : Bool := "\\.+*?()|[]\x7b\x7d^$#&-~".toList.contains c

/-- Whether a backslash may stand before a character that has no meaning of its own. -/
def isEscapable (c : Char) : Bool :=
  isMeta c || (c.toNat < 128 && !c.isAlphanum && c != '<' && c != '>')

/-- A word boundary of a special kind, named in braces after `b`. What cannot be such a name is
left to be read as a repetition. -/
def specialEdge (flags : Flags) (text : List Char) : Option (Look × List Char) :=
  match advance flags text with
  | [] => none
  | c :: rest =>
    if !isNameChar c then some (.wordEdge, text)
    else
      match gather (rest.length + 2) [] (c :: rest) with
      | (name, '\x7d' :: after) =>
        match String.ofList name with
        | "start" => some (.wordStart, after)
        | "end" => some (.wordEnd, after)
        | "start-half" => some (.afterNoWord, after)
        | "end-half" => some (.beforeNoWord, after)
        | _ => none
      | _ => none
where
  /-- The characters of such names. -/
  isNameChar (c : Char) : Bool := c.isAlpha || c == '-'
  /-- The name from here on. -/
  gather : Nat → List Char → List Char → List Char × List Char
    | steps + 1, name, c :: rest =>
      if isNameChar c then gather steps (c :: name) (advance flags (c :: rest))
      else (name.reverse, c :: rest)
    | _, name, text => (name.reverse, text)

/-- What an escape stands for, after its backslash. -/
def escape (flags : Flags) : List Char → Option (Primitive × List Char)
  | [] => none
  | c :: rest =>
    if c.isDigit then none
    else if c == 'x' then do
      let (d, after) ← hexEscape flags 2 (advance flags (c :: rest))
      let isByte := (advance flags (c :: rest)).head? != some '\x7b'
      some (.literal d isByte, after)
    else if c == 'u' || c == 'U' then do
      let (d, after) ← hexEscape flags (if c == 'u' then 4 else 8) (advance flags (c :: rest))
      some (.literal d false, after)
    else if c == 'p' || c == 'P' then do
      let (set, after) ← property flags (c == 'P') (advance flags (c :: rest))
      some (.set set, after)
    else if "dswDSW".toList.contains c then do
      let set ← shorthand flags c
      some (.set set, rest)
    else if isEscapable c then some (.literal c false, rest)
    else match c with
      | 'a' => some (.literal '\x07' false, rest)
      | 'f' => some (.literal '\x0c' false, rest)
      | 't' => some (.literal '\t' false, rest)
      | 'n' => some (.literal '\n' false, rest)
      | 'r' => some (.literal '\r' false, rest)
      | 'v' => some (.literal '\x0b' false, rest)
      | 'A' => some (.look .textStart, rest)
      | 'z' => some (.look .textEnd, rest)
      | 'b' =>
        if rest.head? == some '\x7b' then do
          let (condition, after) ← specialEdge flags rest
          some (.look condition, after)
        else some (.look .wordEdge, rest)
      | 'B' => some (.look .noWordEdge, rest)
      | '<' => some (.look .wordStart, rest)
      | '>' => some (.look .wordEnd, rest)
      | _ => none

end Escapes

section Brackets

/-- The operations between the sets inside brackets. -/
inductive SetOperation where
  | intersection
  | difference
  | symmetricDifference

/-- Members gathered inside brackets: their union, how many items there were, and the depth of
the deepest. -/
structure Gathered where
  set : CharSet := []
  items : Nat := 0
  depth : Nat := 0

/-- One item more. -/
def Gathered.add (gathered : Gathered) (set : CharSet) (depth : Nat) : Gathered :=
  ⟨gathered.set ++ set, gathered.items + 1, max gathered.depth depth⟩

/-- The depth of all items together. -/
def Gathered.height (gathered : Gathered) : Nat :=
  if gathered.items ≤ 1 then gathered.depth else gathered.depth + 1

/-- Brackets that are still open: what surrounds them, whether they are negated, and the left
side of an operation that awaits its right side. -/
structure OpenBrackets where
  outer : Gathered
  negate : Bool
  pending : Option (SetOperation × CharSet × Nat) := none

/-- The members gathered so far, combined with the left side that awaited them. -/
def OpenBrackets.close (flags : Flags) (brackets : OpenBrackets) (gathered : Gathered) :
    CharSet × Nat :=
  match brackets.pending with
  | none => (CharSet.ordered gathered.set, gathered.height)
  | some (operation, left, depth) =>
    let left := folded flags left
    let right := folded flags (CharSet.ordered gathered.set)
    let set := match operation with
      | .intersection => CharSet.intersection left right
      | .difference => CharSet.difference left right
      | .symmetricDifference => CharSet.symmetricDifference left right
    (set, max depth gathered.height + 1)

/-- A literal as a member of brackets. -/
def memberLiteral (flags : Flags) (c : Char) (isByte : Bool) : Option Nat :=
  if flags.unicode then some c.toNat
  else if c.toNat < 128 then some c.toNat
  else if isByte then none
  else none

/-- One item inside brackets, before it is known whether it begins a range. -/
def bracketPrimitive (flags : Flags) : List Char → Option (Primitive × List Char)
  | [] => none
  | '\\' :: rest => escape flags rest
  | c :: rest => some (.literal c false, rest)

/-- The character after the first, past blanks and the start of a comment where those mean
nothing. -/
def peekSpaced (flags : Flags) (text : List Char) : Option Char :=
  let rest := text.drop 1
  if !flags.spaced then rest.head?
  else
    match rest.dropWhile Text.isBlank with
    | '#' :: after =>
      match after.dropWhile Text.isBlank with
      | [] => rest.head?
      | c :: _ => some c
    | [] => rest.head?
    | c :: _ => some c

/-- A range or a single item inside brackets. -/
def bracketItem (flags : Flags) (text : List Char) : Option (CharSet × List Char) := do
  let (first, rest) ← bracketPrimitive flags text
  let rest := skip flags rest
  match rest with
  | [] => none
  | c :: _ =>
    let next := peekSpaced flags rest
    if c != '-' || next == some ']' || next == some '-' then
      match first with
      | .literal d isByte => do
        let code ← memberLiteral flags d isByte
        some ([(code, code)], rest)
      | .set members => some (members, rest)
      | .look _ => none
    else
      let rest := advance flags rest
      if rest.isEmpty then none
      else
        let (second, rest) ← bracketPrimitive flags rest
        match first, second with
        | .literal d isByte, .literal e isByte' => do
          if e.toNat < d.toNat then none
          else
            let low ← memberLiteral flags d isByte
            let high ← memberLiteral flags e isByte'
            some ([(low, high)], rest)
        | _, _ => none

/-- A class of the first 128 characters by name, as in `[:alpha:]`. -/
def asciiClass (flags : Flags) (text : List Char) : Option (Option (CharSet × List Char)) :=
  match text with
  | '[' :: ':' :: rest =>
    let (negate, rest) := match rest with
      | '^' :: after => (true, after)
      | _ => (false, rest)
    let name := rest.takeWhile (· != ':')
    match rest.drop name.length, asciiNamed? name with
    | ':' :: ']' :: after, some set =>
      some ((negated flags negate (folded flags set)).map fun set => (set, after))
    | _, _ => none
  | _ => none

/-- Hyphens at the start of brackets, which stand for themselves. -/
def leadingHyphens (flags : Flags) : Nat → Gathered → List Char → Option (Gathered × List Char)
  | steps + 1, gathered, '-' :: rest =>
    leadingHyphens flags steps (gathered.add [(45, 45)] 0) (advance flags ('-' :: rest))
  | _, _, [] => none
  | _, gathered, text => some (gathered, text)

/-- The start of brackets: a caret that negates them, hyphens, and a closing bracket that stands
for itself. -/
def openBrackets (flags : Flags) (text : List Char) : Option (Bool × Gathered × List Char) := do
  let rest := advance flags text
  let (negate, rest) := match rest with
    | '^' :: _ => (true, advance flags rest)
    | _ => (false, rest)
  let (gathered, rest) ← leadingHyphens flags (rest.length + 1) {} rest
  match gathered.items, rest with
  | 0, ']' :: _ =>
    let rest := advance flags rest
    if rest.isEmpty then none else some (negate, gathered.add [(93, 93)] 0, rest)
  | _, _ => some (negate, gathered, rest)

/-- Brackets from their inside, with those that are open around the current ones. -/
def insideBrackets (flags : Flags) :
    Nat → List OpenBrackets → Gathered → List Char → Option (CharSet × Nat × List Char)
  | 0, _, _, _ => none
  | _ + 1, [], _, _ => none
  | steps + 1, brackets :: outside, gathered, text =>
    match skip flags text with
    | [] => none
    | '[' :: rest =>
      match asciiClass flags ('[' :: rest) with
      | some none => none
      | some (some (set, after)) =>
        insideBrackets flags steps (brackets :: outside) (gathered.add set 0) after
      | none => do
        let (negate, inner, after) ← openBrackets flags ('[' :: rest)
        insideBrackets flags steps (⟨gathered, negate, none⟩ :: brackets :: outside) inner after
    | ']' :: rest => do
      let (set, depth) := brackets.close flags gathered
      let set ← negated flags brackets.negate (folded flags set)
      match outside with
      | [] => some (set, depth + 1, rest)
      | _ => insideBrackets flags steps outside (brackets.outer.add set (depth + 1)) rest
    | '&' :: '&' :: rest => operation steps brackets outside gathered .intersection rest
    | '-' :: '-' :: rest => operation steps brackets outside gathered .difference rest
    | '~' :: '~' :: rest => operation steps brackets outside gathered .symmetricDifference rest
    | text => do
      let (set, rest) ← bracketItem flags text
      insideBrackets flags steps (brackets :: outside) (gathered.add set 0) rest
where
  /-- An operation between what was gathered and what follows. -/
  operation (steps : Nat) (brackets : OpenBrackets) (outside : List OpenBrackets)
      (gathered : Gathered) (kind : SetOperation) (rest : List Char) :
      Option (CharSet × Nat × List Char) :=
    let (left, depth) := brackets.close flags gathered
    insideBrackets flags steps
      (⟨brackets.outer, brackets.negate, some (kind, left, depth)⟩ :: outside) {} rest

/-- A bracketed set with the depth of its nesting. -/
def bracketed (flags : Flags) (text : List Char) : Option (CharSet × Nat × List Char) := do
  let (negate, gathered, rest) ← openBrackets flags text
  insideBrackets flags (rest.length + 1) [⟨{}, negate, none⟩] gathered rest

end Brackets

section Groups

/-- The flags that a list of flag letters turns on and, after a hyphen, off. -/
def applyFlags (flags : Flags) : Bool → List Char → Flags
  | _, [] => flags
  | on, letter :: rest =>
    match letter with
    | '-' => applyFlags flags false rest
    | 'i' => applyFlags { flags with ignoreCase := on } on rest
    | 'm' => applyFlags { flags with multiLine := on } on rest
    | 's' => applyFlags { flags with dotAll := on } on rest
    | 'u' => applyFlags { flags with unicode := on } on rest
    | 'R' => applyFlags { flags with eitherEnding := on } on rest
    | 'x' => applyFlags { flags with spaced := on } on rest
    | _ => applyFlags flags on rest

/-- Whether flag letters are well-formed: known, none twice, and none missing after a hyphen. -/
def flagsAllowed (letters : List Char) : Bool :=
  letters.all ("imsURux-".toList.contains ·) && letters.eraseDups.length == letters.length &&
    letters.getLast? != some '-'

/-- What the start of a group says. -/
inductive GroupStart where
  /-- Flags for what follows in the same group. -/
  | flags (letters : List Char)
  /-- A group, with flags of its own. -/
  | group (letters : List Char)
  /-- A group with a name. -/
  | named (name : List Char)

/-- Whether a character may stand in a group's name, first or later. -/
def isGroupName (c : Char) (first : Bool) : Bool :=
  c == '_' || alphabeticSet.contains c.toNat ||
    (!first && (c == '.' || c == '[' || c == ']' || (categorySet "N").contains c.toNat))

/-- The start of a group, after its parenthesis. -/
def groupStart (text : List Char) : Option (GroupStart × List Char) :=
  match text with
  | '?' :: 'P' :: '<' :: rest => groupName rest
  | '?' :: '=' :: _ | '?' :: '!' :: _ | '?' :: '<' :: '=' :: _ | '?' :: '<' :: '!' :: _ => none
  | '?' :: '<' :: rest => groupName rest
  | '?' :: rest =>
    let letters := rest.takeWhile fun c => c != ':' && c != ')'
    match rest.drop letters.length with
    | ':' :: after => if flagsAllowed letters then some (.group letters, after) else none
    | ')' :: after =>
      if flagsAllowed letters && !letters.isEmpty then some (.flags letters, after) else none
    | _ => none
  | _ => some (.group [], text)
where
  /-- A group's name, up to its closing bracket. -/
  groupName (rest : List Char) : Option (GroupStart × List Char) :=
    let name := rest.takeWhile (· != '>')
    match name, rest.drop name.length with
    | first :: others, '>' :: after =>
      if isGroupName first true && others.all (isGroupName · false) then
        some (.named name, after)
      else none
    | _, _ => none

/-- Pieces in a row as one piece; the last comes first in the list. -/
def rowOf (items : List Part) : Part :=
  match items with
  | [] => { pattern := .empty }
  | [item] => item
  | _ =>
    { pattern := sequence (items.reverse.map (·.pattern))
      depth := (items.map (·.depth)).foldl max 0 + 1 }

/-- Alternatives as one piece; the last comes first in the list. -/
def choiceOf (choices : List Part) : Part :=
  match choices with
  | [choice] => choice
  | _ =>
    { pattern := anyOf (choices.reverse.map (·.pattern))
      depth := (choices.map (·.depth)).foldl max 0 + 1 }

/-- A group that is still open: the pieces and alternatives around it and the flags there. -/
structure OpenGroup where
  items : List Part
  choices : List Part
  flags : Flags

/-- What has been read: open groups, alternatives and pieces of the current group, the flags in
force, and the names of groups. Lists have the last first. -/
structure State where
  groups : List OpenGroup := []
  choices : List Part := []
  items : List Part := []
  flags : Flags := {}
  names : List (List Char) := []

/-- One more piece. -/
def State.add (state : State) (part : Part) : State :=
  { state with items := part :: state.items }

/-- The current group as a group piece. -/
def State.content (state : State) : Part := choiceOf (rowOf state.items :: state.choices)

/-- A literal as a pattern. -/
def literalPattern (flags : Flags) (c : Char) (isByte : Bool) : Option Pattern :=
  if !flags.unicode && isByte && 128 ≤ c.toNat then none
  else if !flags.unicode && 128 ≤ c.toNat then some (.chars [(c.toNat, c.toNat)])
  else some (.chars (folded flags [(c.toNat, c.toNat)]))

/-- The word characters under the flags in force. -/
def wordOf (flags : Flags) : CharSet :=
  if flags.unicode then wordSet else [(48, 57), (65, 90), (95, 95), (97, 122)]

/-- A primitive as a pattern. -/
def primitivePattern (flags : Flags) : Primitive → Option Pattern
  | .literal c isByte => literalPattern flags c isByte
  | .set members => some (.chars members)
  | .look condition => some (.look condition (wordOf flags))

/-- The pattern of a plain character outside brackets. -/
def plainPattern (flags : Flags) : Char → Option Pattern
  | '.' =>
    if !flags.unicode then none
    else if flags.dotAll then some (.chars [(0, lastCode)])
    else if flags.eitherEnding then some (.chars (CharSet.complement [(10, 10), (13, 13)]))
    else some (.chars (CharSet.complement [(10, 10)]))
  | '^' => some (.look (if !flags.multiLine then .textStart
      else if flags.eitherEnding then .lineStartEither else .lineStart) [])
  | '$' => some (.look (if !flags.multiLine then .textEnd
      else if flags.eitherEnding then .lineEndEither else .lineEnd) [])
  | c => literalPattern flags c false

/-- The last piece repeated. -/
def State.repeatLast (state : State) (least : Nat) (most : Option Nat) : Option State :=
  match state.items with
  | [] => none
  | item :: others =>
    if !item.repeatable then none
    else some { state with
      items := { pattern := .repeated item.pattern least most, depth := item.depth + 1 } :: others }

/-- The bounds of a counted repetition, from its opening brace on. -/
def repetition (flags : Flags) (text : List Char) :
    Option (Nat × Option Nat × List Char) := do
  let rest := advance flags text
  if rest.isEmpty then none
  else
    let (least, rest) := decimal flags rest
    match rest with
    | ',' :: _ =>
      let rest := advance flags rest
      let least ← least
      match rest with
      | [] => none
      | '\x7d' :: after => some (least, none, after)
      | _ =>
        match decimal flags rest with
        | (some most, '\x7d' :: after) =>
          if most < least then none else some (least, some most, after)
        | _ => none
    | '\x7d' :: after =>
      let least ← least
      some (least, some least, after)
    | _ => none

/-- A sign of laziness after a repetition, which changes nothing about what is matched. -/
def withoutLazy : List Char → List Char
  | '?' :: rest => rest
  | text => text

/-- The pieces of a pattern, one after another. -/
def readParts : Nat → State → List Char → Option State
  | 0, _, _ => none
  | steps + 1, state, text =>
    let flags := state.flags
    match skip flags text with
    | [] => some state
    | '(' :: rest => do
      let (start, after) ← groupStart (skip flags rest)
      match start with
      | .flags letters =>
        readParts steps
          { state with
            flags := applyFlags flags true letters
            items := { pattern := .empty, repeatable := false } :: state.items } after
      | .group letters =>
        readParts steps
          { state with
            groups := ⟨state.items, state.choices, flags⟩ :: state.groups
            items := [], choices := []
            flags := applyFlags flags true letters } after
      | .named name =>
        if state.names.contains name then none
        else
          readParts steps
            { state with
              groups := ⟨state.items, state.choices, flags⟩ :: state.groups
              items := [], choices := []
              names := name :: state.names } after
    | ')' :: rest =>
      match state.groups with
      | [] => none
      | group :: groups =>
        let content := state.content
        let part : Part := { pattern := content.pattern, depth := content.depth + 1 }
        readParts steps
          { state with
            groups := groups, items := part :: group.items, choices := group.choices
            flags := group.flags } rest
    | '|' :: rest =>
      readParts steps
        { state with choices := rowOf state.items :: state.choices, items := [] } rest
    | '[' :: rest => do
      let (set, depth, after) ← bracketed flags ('[' :: rest)
      readParts steps (state.add { pattern := .chars set, depth := depth }) after
    | '?' :: rest => do
      let next ← state.repeatLast 0 (some 1)
      readParts steps next (withoutLazy rest)
    | '*' :: rest => do
      let next ← state.repeatLast 0 none
      readParts steps next (withoutLazy rest)
    | '+' :: rest => do
      let next ← state.repeatLast 1 none
      readParts steps next (withoutLazy rest)
    | '\x7b' :: rest => do
      let (least, most, after) ← repetition flags ('\x7b' :: rest)
      let next ← state.repeatLast least most
      readParts steps next (withoutLazy (skip flags after))
    | '\\' :: rest => do
      let (primitive, after) ← escape flags rest
      let pattern ← primitivePattern flags primitive
      readParts steps (state.add { pattern := pattern }) after
    | c :: rest => do
      let pattern ← plainPattern flags c
      readParts steps (state.add { pattern := pattern }) rest

end Groups

section Limits

/-- Whether a pattern describes the empty stretch and nothing else. -/
def isEmptyOnly : Pattern → Bool
  | .empty => true
  | .chars _ => false
  | .look _ _ => true
  | .both first second => first.isEmptyOnly && second.isEmptyOnly
  | .either left right => left.isEmptyOnly && right.isEmptyOnly
  | .repeated body _ most => most == some 0 || body.isEmptyOnly

/-- About how many bytes the automaton of a pattern takes: 32 for each state, and more for sets
of several ranges. -/
def cost : Pattern → Nat
  | .empty => 32
  | .chars [(first, last)] => if first = last then 32 * (Char.ofNat first).utf8Size
      else if last < 128 then 72 else 400
  | .chars set => if set.isAscii then 64 + 8 * set.length else 300 + 64 * set.length
  | .look _ _ => 32
  | .both first second => first.cost + second.cost
  | .either left right => left.cost + right.cost + 40
  | .repeated body least most =>
    let copies := if body.isEmptyOnly then 1 else match most with
      | some most => most
      | none => max least 1
    copies * (body.cost + 36) + 64

/-- The pattern that a text writes, if it writes one within the limits of nesting and size. -/
def read? (text : List Char) : Option Pattern := do
  let state ← readParts (text.length + 1) {} text
  if state.groups.isEmpty then
    let whole := state.content
    if whole.depth ≤ deepest && whole.pattern.cost ≤ largest then some whole.pattern else none
  else none

/-- The pattern of a key: the key as a group that has to match a whole text. -/
def ofKey? (key : String) : Option Pattern :=
  read? ("^(?:".toList ++ key.toList ++ ")$".toList)

end Limits

end ProjectScribe.Pattern
