import ProjectScribe.Pattern.Script

/-!
# Named sets of characters

The names that patterns give to sets: general categories, scripts, a few properties, and the
classes of the first 128 characters. Names are compared without case, blanks, underscores,
hyphens and a leading `is`.
-/
namespace ProjectScribe.Pattern

/-- A name in the form in which names are compared. -/
def looseName (name : List Char) : List Char :=
  let stem := match name with
    | first :: second :: rest =>
      if first.toLower == 'i' && second.toLower == 's' then rest else name
    | _ => name
  let kept := (stem.filter fun c => c.toNat < 128 && !(" _-".toList.contains c)).map Char.toLower
  if kept == ['c'] && stem.length < name.length then "isc".toList else kept

/-- The general categories with their names, each the letters it is written with first. -/
def categoryNames : List (List String) := [
  ["L", "Letter"], ["LC", "Cased_Letter"], ["Lu", "Uppercase_Letter"],
  ["Ll", "Lowercase_Letter"], ["Lt", "Titlecase_Letter"], ["Lm", "Modifier_Letter"],
  ["Lo", "Other_Letter"], ["M", "Mark", "Combining_Mark"], ["Mn", "Nonspacing_Mark"],
  ["Mc", "Spacing_Mark"], ["Me", "Enclosing_Mark"], ["N", "Number"],
  ["Nd", "Decimal_Number", "digit"], ["Nl", "Letter_Number"], ["No", "Other_Number"],
  ["P", "Punctuation", "punct"], ["Pc", "Connector_Punctuation"], ["Pd", "Dash_Punctuation"],
  ["Ps", "Open_Punctuation"], ["Pe", "Close_Punctuation"], ["Pi", "Initial_Punctuation"],
  ["Pf", "Final_Punctuation"], ["Po", "Other_Punctuation"], ["S", "Symbol"],
  ["Sm", "Math_Symbol"], ["Sc", "Currency_Symbol"], ["Sk", "Modifier_Symbol"],
  ["So", "Other_Symbol"], ["Z", "Separator"], ["Zs", "Space_Separator"],
  ["Zl", "Line_Separator"], ["Zp", "Paragraph_Separator"], ["C", "Other"],
  ["Cc", "Control", "cntrl"], ["Cf", "Format"], ["Co", "Private_Use"], ["Cn", "Unassigned"]]

/-- Lower-case characters beyond the category of lower-case letters. -/
def otherLower : CharSet := [(170, 170), (186, 186), (688, 696), (704, 705), (736, 740),
  (837, 837), (890, 890), (4348, 4348), (7468, 7530), (7544, 7544), (7579, 7615), (8305, 8305),
  (8319, 8319), (8336, 8348), (8560, 8575), (9424, 9449), (11388, 11389), (42652, 42653),
  (42864, 42864), (42994, 42996), (43000, 43001), (43868, 43871), (43881, 43881),
  (67456, 67456), (67459, 67461), (67463, 67504), (67506, 67514), (122928, 122989)]

/-- Upper-case characters beyond the category of upper-case letters. -/
def otherUpper : CharSet := [(8544, 8559), (9398, 9423), (127280, 127305), (127312, 127337),
  (127344, 127369)]

/-- The code points of a general category, a whole family of them, or all code points. -/
def categoryNamed? (name : List Char) : Option CharSet :=
  if name == "any".toList then some [(0, lastCode)]
  else if name == "assigned".toList then some (CharSet.complement (categorySet "Cn"))
  else if name == "ascii".toList then some [(0, 127)]
  else
    (categoryNames.find? fun names => names.any fun n => looseName n.toList == name).map
      fun names => match names.head? with
        | some "LC" => categoriesSet ["Lu", "Ll", "Lt"]
        | some letters => categorySet letters
        | none => []

/-- The code points of a script. -/
def scriptNamed? (name : List Char) : Option CharSet :=
  ((scriptNameLists.find? fun names => names.any fun n => looseName n.toList == name).bind
    List.head?).map scriptSet

/-- The characters with a property that has no values. -/
def propertyNamed? (name : List Char) : Option CharSet :=
  if name == "alphabetic".toList || name == "alpha".toList then some alphabeticSet
  else if name == "lowercase".toList || name == "lower".toList then
    some (CharSet.union (categorySet "Ll") otherLower)
  else if name == "uppercase".toList || name == "upper".toList then
    some (CharSet.union (categorySet "Lu") otherUpper)
  else if name == "whitespace".toList || name == "wspace".toList || name == "space".toList then
    some blankSet
  else none

/-- The set that a name alone stands for: a property, a general category or a script. -/
def namedSet? (name : List Char) : Option CharSet :=
  let loose := looseName name
  (propertyNamed? loose).or ((categoryNamed? loose).or (scriptNamed? loose))

/-- The set that a property with a value stands for. -/
def valueSet? (property value : List Char) : Option CharSet :=
  let loose := looseName property
  if loose == "gc".toList || loose == "generalcategory".toList then
    categoryNamed? (looseName value)
  else if loose == "sc".toList || loose == "script".toList then scriptNamed? (looseName value)
  else none

/-- The classes of the first 128 characters that brackets may name. -/
def asciiNamed? (name : List Char) : Option CharSet :=
  match String.ofList name with
  | "alnum" => some [(48, 57), (65, 90), (97, 122)]
  | "alpha" => some [(65, 90), (97, 122)]
  | "ascii" => some [(0, 127)]
  | "blank" => some [(9, 9), (32, 32)]
  | "cntrl" => some [(0, 31), (127, 127)]
  | "digit" => some [(48, 57)]
  | "graph" => some [(33, 126)]
  | "lower" => some [(97, 122)]
  | "print" => some [(32, 126)]
  | "punct" => some [(33, 47), (58, 64), (91, 96), (123, 126)]
  | "space" => some [(9, 13), (32, 32)]
  | "upper" => some [(65, 90)]
  | "word" => some [(48, 57), (65, 90), (95, 95), (97, 122)]
  | "xdigit" => some [(48, 57), (65, 70), (97, 102)]
  | _ => none

end ProjectScribe.Pattern
