import CommandShell.Pattern.Node
import CommandShell.Unicode.Script
import CommandShell.Unicode.Segmentation

/-!
# Named Properties

The sets of characters that patterns ask for by name: properties that hold or do not hold, general
categories and groups of them, and scripts; and by the name of a property and one of its values.
The values of some properties can be asked for; others are known, but their values are not.
-/

namespace CommandShell.Pattern

open Unicode (CharClass NamedClass Category RangeTable classNamed? sameName)
open Unicode.Version16 (category)

/-- Groups of general categories, with their names. -/
def categoryGroups : List NamedClass :=
  [ ⟨["Any"], fun _ => true⟩,
    ⟨["Assigned"], fun c => category c != .unassigned⟩,
    ⟨["ASCII"], fun c => c.toNat < 128⟩,
    ⟨["Letter", "L"], fun c => (category c).isLetter⟩,
    ⟨["Cased_Letter", "LC"], fun c =>
      [Category.uppercaseLetter, .lowercaseLetter, .titlecaseLetter].contains (category c)⟩,
    ⟨["Mark", "M", "Combining_Mark"], fun c => (category c).isMark⟩,
    ⟨["Number", "N"], fun c => (category c).isNumber⟩,
    ⟨["Punctuation", "P", "punct"], fun c => (category c).isPunctuation⟩,
    ⟨["Symbol", "S"], fun c => (category c).isSymbol⟩,
    ⟨["Separator", "Z"], fun c => (category c).isSeparator⟩,
    ⟨["Other", "C"], fun c => (category c).isOther⟩,
    ⟨["digit"], Unicode.Version16.isDigit⟩,
    ⟨["cntrl"], fun c => category c = .control⟩ ]

/-- The characters of the general category, or group of categories, of a given name. -/
def categoryNamed? (name : String) : Option CharClass :=
  (classNamed? name categoryGroups).or <|
    (Category.index.find? fun (_, short, long, _) =>
      sameName name short || sameName name long).map fun (kind, _) => fun c => category c = kind

/-- The name says a category that no character has. -/
def isSurrogateName (name : String) : Bool :=
  sameName name "Surrogate" || sameName name "Cs"

/-- The script of a given name: its long name and its characters. -/
def scriptNamed? (name : String) : Option (String × CharClass) :=
  (Unicode.scripts.find? fun (names, _) => names.any (sameName name)).bind fun (names, ranges) =>
    names.head?.map fun long => (long, (RangeTable.ofText ranges).members)

/-- The name says a script that no character is in. -/
def isUnusedScript (name : String) : Bool :=
  ["Katakana_Or_Hiragana", "Hrkt", "Unknown", "Zzzz"].any (sameName name)

/-- The characters that are used with the script of a given name. -/
def scriptExtended? (name : String) : Option CharClass :=
  (scriptNamed? name).map fun (long, members) =>
    if Unicode.sharedScripts.contains long then
      let others := Unicode.scriptExtensions.map fun (_, ranges) => RangeTable.ofText ranges
      fun c => members c && !others.any (·.members c)
    else
      match Unicode.scriptExtensions.lookup long with
      | some ranges =>
        let further := RangeTable.ofText ranges
        fun c => members c || further.members c
      | none => members

/-- The characters that were there in the version of a given name. -/
def ageNamed? (name : String) : Option CharClass :=
  let versions := (Unicode.additions.map (·.1)).filter (!·.isAfter ⟨16, 0⟩)
  (versions.find? fun version => sameName name version.name || sameName name version.symbol).map
    Unicode.isInVersion

/-- The characters that a name alone asks for. Three names are those of categories although
properties go by them too. -/
def propertyNamed (name : String) : Except Cause CharClass :=
  let isCategory := ["cf", "sc", "lc"].any (sameName name)
  let property :=
    if isCategory then none else classNamed? name Unicode.Version16.booleanProperties
  if isSurrogateName name || (isUnusedScript name && property.isNone) then
    .error .propertyValueNotFound
  else
    match (property.or (categoryNamed? name)).or ((scriptNamed? name).map (·.2)) with
    | some set => .ok set
    | none => .error .propertyNotFound

/-- The properties whose values can be asked for, with their names and the sets that their values
stand for. -/
def valuedProperties : List (List String × (String → Option CharClass)) :=
  [ (["General_Category", "gc"], fun value =>
      if isSurrogateName value then none else categoryNamed? value),
    (["Script", "sc"], fun value => (scriptNamed? value).map (·.2)),
    (["Script_Extensions", "scx"], scriptExtended?),
    (["Age"], ageNamed?),
    (["Grapheme_Cluster_Break", "GCB"], (classNamed? · Unicode.Version16.clusterClasses)),
    (["Word_Break", "WB"], (classNamed? · Unicode.Version16.wordClasses)),
    (["Sentence_Break", "SB"], (classNamed? · Unicode.Version16.sentenceClasses)) ]

/-- The names of properties that are known, but whose values are not. -/
def otherProperties : List String :=
  [ "Bidi_Class", "bc", "Bidi_Mirroring_Glyph", "bmg", "Bidi_Paired_Bracket", "bpb",
    "Bidi_Paired_Bracket_Type", "bpt", "Block", "blk", "Canonical_Combining_Class", "ccc",
    "Case_Folding", "cf", "Changes_When_NFKC_Casefolded", "CWKCF", "Composition_Exclusion", "CE",
    "Decomposition_Mapping", "dm", "Decomposition_Type", "dt", "East_Asian_Width", "ea",
    "Equivalent_Unified_Ideograph", "EqUIdeo", "Expands_On_NFC", "XO_NFC", "Expands_On_NFD",
    "XO_NFD", "Expands_On_NFKC", "XO_NFKC", "Expands_On_NFKD", "XO_NFKD", "FC_NFKC_Closure",
    "FC_NFKC", "Full_Composition_Exclusion", "Comp_Ex", "Hangul_Syllable_Type", "hst",
    "ISO_Comment", "isc", "Indic_Conjunct_Break", "InCB", "Indic_Positional_Category", "InPC",
    "Indic_Syllabic_Category", "InSC", "Jamo_Short_Name", "JSN", "Joining_Group", "jg",
    "Joining_Type", "jt", "Line_Break", "lb", "Lowercase_Mapping", "lc", "NFC_Quick_Check",
    "NFC_QC", "NFD_Quick_Check", "NFD_QC", "NFKC_Casefold", "NFKC_CF", "NFKC_Quick_Check",
    "NFKC_QC", "NFKC_Simple_Casefold", "NFKC_SCF", "NFKD_Quick_Check", "NFKD_QC", "Name", "na",
    "Name_Alias", "Numeric_Type", "nt", "Numeric_Value", "nv", "Simple_Case_Folding", "scf", "sfc",
    "Simple_Lowercase_Mapping", "slc", "Simple_Titlecase_Mapping", "stc",
    "Simple_Uppercase_Mapping", "suc", "Titlecase_Mapping", "tc", "Unicode_1_Name", "na1",
    "Unicode_Radical_Stroke", "URS", "Uppercase_Mapping", "uc", "Vertical_Orientation", "vo",
    "cjkAccountingNumeric", "kAccountingNumeric", "cjkCompatibilityVariant",
    "kCompatibilityVariant", "cjkIICore", "kIICore", "cjkIRG_GSource", "kIRG_GSource",
    "cjkIRG_HSource", "kIRG_HSource", "cjkIRG_JSource", "kIRG_JSource", "cjkIRG_KPSource",
    "kIRG_KPSource", "cjkIRG_KSource", "kIRG_KSource", "cjkIRG_MSource", "kIRG_MSource",
    "cjkIRG_SSource", "kIRG_SSource", "cjkIRG_TSource", "kIRG_TSource", "cjkIRG_UKSource",
    "kIRG_UKSource", "cjkIRG_USource", "kIRG_USource", "cjkIRG_VSource", "kIRG_VSource",
    "cjkOtherNumeric", "kOtherNumeric", "cjkPrimaryNumeric", "kPrimaryNumeric", "cjkRSUnicode",
    "kRSUnicode", "Unicode_Radical_Stroke", "kEH_Cat", "kEH_Core", "kEH_Desc", "kEH_Func",
    "kEH_FVal", "kEH_HG", "kEH_IFAO", "kEH_JSesh", "kEH_NoMirror", "kEH_NoRotate", "kEH_UniK" ]

/-- There is a property of that name, although its values cannot be asked for. -/
def isOtherProperty (name : String) : Bool :=
  otherProperties.any (sameName name) ||
    (classNamed? name Unicode.Version16.booleanProperties).isSome

/-- The characters for which a property has a given value. -/
def propertyValued (property value : String) : Except Cause CharClass :=
  match valuedProperties.find? fun (names, _) => names.any (sameName property) with
  | some (_, valued) =>
    match valued value with
    | some set => .ok set
    | none => .error .propertyValueNotFound
  | none => .error (if isOtherProperty property then .propertyValueNotFound else .propertyNotFound)

/-- The characters that a query asks for. -/
def PropertyQuery.characters : PropertyQuery → Except Cause CharClass
  | .letter c => propertyNamed (String.singleton c)
  | .name text => propertyNamed text
  | .value property text => propertyValued property text

end CommandShell.Pattern
