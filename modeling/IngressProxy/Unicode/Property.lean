import IngressProxy.CharSet
import IngressProxy.Unicode.AgeTable
import IngressProxy.Unicode.BinaryTable
import IngressProxy.Unicode.BreakTable
import IngressProxy.Unicode.CategoryTable
import IngressProxy.Unicode.ScriptTable

namespace IngressProxy.Unicode

/-- The form in which names are compared: without case, blanks, hyphens and underscores, and without
a leading `is`. -/
def normalize (name : String) : String :=
  let cs := name.toList
  let isStem := (cs.take 2).map Char.toLower = ['i', 's']
  let body := (if isStem then cs.drop 2 else cs).filter fun c =>
    c ≠ ' ' && c ≠ '_' && c ≠ '-' && c.toNat < 0x80
  let lower := String.ofList (body.map Char.toLower)
  if isStem && lower = "c" then "isc" else lower

/-- The canonical name in a list of names. -/
def canonical? (names : List (String × List String)) (name : String) : Option String :=
  (names.find? fun e => e.2.contains name).map Prod.fst

/-- An entry of a table as a set; the empty set if there is none. -/
def tableSet (table : List (String × String)) (key : String) : CharSet :=
  match table.lookup key with
  | some text => .ranges (CodeRanges.parse text)
  | none => .empty

/-- The categories of a group, which is the first letter of their abbreviations. -/
def categoryGroup (letter : Char) : List String :=
  (categoryTable.map Prod.fst).filter fun c => c.toList.head? = some letter

/-- The union of some categories, by their abbreviations; unassigned characters are in none. -/
def assignedCategories (names : List String) : CharSet :=
  .unions (names.map (tableSet categoryTable))

/-- The characters of a general category, or of a group of them. -/
def category (name : String) : CharSet :=
  match name.toList with
  | ['C'] => .compl (assignedCategories ("LMNPSZ".toList.flatMap categoryGroup))
  | ['C', 'n'] => .compl (assignedCategories (categoryTable.map Prod.fst))
  | ['L', 'C'] => assignedCategories ["Ll", "Lt", "Lu"]
  | [letter] => assignedCategories (categoryGroup letter)
  | _ => tableSet categoryTable name

/-- The union of general categories. -/
def categories (names : List String) : CharSet := .unions (names.map category)

/-- A property that is listed as it is. -/
def listed (name : String) : CharSet := tableSet binaryTable name

def alphabetic : CharSet := .unions [category "L", category "Nl", listed "Other_Alphabetic"]

def lowercase : CharSet := .union (category "Ll") (listed "Other_Lowercase")

def uppercase : CharSet := .union (category "Lu") (listed "Other_Uppercase")

def graphemeExtend : CharSet := .union (categories ["Me", "Mn"]) (listed "Other_Grapheme_Extend")

def syntaxOrBlank : CharSet := .union (listed "Pattern_Syntax") (listed "Pattern_White_Space")

def idStart : CharSet :=
  .diff (.unions [category "L", category "Nl", listed "Other_ID_Start"]) syntaxOrBlank

def idContinue : CharSet :=
  .diff (.unions [idStart, categories ["Mn", "Mc", "Nd", "Pc"], listed "Other_ID_Continue"])
    syntaxOrBlank

/-- Characters whose compatibility form does not continue an identifier. -/
def notXidContinue : CharSet :=
  .ranges (CodeRanges.parse
    "37a 309b-309c fc5e-fc63 fdfa-fdfb fe70 fe72 fe74 fe76 fe78 fe7a fe7c fe7e")

/-- Characters whose compatibility form does not start an identifier. -/
def notXidStart : CharSet :=
  .union notXidContinue (.ranges (CodeRanges.parse "e33 eb3 ff9e-ff9f"))

def titlecaseChanges : CharSet :=
  .diff
    (.union (listed "Changes_When_Uppercased") (.ranges (CodeRanges.parse "1c4 1c7 1ca 1f1")))
    (.ranges (CodeRanges.parse
      "1c5 1c8 1cb 1f2 10d0-10fa 10fd-10ff 1f88-1f8f 1f98-1f9f 1fa8-1faf 1fbc 1fcc 1ffc"))

def casefoldChanges : CharSet :=
  .diff
    (.union (listed "Changes_When_Lowercased")
      (.ranges (CodeRanges.parse "b5 df 149 17f 345 3c2 3d0-3d1 3d5-3d6 3f0-3f1 3f5 587 13f8-13fd
        1c80-1c88 1e9a-1e9b 1f80-1f87 1f90-1f97 1fa0-1fa7 1fb2-1fb4 1fb7 1fc2-1fc4 1fc7 1ff2-1ff4
        1ff7 ab70-abbf fb00-fb06 fb13-fb17")))
    (.ranges (CodeRanges.parse "13a0-13f5"))

/-- The characters of a property that a character has or has not, by its canonical name. -/
def binary : String → CharSet
  | "Alphabetic" => alphabetic
  | "Case_Ignorable" =>
    .union (categories ["Mn", "Me", "Cf", "Lm", "Sk"])
      (.ranges (CodeRanges.parse "27 2e 3a b7 387 55f 5f4 2018-2019 2024 2027 fe13 fe52 fe55 ff07
        ff0e ff1a"))
  | "Cased" => .unions [lowercase, uppercase, category "Lt"]
  | "Changes_When_Casefolded" => casefoldChanges
  | "Changes_When_Casemapped" =>
    .unions [listed "Changes_When_Lowercased", listed "Changes_When_Uppercased", titlecaseChanges]
  | "Changes_When_Titlecased" => titlecaseChanges
  | "Grapheme_Base" =>
    .compl (.union (categories ["Cc", "Cf", "Cs", "Co", "Cn", "Zl", "Zp"]) graphemeExtend)
  | "Grapheme_Extend" => graphemeExtend
  | "ID_Continue" => idContinue
  | "ID_Start" => idStart
  | "Lowercase" => lowercase
  | "Math" => .union (category "Sm") (listed "Other_Math")
  | "Uppercase" => uppercase
  | "XID_Continue" => .diff idContinue notXidContinue
  | "XID_Start" => .diff idStart notXidStart
  | name => listed name

def script (name : String) : CharSet := tableSet scriptTable name

/-- The characters that are used in a script: its own, unless others share them, and those that it
shares. -/
def scriptExtension (name : String) : CharSet :=
  let shared := CharSet.unions (scriptExtensionTable.map fun e => .ranges (CodeRanges.parse e.2))
  let used := scriptExtensionTable.filter fun e => (e.1.splitOn " ").contains name
  .union (.diff (script name) shared)
    (.unions (used.map fun e => .ranges (CodeRanges.parse e.2)))

/-- The characters that the standard had in a version. -/
def age? (version : String) : Option CharSet :=
  let digits := String.ofList ((version.toList.dropWhile (· = 'v')).filter (· ≠ '.'))
  let key (v : String) := String.ofList (v.toList.filter (· ≠ '.'))
  if ageTable.any fun e => e.1 = version || "v" ++ key e.1 = version then
    let older := ageTable.takeWhile fun e => key e.1 ≠ digits
    let this := ageTable.filter fun e => key e.1 = digits
    some (.unions ((older ++ this).map fun e => .ranges (CodeRanges.parse e.2)))
  else none

/-- The syllables of Hangul without a final consonant. -/
def hangulOpen : CharSet :=
  .ranges ((List.range 399).map fun i => (0xAC00 + 28 * i, 0xAC00 + 28 * i))

/-- The characters of a break class, by the canonical names of property and class. -/
def breakClass : String → CharSet
  | "Grapheme_Cluster_Break/Extend" => .union graphemeExtend (listed "Emoji_Modifier")
  | "Grapheme_Cluster_Break/LV" => hangulOpen
  | "Grapheme_Cluster_Break/LVT" => .diff (.ranges [(0xAC00, 0xD7A3)]) hangulOpen
  | "Grapheme_Cluster_Break/SpacingMark" =>
    .diff
      (.union (.diff (category "Mc") graphemeExtend)
        (tableSet breakTable "Grapheme_Cluster_Break/SpacingMark+"))
      (tableSet breakTable "Grapheme_Cluster_Break/SpacingMark-")
  | "Word_Break/Extend" =>
    .unions [graphemeExtend, category "Mc", listed "Emoji_Modifier"]
  | "Word_Break/Format" =>
    .diff (category "Cf") (.ranges [(0x200B, 0x200D), (0xE0020, 0xE007F)])
  | "Word_Break/Numeric" => .union (category "Nd") (.ranges [(0x66B, 0x66B)])
  | "Word_Break/ALetter" =>
    .union (tableSet breakTable "Word_Break/ALetter+")
      (.diff alphabetic
        (.unions [listed "Ideographic", graphemeExtend, category "Mc",
          tableSet breakTable "Word_Break/Hebrew_Letter",
          tableSet breakTable "Word_Break/Katakana",
          tableSet breakTable "Word_Break/ALetter-"]))
  | "Sentence_Break/Extend" =>
    .unions [graphemeExtend, category "Mc", .ranges [(0x200D, 0x200D)]]
  | "Sentence_Break/Format" =>
    .diff (category "Cf") (.ranges [(0x200C, 0x200D), (0xE0020, 0xE007F)])
  | "Sentence_Break/Lower" =>
    .diff lowercase (.ranges [(0x345, 0x345), (0x10D0, 0x10FA), (0x10FD, 0x10FF)])
  | "Sentence_Break/Upper" =>
    .diff (.union uppercase (category "Lt")) (.ranges [(0x1C90, 0x1CBA), (0x1CBD, 0x1CBF)])
  | "Sentence_Break/Numeric" => .union (category "Nd") (.ranges [(0x66B, 0x66C)])
  | "Sentence_Break/OLetter" =>
    .union (.ranges [(0x5F3, 0x5F3)])
      (.diff alphabetic
        (.unions [.diff lowercase (.ranges [(0x10D0, 0x10FA), (0x10FD, 0x10FF)]),
          .diff uppercase (.ranges [(0x1C90, 0x1CBA), (0x1CBD, 0x1CBF)]),
          category "Lt", graphemeExtend, category "Mc"]))
  | "Sentence_Break/STerm" =>
    .diff (listed "Sentence_Terminal") (.ranges [(0x2E, 0x2E), (0xFE52, 0xFE52), (0xFF0E, 0xFF0E)])
  | "Sentence_Break/Close" =>
    .union (categories ["Ps", "Pe", "Pi", "Pf"]) (tableSet breakTable "Sentence_Break/Close+")
  | name =>
    match (name.splitOn "/").getLast? with
    | some "CR" => .ranges [(0xD, 0xD)]
    | some "LF" => .ranges [(0xA, 0xA)]
    | some "ZWJ" => .ranges [(0x200D, 0x200D)]
    | some "Regional_Indicator" => listed "Regional_Indicator"
    | _ => tableSet breakTable name

/-- The characters of a break class, by the canonical name of the property and any name of the
class. -/
def breakClass? (property value : String) : Option CharSet :=
  let ofProperty := breakNames.filter fun e => (e.1.splitOn "/").head? = some property
  (canonical? ofProperty value).map breakClass

/-- The characters of a category, by any of its names. Surrogates are no characters. -/
def category? (name : String) : Option CharSet :=
  if name = "any" then some .all
  else if name = "assigned" then some (.compl (category "Cn"))
  else if name = "ascii" then some (.ranges [(0, 0x7F)])
  else
    match canonical? categoryNames name with
    | some "Cs" => none
    | some c => some (category c)
    | none => none

/-- The properties that are asked for by a value. -/
def valuedNames : List (String × List String) := [
  ("Age", ["age"]),
  ("General_Category", ["gc", "generalcategory"]),
  ("Grapheme_Cluster_Break", ["gcb", "graphemeclusterbreak"]),
  ("Script", ["sc", "script"]),
  ("Script_Extensions", ["scx", "scriptextensions"]),
  ("Sentence_Break", ["sb", "sentencebreak"]),
  ("Word_Break", ["wb", "wordbreak"])]

/-- The characters that a single name stands for: a property that a character has or has not, a
category, or a script. -/
def named? (name : String) : Option CharSet :=
  let name := normalize name
  let binaryName :=
    if name = "cf" || name = "sc" || name = "lc" then none else canonical? binaryNames name
  match binaryName with
  | some b => some (binary b)
  | none =>
    if name ≠ "sc" && (canonical? valuedNames name).isSome then none
    else (category? name).or ((canonical? scriptNames name).map script)

/-- The characters for which a property has a value. -/
def valued? (property value : String) : Option CharSet := do
  let value := normalize value
  match ← canonical? valuedNames (normalize property) with
  | "General_Category" => category? value
  | "Script" => (canonical? scriptNames value).map script
  | "Script_Extensions" => (canonical? scriptNames value).map scriptExtension
  | "Age" => age? value
  | p => breakClass? p value

def digit : CharSet := category "Nd"

def blank : CharSet := listed "White_Space"

/-- The characters of words: letters, marks, digits, connecting punctuation, joiners. -/
def word : CharSet :=
  .unions [alphabetic, category "M", category "Nd", category "Pc", listed "Join_Control"]

/-- Characters with a number as their meaning. -/
def numeric : CharSet := category "N"

end IngressProxy.Unicode
