import DocAnalytics.Unicode.TextBreak

/-!
# DocAnalytics.Regex.Property

The sets of characters that patterns name: the classes of ASCII, and the Unicode properties, by
their short and long names.
-/

namespace DocAnalytics
namespace Regex

open Unicode

/-- The classes of ASCII characters that a pattern can name, such as `alpha`. -/
def asciiClasses : List (String × List (Nat × Nat)) := [
  ("alnum", [(48, 57), (65, 90), (97, 122)]),
  ("alpha", [(65, 90), (97, 122)]),
  ("ascii", [(0, 127)]),
  ("blank", [(9, 9), (32, 32)]),
  ("cntrl", [(0, 31), (127, 127)]),
  ("digit", [(48, 57)]),
  ("graph", [(33, 126)]),
  ("lower", [(97, 122)]),
  ("print", [(32, 126)]),
  ("punct", [(33, 47), (58, 64), (91, 96), (123, 126)]),
  ("space", [(9, 13), (32, 32)]),
  ("upper", [(65, 90)]),
  ("word", [(48, 57), (65, 90), (95, 95), (97, 122)]),
  ("xdigit", [(48, 57), (65, 70), (97, 102)])]

def asciiClass? (name : String) : Option CharSet := (asciiClasses.lookup name).map .ofAscending

def digitSet : CharSet := decimalDigits .sixteenth

def blankSet : CharSet := BinaryProperty.members .whiteSpace

/-- The characters that make up words: alphabetic characters, marks, decimal digits, connectors and
the two join controls. -/
def wordSet : CharSet :=
  .unionAll [alphabeticSet .sixteenth, categories .sixteenth ["M", "Nd", "Pc"],
    BinaryProperty.members .joinControl]

/-- Names of general categories, without capitals and separators, and the categories that begin with
the letters given. -/
def categoryNames : List (String × String × List String) := [
  ("l", "letter", ["L"]), ("lc", "casedletter", ["Lu", "Ll", "Lt"]),
  ("lu", "uppercaseletter", ["Lu"]), ("ll", "lowercaseletter", ["Ll"]),
  ("lt", "titlecaseletter", ["Lt"]), ("lm", "modifierletter", ["Lm"]),
  ("lo", "otherletter", ["Lo"]), ("m", "mark", ["M"]), ("m", "combiningmark", ["M"]),
  ("mn", "nonspacingmark", ["Mn"]), ("mc", "spacingmark", ["Mc"]),
  ("me", "enclosingmark", ["Me"]), ("n", "number", ["N"]), ("nd", "decimalnumber", ["Nd"]),
  ("nd", "digit", ["Nd"]), ("nl", "letternumber", ["Nl"]), ("no", "othernumber", ["No"]),
  ("p", "punctuation", ["P"]), ("p", "punct", ["P"]), ("pc", "connectorpunctuation", ["Pc"]),
  ("pd", "dashpunctuation", ["Pd"]), ("ps", "openpunctuation", ["Ps"]),
  ("pe", "closepunctuation", ["Pe"]), ("pi", "initialpunctuation", ["Pi"]),
  ("pf", "finalpunctuation", ["Pf"]), ("po", "otherpunctuation", ["Po"]),
  ("s", "symbol", ["S"]), ("sm", "mathsymbol", ["Sm"]), ("sc", "currencysymbol", ["Sc"]),
  ("sk", "modifiersymbol", ["Sk"]), ("so", "othersymbol", ["So"]), ("z", "separator", ["Z"]),
  ("zs", "spaceseparator", ["Zs"]), ("zl", "lineseparator", ["Zl"]),
  ("zp", "paragraphseparator", ["Zp"]), ("c", "other", ["C"]), ("cc", "control", ["Cc"]),
  ("cc", "cntrl", ["Cc"]), ("cf", "format", ["Cf"]), ("co", "privateuse", ["Co"]),
  ("cn", "unassigned", ["Cn"])]

/-- The characters of a general category, or of one of the three classes that are named beside
them. -/
def categoryNamed? (name : String) : Option CharSet :=
  match name with
  | "any" => some .all
  | "ascii" => some (.range '\x00' '\x7f')
  | "assigned" => some (categories .sixteenth ["Cn"]).complement
  | _ =>
    (categoryNames.find? fun n => n.1 == name || n.2.1 == name).map fun n =>
      categories .sixteenth n.2.2

/-- A name without its leading `is`, capitals, blanks, underscores, hyphens and whatever is not
ASCII. The `is` is kept where it is part of a name of three letters. -/
def normalizeName (name : List Char) : String :=
  let plain (cs : List Char) : List Char :=
    (cs.filter fun c => c.toNat < 0x80 && c != ' ' && c != '_' && c != '-').map Char.toLower
  match name with
  | first :: second :: rest =>
    if first.toLower = 'i' ∧ second.toLower = 's' then
      if plain rest = ['c'] then "isc" else String.ofList (plain rest)
    else String.ofList (plain name)
  | _ => String.ofList (plain name)

/-- The characters of a property named alone: one that characters have or have not, a general
category, or a script. -/
def propertyNamed? (name : List Char) : Option CharSet :=
  let name := normalizeName name
  match BinaryProperty.ofName? name with
  | some p => some p.members
  | none =>
    match categoryNamed? name with
    | some s => some s
    | none => (scriptCode? name).map scriptMembers

/-- The characters for which a property has a value. -/
def propertyValued? (name value : List Char) : Option CharSet :=
  let value := normalizeName value
  match normalizeName name with
  | "gc" | "generalcategory" => categoryNamed? value
  | "sc" | "script" => (scriptCode? value).map scriptMembers
  | "scx" | "scriptextensions" => (scriptCode? value).map scriptUsers
  | "age" => ageMembers? value
  | "gcb" | "graphemeclusterbreak" => TextBreak.graphemeMembers? value
  | "wb" | "wordbreak" => TextBreak.wordMembers? value
  | "sb" | "sentencebreak" => TextBreak.sentenceMembers? value
  | _ => none

end Regex
end DocAnalytics
