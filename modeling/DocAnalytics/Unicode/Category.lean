import DocAnalytics.Unicode.BinaryTable
import DocAnalytics.Unicode.CategoryTable
import DocAnalytics.Unicode.Edition

/-!
# DocAnalytics.Unicode.Category

General categories of characters, and the classes of letters, numbers and marks that are built from
them.
-/

namespace DocAnalytics
namespace Unicode

def categoryRuns : List Run := readRuns 2 categoryText

/-- The one character whose category differs between the editions: U+0295, a lower-case letter in
the sixteenth and a letter without case in the seventeenth. -/
def glottalLetter : CharSet := .ofCodes [0x295]

/-- The characters whose general category, two letters, is accepted. Surrogates are no
characters. -/
def categoryMembers (e : Edition) (accept : List Char → Bool) : CharSet :=
  let present := Run.members (fun tag => tag != ['C', 's'] && accept tag) categoryRuns
  match e with
  | .seventeenth => present
  | .sixteenth =>
    let known := present.diff (newest.union glottalLetter)
    let unassigned := if accept ['C', 'n'] then newest else .empty
    let glottal := if accept ['L', 'l'] then glottalLetter else .empty
    (known.union unassigned).union glottal

/-- The characters of some general categories; a single letter stands for all that begin with
it. -/
def categories (e : Edition) (names : List String) : CharSet :=
  categoryMembers e fun tag => names.any fun name => name.toList.isPrefixOf tag

def decimalDigits (e : Edition) : CharSet := categories e ["Nd"]

def lowercaseSet (e : Edition) : CharSet :=
  (categories e ["Ll"]).union (e.restrict (.ofText otherLowercaseText))

def uppercaseSet (e : Edition) : CharSet :=
  (categories e ["Lu"]).union (e.restrict (.ofText otherUppercaseText))

def casedSet (e : Edition) : CharSet :=
  ((lowercaseSet e).union (uppercaseSet e)).union (categories e ["Lt"])

def alphabeticSet (e : Edition) : CharSet :=
  .unionAll [categories e ["L", "Nl"], e.restrict (.ofText otherAlphabeticText),
    lowercaseSet e, uppercaseSet e]

/-- Marks that join the parts of a word, such as apostrophes, colons and full stops. -/
def wordJoiners : CharSet := .ofText ["27 2E 3A B7 387 55F 5F4 2018-2019 2024 2027 FE13 FE52 FE55",
  "FF07 FF0E FF1A"]

def caseIgnorableSet (e : Edition) : CharSet :=
  (categories e ["Mn", "Me", "Cf", "Lm", "Sk"]).union wordJoiners

def extendingSet (e : Edition) : CharSet :=
  (categories e ["Mn", "Me"]).union (e.restrict (.ofText otherExtendingText))

def isAlphabetic (c : Char) : Bool := alphabetic.contains c
where
  alphabetic : CharSet := alphabeticSet .seventeenth

/-- Whether a character is a number: a decimal digit, a letter number or another number, in the
seventeenth edition. -/
def isNumeric (c : Char) : Bool := numbers.contains c
where
  numbers : CharSet := categories .seventeenth ["N"]

end Unicode
end DocAnalytics
