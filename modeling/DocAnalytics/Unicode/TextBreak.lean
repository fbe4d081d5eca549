import DocAnalytics.Unicode.BinaryProperty
import DocAnalytics.Unicode.Script

/-!
# DocAnalytics.Unicode.TextBreak

The classes of characters that decide where graphemes, words and sentences end, in the sixteenth
edition. The values are found by name; a name with no characters is no value.
-/

namespace DocAnalytics
namespace Unicode
namespace TextBreak

open BinaryProperty

/-! ## Parts that several classes share -/

def spacingMarks : CharSet := categories .sixteenth ["Mc"]

def extenders : CharSet := (extendingSet .sixteenth).union emojiModifiers

def joiner : CharSet := .ofCodes [0x200D]

def carriageReturn : CharSet := .singleton '\r'

def lineFeed : CharSet := .singleton '\n'

/-- The syllables of Hangul without a final consonant. -/
def openSyllables : CharSet :=
  .ofCodes ((List.range 399).map fun k => 0xAC00 + 28 * k)

def hangulSyllables : CharSet := .ofText ["AC00-D7A3"]

/-- Signs of numbers that count as digits. -/
def numberSigns : CharSet := prependedMarks.diff (.ofCodes [0x70F])

def fullStops : CharSet := .ofText ["2E 2024 FE52 FF0E"]

def katakana : CharSet :=
  ((scriptMembers "kana").union (.ofText ["3031-3035 309B 309C 30A0 30FC FF70"])).diff
    (extenders.union spacingMarks)

def hebrewLetters : CharSet := (scriptMembers "hebr").inter (categories .sixteenth ["Lo"])

/-- Letters of scripts that write words without spaces between them. -/
def unspacedLetters : CharSet :=
  .ofText ["E01-E3A E40-E46 E4D E81-E82 E84 E86-E8A E8C-EA3 EA5 EA7-EB9 EBB-EBD EC0-EC4 EC6 ECD",
    "EDC-EDF 1000-1036 1038 103B-103F 1050-108F 109A-109D 1780-17B3 17B6-17C8 17D7 17DC",
    "1950-196D 1970-1974 1980-19AB 19B0-19C9 1A20-1A5E 1A61-1A74 1AA7 A9E0-A9EF A9FA-A9FE",
    "AA60-AA76 AA7A-AABE AAC0 AAC2 AADB-AADD 11700-1171A 1171D-1172A 11740-11746"]

/-- Signs that count as letters though they are not alphabetic. -/
def letterSigns : CharSet :=
  .ofText ["2C2-2C5 2D2-2D7 2DE 2DF 2E5-2EB 2ED 2EF-2FF 55A 55B 55C 55E 58A 5F3 70F A708-A716",
    "A720 A721 A789 A78A AB5B"]

/-! ## Graphemes -/

def graphemeControls : CharSet :=
  let unassigned := (categories .sixteenth ["Cn"]).inter ignorable
  ((categories .sixteenth ["Zl", "Zp", "Cc", "Cf"]).union unassigned).diff
    (.unionAll [carriageReturn, lineFeed, .ofText ["200C-200D"], prependedMarks, extenders])

def graphemeSpacingMarks : CharSet :=
  (spacingMarks.union (.ofText ["E33 EB3"])).diff (extenders.union
    (.ofText ["102B 102C 1038 1062-1064 1067-106D 1083 1087-108C 108F 109A-109C 1A61 1A63 1A64",
      "AA7B AA7D 11720 11721"]))

/-- The characters of a class of the property `Grapheme_Cluster_Break`. -/
def graphemeMembers? (name : String) : Option CharSet :=
  match name with
  | "cn" | "control" => some graphemeControls
  | "cr" => some carriageReturn
  | "ex" | "extend" => some extenders
  | "l" => some (.ofText ["1100-115F A960-A97C"])
  | "lf" => some lineFeed
  | "lv" => some openSyllables
  | "lvt" => some (hangulSyllables.diff openSyllables)
  | "pp" | "prepend" =>
    some (prependedMarks.union (.ofText [
      "D4E 111C2-111C3 113D1 1193F 11941 11A3A 11A84-11A89 11D46 11F02"]))
  | "ri" | "regionalindicator" => some regionalIndicators
  | "sm" | "spacingmark" => some graphemeSpacingMarks
  | "t" => some (.ofText ["11A8-11FF D7CB-D7FB"])
  | "v" => some (.ofText ["1160-11A7 D7B0-D7C6 16D63 16D67-16D6A"])
  | "zwj" => some joiner
  | _ => none

/-! ## Words -/

def wordExtenders : CharSet := (extenders.union spacingMarks).diff joiner

def wordLetters : CharSet :=
  ((alphabeticSet .sixteenth).union letterSigns).diff
    (.unionAll [.ofText ideographText, katakana, unspacedLetters, scriptMembers "hira",
      scriptMembers "thai", scriptMembers "laoo", wordExtenders, hebrewLetters])

def wordFormats : CharSet :=
  (categories .sixteenth ["Cf"]).diff
    (.unionAll [.ofText ["200B-200D"], prependedMarks, wordExtenders])

def wordNumbers : CharSet :=
  .unionAll [decimalDigits .sixteenth, .ofText ["66B"], numberSigns]

/-- The characters of a class of the property `Word_Break`. -/
def wordMembers? (name : String) : Option CharSet :=
  match name with
  | "cr" => some carriageReturn
  | "dq" | "doublequote" => some (.singleton '"')
  | "ex" | "extendnumlet" => some ((categories .sixteenth ["Pc"]).union (.ofText ["202F"]))
  | "extend" => some wordExtenders
  | "fo" | "format" => some wordFormats
  | "hl" | "hebrewletter" => some hebrewLetters
  | "ka" | "katakana" => some katakana
  | "le" | "aletter" => some wordLetters
  | "lf" => some lineFeed
  | "mb" | "midnumlet" => some (.ofText ["2E 2018-2019 2024 FE52 FF07 FF0E"])
  | "ml" | "midletter" => some (.ofText ["3A B7 387 55F 5F4 2027 FE13 FE55 FF1A"])
  | "mn" | "midnum" =>
    some (.ofText ["2C 3B 37E 589 60C-60D 66C 7F8 2044 FE10 FE14 FE50 FE54 FF0C FF1B"])
  | "nl" | "newline" => some (.ofText ["B-C 85 2028-2029"])
  | "nu" | "numeric" => some wordNumbers
  | "ri" | "regionalindicator" => some regionalIndicators
  | "sq" | "singlequote" => some (.singleton '\'')
  | "wsegspace" => some (.ofText ["20 1680 2000-2006 2008-200A 205F 3000"])
  | "zwj" => some joiner
  | _ => none

/-! ## Sentences -/

def sentenceExtenders : CharSet :=
  .unionAll [extendingSet .sixteenth, spacingMarks, joiner]

def sentenceLower : CharSet :=
  (lowercaseSet .sixteenth).diff
    ((extendingSet .sixteenth).union (.ofText ["10D0-10FA 10FD-10FF"]))

def sentenceUpper : CharSet :=
  ((uppercaseSet .sixteenth).union (categories .sixteenth ["Lt"])).diff
    (.ofText ["1C90-1CBA 1CBD-1CBF"])

def sentenceLetters : CharSet :=
  ((alphabeticSet .sixteenth).union (.ofText ["5F3"])).diff
    (.unionAll [sentenceLower, sentenceUpper, sentenceExtenders])

def sentenceEnds : CharSet := (CharSet.ofText sentenceTerminalText).diff fullStops

def sentenceClosers : CharSet :=
  ((categories .sixteenth ["Ps", "Pe", "Pi", "Pf"]).union
    (.ofText ["22 27 275B-2760 2E00-2E01 2E06-2E08 2E0B 1F676-1F678"])).diff
      (.unionAll [.ofText ["5F3"], fullStops, sentenceEnds])

def sentenceFormats : CharSet :=
  (categories .sixteenth ["Cf"]).diff
    (.unionAll [.ofText ["200C-200D"], sentenceExtenders, numberSigns])

/-- The characters of a class of the property `Sentence_Break`. -/
def sentenceMembers? (name : String) : Option CharSet :=
  match name with
  | "at" | "aterm" => some fullStops
  | "cl" | "close" => some sentenceClosers
  | "cr" => some carriageReturn
  | "ex" | "extend" => some sentenceExtenders
  | "fo" | "format" => some sentenceFormats
  | "le" | "oletter" => some sentenceLetters
  | "lf" => some lineFeed
  | "lo" | "lower" => some sentenceLower
  | "nu" | "numeric" => some (wordNumbers.union (.ofText ["66C"]))
  | "sc" | "scontinue" =>
    some (.ofText ["2C-2D 3A-3B 37E 55D 60C-60D 7F8 1802 1808 2013-2014 3001 FE10-FE11 FE13-FE14",
      "FE31-FE32 FE50-FE51 FE54-FE55 FE58 FE63 FF0C-FF0D FF1A-FF1B FF64"])
  | "se" | "sep" => some (.ofText ["85 2028-2029"])
  | "sp" => some (.ofText ["9 B-C 20 A0 1680 2000-200A 202F 205F 3000"])
  | "st" | "sterm" => some sentenceEnds
  | "up" | "upper" => some sentenceUpper
  | _ => none

end TextBreak
end Unicode
end DocAnalytics
