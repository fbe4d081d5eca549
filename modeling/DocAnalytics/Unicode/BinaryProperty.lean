import DocAnalytics.Unicode.Blank
import DocAnalytics.Unicode.Category
import DocAnalytics.Unicode.Folding
import DocAnalytics.Unicode.LowercaseTable

/-!
# DocAnalytics.Unicode.BinaryProperty

The properties that a character has or has not, in the sixteenth edition, with their names. Many
follow from general categories and a few characters more; the others are tables.
-/

namespace DocAnalytics
namespace Unicode

/-- A property that a character has or has not. -/
inductive BinaryProperty where
  | asciiHexDigit
  | alphabetic
  | bidiControl
  | bidiMirrored
  | caseIgnorable
  | cased
  | changesWhenCasefolded
  | changesWhenCasemapped
  | changesWhenLowercased
  | changesWhenTitlecased
  | changesWhenUppercased
  | dash
  | defaultIgnorable
  | deprecated
  | diacritic
  | emoji
  | emojiComponent
  | emojiModifier
  | emojiModifierBase
  | emojiPresentation
  | extendedPictographic
  | extender
  | graphemeBase
  | graphemeExtend
  | graphemeLink
  | hexDigit
  | hyphen
  | idCompatMathContinue
  | idCompatMathStart
  | idContinue
  | idStart
  | ideographic
  | idsBinaryOperator
  | idsTrinaryOperator
  | idsUnaryOperator
  | joinControl
  | logicalOrderException
  | lowercase
  | math
  | modifierCombiningMark
  | noncharacter
  | otherAlphabetic
  | otherDefaultIgnorable
  | otherGraphemeExtend
  | otherIdContinue
  | otherIdStart
  | otherLowercase
  | otherMath
  | otherUppercase
  | patternSyntax
  | patternWhiteSpace
  | prependedConcatenationMark
  | quotationMark
  | radical
  | regionalIndicator
  | sentenceTerminal
  | softDotted
  | terminalPunctuation
  | unifiedIdeograph
  | uppercase
  | variationSelector
  | whiteSpace
  | xidContinue
  | xidStart
deriving DecidableEq, Repr

namespace BinaryProperty

/-! ## Parts that several properties share -/

def blankSet : CharSet :=
  .ofText ["9-D 20 85 A0 1680 2000-200A 2028-2029 202F 205F 3000"]

/-- Characters that lower-casing changes. -/
def lowercasing : CharSet :=
  Edition.sixteenth.restrict (.ofCodes (asciiPairs.map Prod.fst ++
    (0x130 :: (lowercaseRuns.flatMap CaseRun.pairs).map Prod.fst)))

/-- Characters that upper-casing changes. -/
def uppercasing : CharSet := .ofText uppercasingText

/-- Characters that title-casing changes: as upper-casing does, except for letters that are in title
case already, and for Georgian. -/
def titlecasing : CharSet :=
  (uppercasing.diff (.ofText ["1C5 1C8 1CB 1F2 10D0-10FA 10FD-10FF 1F88-1F8F 1F98-1F9F 1FA8-1FAF",
    "1FBC 1FCC 1FFC"])).union (.ofText ["1C4 1C7 1CA 1F1"])

/-- Characters whose decomposition case folding changes. -/
def casefolding : CharSet :=
  ((CharSet.ofCodes (foldingPairs.map Prod.fst)).diff (.ofText ["1FBE 1FD3 1FE3"])).union
    (.ofText fullFoldingText)

/-- Characters that are left out where they are not supported. -/
def ignorable : CharSet :=
  .ofText ["AD 34F 61C 115F-1160 17B4-17B5 180B-180F 200B-200F 202A-202E 2060-206F 3164 FE00-FE0F",
    "FEFF FFA0 FFF0-FFF8 1BCA0-1BCA3 1D173-1D17A E0000-E0FFF"]

def emojiModifiers : CharSet := .ofText ["1F3FB-1F3FF"]

def regionalIndicators : CharSet := .ofText ["1F1E6-1F1FF"]

/-- Signs that stand before the number that they enclose. -/
def prependedMarks : CharSet := .ofText ["600-605 6DD 70F 890-891 8E2 110BD 110CD"]

def patternSpaces : CharSet := .ofText ["9-D 20 85 200E-200F 2028-2029"]

/-- Mathematical signs that may begin an identifier. -/
def compatMathStart : CharSet :=
  .ofText ["2202 2207 221E 1D6C1 1D6DB 1D6FB 1D715 1D735 1D74F 1D76F 1D789 1D7A9 1D7C3"]

def otherIdentifierStarts : CharSet := .ofText ["1885-1886 2118 212E 309B-309C"]

def otherIdentifierParts : CharSet := .ofText ["B7 387 1369-1371 19DA 200C-200D 30FB FF65"]

/-- Characters set apart for patterns. -/
def patternCharacters : CharSet := (CharSet.ofText patternSyntaxText).union patternSpaces

/-- Characters that may begin an identifier. -/
def identifierStarts : CharSet :=
  ((categories .sixteenth ["L", "Nl"]).union otherIdentifierStarts).diff patternCharacters

/-- Characters that may stand in an identifier. -/
def identifierParts : CharSet :=
  (CharSet.unionAll [identifierStarts, categories .sixteenth ["Mn", "Mc", "Nd", "Pc"],
    otherIdentifierParts]).diff patternCharacters

/-- Characters that may begin an identifier, but not all their compatibility forms may. -/
def unstableStarts : CharSet :=
  .ofText ["37A E33 EB3 309B-309C FC5E-FC63 FDFA-FDFB FE70 FE72 FE74 FE76 FE78 FE7A FE7C FE7E",
    "FF9E-FF9F"]

/-- Those of `unstableStarts` whose compatibility forms may at least stand in an identifier. -/
def unstableOnlyAtStart : CharSet := .ofText ["E33 EB3 FF9E-FF9F"]

/-- The last two code points of every plane, and a block of thirty-two. -/
def noncharacters : CharSet :=
  .ofRanges ((0xFDD0, 0xFDEF) ::
    (List.range 17).map fun plane => (plane * 0x10000 + 0xFFFE, plane * 0x10000 + 0xFFFF))

def members : BinaryProperty → CharSet
  | .asciiHexDigit => .ofText ["30-39 41-46 61-66"]
  | .alphabetic => alphabeticSet .sixteenth
  | .bidiControl => .ofText ["61C 200E-200F 202A-202E 2066-2069"]
  | .bidiMirrored => .ofText bidiMirroredText
  | .caseIgnorable => caseIgnorableSet .sixteenth
  | .cased => casedSet .sixteenth
  | .changesWhenCasefolded => casefolding
  | .changesWhenCasemapped => .unionAll [lowercasing, uppercasing, titlecasing]
  | .changesWhenLowercased => lowercasing
  | .changesWhenTitlecased => titlecasing
  | .changesWhenUppercased => uppercasing
  | .dash => (categories .sixteenth ["Pd"]).union (.ofText ["2053 207B 208B 2212"])
  | .defaultIgnorable => ignorable
  | .deprecated => .ofText deprecatedText
  | .diacritic => .ofText diacriticText
  | .emoji => .ofText emojiText
  | .emojiComponent => .ofText emojiComponentText
  | .emojiModifier => emojiModifiers
  | .emojiModifierBase => .ofText emojiModifierBaseText
  | .emojiPresentation => .ofText emojiPresentationText
  | .extendedPictographic => .ofText pictographicText
  | .extender => .ofText extenderText
  | .graphemeBase =>
    (categories .sixteenth ["C", "Zl", "Zp"]).complement.diff (extendingSet .sixteenth)
  | .graphemeExtend => extendingSet .sixteenth
  | .graphemeLink => .ofText viramaText
  | .hexDigit => .ofText ["30-39 41-46 61-66 FF10-FF19 FF21-FF26 FF41-FF46"]
  | .hyphen => .ofText ["2D AD 58A 1806 2010-2011 2E17 30FB FE63 FF0D FF65"]
  | .idCompatMathContinue => compatMathStart.union (.ofText ["B2-B3 B9 2070 2074-207E 2080-208E"])
  | .idCompatMathStart => compatMathStart
  | .idContinue => identifierParts
  | .idStart => identifierStarts
  | .ideographic => .ofText ideographText
  | .idsBinaryOperator => .ofText ["2FF0-2FF1 2FF4-2FFD 31EF"]
  | .idsTrinaryOperator => .ofText ["2FF2-2FF3"]
  | .idsUnaryOperator => .ofText ["2FFE-2FFF"]
  | .joinControl => .ofText ["200C-200D"]
  | .logicalOrderException => .ofText ["E40-E44 EC0-EC4 19B5-19B7 19BA AAB5-AAB6 AAB9 AABB-AABC"]
  | .lowercase => lowercaseSet .sixteenth
  | .math => (categories .sixteenth ["Sm"]).union (.ofText otherMathText)
  | .modifierCombiningMark => .ofText ["654-655 658 6DC 6E3 6E7-6E8 8CA-8CB 8CD-8CF 8D3 8F3"]
  | .noncharacter => noncharacters
  | .otherAlphabetic => Edition.sixteenth.restrict (.ofText otherAlphabeticText)
  | .otherDefaultIgnorable =>
    .ofText ["34F 115F-1160 17B4-17B5 2065 3164 FFA0 FFF0-FFF8",
    "E0000 E0002-E001F E0080-E00FF E01F0-E0FFF"]
  | .otherGraphemeExtend => .ofText otherExtendingText
  | .otherIdContinue => otherIdentifierParts
  | .otherIdStart => otherIdentifierStarts
  | .otherLowercase => Edition.sixteenth.restrict (.ofText otherLowercaseText)
  | .otherMath => .ofText otherMathText
  | .otherUppercase => .ofText otherUppercaseText
  | .patternSyntax => .ofText patternSyntaxText
  | .patternWhiteSpace => patternSpaces
  | .prependedConcatenationMark => prependedMarks
  | .quotationMark => .ofText quotationMarkText
  | .radical => .ofText ["2E80-2E99 2E9B-2EF3 2F00-2FD5"]
  | .regionalIndicator => regionalIndicators
  | .sentenceTerminal => .ofText sentenceTerminalText
  | .softDotted => .ofText softDottedText
  | .terminalPunctuation => .ofText terminalPunctuationText
  | .unifiedIdeograph => .ofText unifiedIdeographText
  | .uppercase => uppercaseSet .sixteenth
  | .variationSelector => .ofText ["180B-180D 180F FE00-FE0F E0100-E01EF"]
  | .whiteSpace => blankSet
  | .xidContinue => identifierParts.diff (unstableStarts.diff unstableOnlyAtStart)
  | .xidStart => identifierStarts.diff unstableStarts

/-- The short and the long name of each property, without capitals and separators. -/
def names : List (String × String × BinaryProperty) := [
  ("ahex", "asciihexdigit", .asciiHexDigit),
  ("alpha", "alphabetic", .alphabetic),
  ("bidic", "bidicontrol", .bidiControl),
  ("bidim", "bidimirrored", .bidiMirrored),
  ("ci", "caseignorable", .caseIgnorable),
  ("cased", "cased", .cased),
  ("cwcf", "changeswhencasefolded", .changesWhenCasefolded),
  ("cwcm", "changeswhencasemapped", .changesWhenCasemapped),
  ("cwl", "changeswhenlowercased", .changesWhenLowercased),
  ("cwt", "changeswhentitlecased", .changesWhenTitlecased),
  ("cwu", "changeswhenuppercased", .changesWhenUppercased),
  ("dash", "dash", .dash),
  ("di", "defaultignorablecodepoint", .defaultIgnorable),
  ("dep", "deprecated", .deprecated),
  ("dia", "diacritic", .diacritic),
  ("emoji", "emoji", .emoji),
  ("ecomp", "emojicomponent", .emojiComponent),
  ("emod", "emojimodifier", .emojiModifier),
  ("ebase", "emojimodifierbase", .emojiModifierBase),
  ("epres", "emojipresentation", .emojiPresentation),
  ("extpict", "extendedpictographic", .extendedPictographic),
  ("ext", "extender", .extender),
  ("grbase", "graphemebase", .graphemeBase),
  ("grext", "graphemeextend", .graphemeExtend),
  ("grlink", "graphemelink", .graphemeLink),
  ("hex", "hexdigit", .hexDigit),
  ("hyphen", "hyphen", .hyphen),
  ("idcompatmathcontinue", "idcompatmathcontinue", .idCompatMathContinue),
  ("idcompatmathstart", "idcompatmathstart", .idCompatMathStart),
  ("idc", "idcontinue", .idContinue),
  ("ids", "idstart", .idStart),
  ("ideo", "ideographic", .ideographic),
  ("idsb", "idsbinaryoperator", .idsBinaryOperator),
  ("idst", "idstrinaryoperator", .idsTrinaryOperator),
  ("idsu", "idsunaryoperator", .idsUnaryOperator),
  ("joinc", "joincontrol", .joinControl),
  ("loe", "logicalorderexception", .logicalOrderException),
  ("lower", "lowercase", .lowercase),
  ("math", "math", .math),
  ("mcm", "modifiercombiningmark", .modifierCombiningMark),
  ("nchar", "noncharactercodepoint", .noncharacter),
  ("oalpha", "otheralphabetic", .otherAlphabetic),
  ("odi", "otherdefaultignorablecodepoint", .otherDefaultIgnorable),
  ("ogrext", "othergraphemeextend", .otherGraphemeExtend),
  ("oidc", "otheridcontinue", .otherIdContinue),
  ("oids", "otheridstart", .otherIdStart),
  ("olower", "otherlowercase", .otherLowercase),
  ("omath", "othermath", .otherMath),
  ("oupper", "otheruppercase", .otherUppercase),
  ("patsyn", "patternsyntax", .patternSyntax),
  ("patws", "patternwhitespace", .patternWhiteSpace),
  ("pcm", "prependedconcatenationmark", .prependedConcatenationMark),
  ("qmark", "quotationmark", .quotationMark),
  ("radical", "radical", .radical),
  ("ri", "regionalindicator", .regionalIndicator),
  ("sterm", "sentenceterminal", .sentenceTerminal),
  ("sd", "softdotted", .softDotted),
  ("term", "terminalpunctuation", .terminalPunctuation),
  ("uideo", "unifiedideograph", .unifiedIdeograph),
  ("upper", "uppercase", .uppercase),
  ("vs", "variationselector", .variationSelector),
  ("wspace", "whitespace", .whiteSpace),
  ("xidc", "xidcontinue", .xidContinue),
  ("xids", "xidstart", .xidStart)]

def ofName? (name : String) : Option BinaryProperty :=
  if name == "space" then some .whiteSpace
  else (names.find? fun n => n.1 == name || n.2.1 == name).map fun n => n.2.2

end BinaryProperty
end Unicode
end DocAnalytics
