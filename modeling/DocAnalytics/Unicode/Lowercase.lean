import DocAnalytics.Unicode.Category
import DocAnalytics.Unicode.LowercaseTable

/-!
# DocAnalytics.Unicode.Lowercase

Full Unicode lower-casing. One character maps to more than one (`İ` becomes `i` and a combining
dot), and one depends on its surroundings: a capital sigma that ends a word becomes `ς`, any other
`σ`.
-/

namespace DocAnalytics
namespace Unicode

/-- Whether a character is cased: in lower case, in upper case or in title case. -/
def isCased (c : Char) : Bool := cased.contains c
where
  cased : CharSet := casedSet .seventeenth

/-- Whether a character is left aside where cased characters are looked for. -/
def isCaseIgnorable (c : Char) : Bool := ignorable.contains c
where
  ignorable : CharSet := caseIgnorableSet .seventeenth

/-- The lower case of a single character, its surroundings left aside. -/
def lowercaseChar (c : Char) : List Char :=
  if c.toNat < 0x80 then [c.toLower]
  else if c = 'İ' then ['i', Char.ofNat 0x307]
  else [Char.ofNat (CaseRun.mapAll lowercaseRuns c.toNat)]

/-- Whether the first character that is not case-ignorable is cased. -/
def leadsCased (cs : List Char) : Bool :=
  match cs.dropWhile isCaseIgnorable with
  | [] => false
  | c :: _ => isCased c

/-- Lower-casing of the text that follows `before`, which is held in reverse. A capital sigma is
final when a cased character comes before it and none after it. -/
def lowercaseFrom : List Char → List Char → List Char
  | _, [] => []
  | before, c :: cs =>
    let image :=
      if c = 'Σ' then [if leadsCased before && !leadsCased cs then 'ς' else 'σ']
      else lowercaseChar c
    image ++ lowercaseFrom (c :: before) cs

def lowercase (s : String) : String := String.ofList (lowercaseFrom [] s.toList)

end Unicode
end DocAnalytics
