import DocAnalytics.Unicode.Blank

/-!
# DocAnalytics.Text.Trim

Blank characters at the ends of a text and between its words. The functions work on lists of
characters; `trim` is the one on texts.
-/

namespace DocAnalytics
namespace Text

open Unicode

def trimStart (cs : List Char) : List Char := cs.dropWhile isBlank

def trimEnd (cs : List Char) : List Char := (cs.reverse.dropWhile isBlank).reverse

def trimChars (cs : List Char) : List Char := trimEnd (trimStart cs)

def trim (s : String) : String := String.ofList (trimChars s.toList)

/-- The first word: the characters between the leading blanks and the next blank. -/
def firstWord? (cs : List Char) : Option (List Char) :=
  match (trimStart cs).takeWhile (fun c => !isBlank c) with
  | [] => none
  | word => some word

def dropBlanks (cs : List Char) : List Char := cs.filter (fun c => !isBlank c)

/-- Reads a text that stands for nothing when it is blank: otherwise its trimmed form. -/
def nonBlank? (s : String) : Option String :=
  match trimChars s.toList with
  | [] => none
  | cs => some (String.ofList cs)

end Text
end DocAnalytics
