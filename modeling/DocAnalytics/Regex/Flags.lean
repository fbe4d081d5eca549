import DocAnalytics.Regex.Pattern

/-!
# DocAnalytics.Regex.Flags

The flags under which a part of a pattern is read, and what they change in the characters and sets
that it names. Without Unicode no set reaches beyond ASCII.
-/

namespace DocAnalytics
namespace Regex

open Unicode

/-- What the flags in force say. -/
structure Flags where
  ignoreCase : Bool := false
  multiLine : Bool := false
  dotAll : Bool := false
  /-- Lines end with a line feed, a carriage return or both. -/
  anyLineEnd : Bool := false
  /-- Repetitions are lazy unless they say otherwise. -/
  lazy : Bool := false
  /-- Character classes are those of Unicode, not of ASCII. -/
  unicode : Bool := true
  /-- Blanks and comments in the pattern mean nothing. -/
  verbose : Bool := false
deriving DecidableEq, Repr

namespace Flags

/-- Drops the blanks and comments at the front; `comment` says that a comment has begun. -/
def dropSpace (comment : Bool) : List Char → List Char
  | [] => []
  | c :: cs =>
    if comment then dropSpace (c ≠ '\n') cs
    else if isBlank c then dropSpace false cs
    else if c = '#' then dropSpace true cs
    else c :: cs

/-- Drops what means nothing at the front of a pattern. -/
def skip (f : Flags) (cs : List Char) : List Char := if f.verbose then dropSpace false cs else cs

/-- The set closed under letter case if case is ignored. -/
def caseClosed (f : Flags) (s : CharSet) : CharSet :=
  if f.ignoreCase then (if f.unicode then s.folded else s.asciiFolded) else s

/-- A set, or what is not in it, if the flags allow that. -/
def finishSet (f : Flags) (negated : Bool) (s : CharSet) : Option CharSet :=
  let closed := f.caseClosed s
  let result := if negated then closed.complement else closed
  if !f.unicode && !result.isAscii then none else some result

/-- The set of an escape letter: digits, blanks or word characters, or all others if the letter is a
capital. -/
def letterSet? (f : Flags) (c : Char) : Option CharSet :=
  let choose (all : CharSet) (ascii : String) : Option CharSet :=
    if f.unicode then some all else asciiClass? ascii
  let set? : Option CharSet :=
    match c.toLower with
    | 'd' => choose digitSet "digit"
    | 's' => choose blankSet "space"
    | 'w' => choose wordSet "word"
    | _ => none
  set?.bind fun s =>
    if c.isUpper then (if f.unicode then some s.complement else none) else some s

/-- The characters that a character stands for. -/
def variants (f : Flags) (c : Char) : List Char :=
  if !f.ignoreCase then [c]
  else if f.unicode then foldClass c
  else if c.isAlpha then [c.toLower, c.toUpper]
  else [c]

/-- The pattern of a character; `octet` says that it is written by two hexadecimal digits, which
without Unicode denote a byte. -/
def literal? (f : Flags) (c : Char) (octet : Bool) : Option Pattern :=
  if !f.unicode && octet && 0x80 ≤ c.toNat then none
  else some (.ofSet (.ofChars (f.variants c)))

def dot? (f : Flags) : Option Pattern :=
  if !f.unicode then none
  else if f.dotAll then some (.ofSet .all)
  else if f.anyLineEnd then some (.ofSet (CharSet.ofChars ['\n', '\r']).complement)
  else some (.ofSet (CharSet.singleton '\n').complement)

def caret (f : Flags) : Look :=
  if f.multiLine then (if f.anyLineEnd then .anyLineStart else .lineStart) else .textStart

def dollar (f : Flags) : Look :=
  if f.multiLine then (if f.anyLineEnd then .anyLineEnd else .lineEnd) else .textEnd

/-- Whether a repetition is greedy; `mark` says that a question mark follows it. -/
def greedy (f : Flags) (mark : Bool) : Bool := mark == f.lazy

end Flags
end Regex
end DocAnalytics
