import DocAnalytics.Regex.Pattern
import DocAnalytics.Regex.Utf8

/-!
# DocAnalytics.Regex.Size

The size of a pattern: the bytes that automata for it would take. One automaton reads texts
forwards and keeps what groups match, the other reads them backwards and keeps nothing; each is
measured state by state. `Pattern.isWithinLimit` says that neither is larger than ten mebibytes.
-/

namespace DocAnalytics
namespace Regex

open Unicode

def stateSize : Nat := 32

/-- Bytes of a transition of a state that branches on the next byte. -/
def transitionSize : Nat := 8

/-- Bytes of each way on from a state that branches before the next byte. -/
def choiceSize : Nat := 4

/-- Bytes of a state with two ways on. -/
def forkSize : Nat := stateSize + 2 * choiceSize

/-- The largest size of an automaton. -/
def sizeLimit : Nat := 10485760

structure Measure where
  /-- Whether the text is read backwards. -/
  backwards : Bool
  /-- The size of a set of characters. -/
  setSize : CharSet → Nat

namespace Measure

/-- The size of a set within ASCII, which takes one branching state. -/
def asciiSize (s : CharSet) : Nat := 2 * stateSize + transitionSize * s.ranges.length

def forwardSize (s : CharSet) : Nat :=
  if s.isAscii then asciiSize s
  else
    let (states, transitions) := Utf8.forwards s
    stateSize + stateSize * states + transitionSize * transitions

def backwardSize (s : CharSet) : Nat :=
  if s.isAscii then asciiSize s
  else
    let (states, choices) := Utf8.backwards s
    2 * stateSize + stateSize * states + choiceSize * choices

/-- A size that no set exceeds, from its number of ranges alone: a range has at most twelve
sequences of bytes. -/
def roughSize (s : CharSet) : Nat := 2048 * (s.ranges.length + 1)

def forward : Measure := ⟨false, forwardSize⟩

def backward : Measure := ⟨true, backwardSize⟩

/-- At least as large as both others, and quick to find. -/
def rough : Measure := ⟨false, roughSize⟩

end Measure

/-! ## Literals that are alternatives -/

def literalBytes (cs : List Char) : List UInt8 := cs.flatMap String.utf8EncodeChar

/-- The words that begin with each byte, without it, in order of first appearance. -/
def groupByFirst : List (List UInt8) → List (UInt8 × List (List UInt8))
  | [] => []
  | [] :: words => groupByFirst words
  | (b :: rest) :: words =>
    let groups := groupByFirst words
    match groups.lookup b with
    | some _ => groups.map fun g => if g.1 == b then (b, rest :: g.2) else g
    | none => (b, [rest]) :: groups

/-- The words before each empty word, and those behind the last. -/
def chunks : List (List UInt8) → List (List (List UInt8))
  | [] => [[]]
  | [] :: words => [] :: chunks words
  | word :: words =>
    match chunks words with
    | [] => [[word]]
    | chunk :: rest => (word :: chunk) :: rest

/-- Drops all but the first of the empty words in front, which add nothing. -/
def dropRepeatedEnds : List (List UInt8) → List (List UInt8)
  | [] :: [] :: words => dropRepeatedEnds ([] :: words)
  | words => words

/-- The size of the states that read some words, which share what they begin with; the order of
words that end is kept. `fuel` bounds the length of the words. -/
def wordsSize : Nat → List (List UInt8) → Nat
  | 0, _ => 0
  | fuel + 1, words =>
    if words.all List.isEmpty then 0
    else
      let parts := (chunks (dropRepeatedEnds words)).map groupByFirst
      let filled := parts.filter fun p => !p.isEmpty
      let branching := filled.map fun p =>
        if p.length = 1 then stateSize else stateSize + transitionSize * p.length
      let below := filled.map fun p => total (p.map fun g => wordsSize fuel g.2)
      stateSize + choiceSize * (filled.length + (parts.length - 1)) + total branching + total below

def alternativesSize (backwards : Bool) (literals : List (List Char)) : Nat :=
  let words := literals.map literalBytes
  let words := if backwards then words.map List.reverse else words
  stateSize + wordsSize ((words.map List.length).foldl max 0 + 1) words

/-! ## Patterns -/

namespace Pattern

def literal? : Pattern → Option (List Char)
  | .literal cs => some cs
  | _ => none

def timesSize (part min : Nat) (max : Option Nat) (canBeEmpty : Bool) : Nat :=
  match max with
  | none =>
    if min = 0 then
      if canBeEmpty then part + 2 * forkSize + stateSize else part + forkSize
    else min * part + forkSize
  | some max =>
    if min = 0 ∧ max = 1 then part + forkSize + stateSize
    else if min = max then min * part
    else
      let required := if min = 0 then stateSize else min * part
      required + stateSize + (max - min) * (forkSize + part)

mutual

def size (m : Measure) : Pattern → Nat
  | .empty => stateSize
  | .literal cs => stateSize * (literalBytes cs).length
  | .set s => m.setSize s
  | .look _ => stateSize
  | .times p min max _ =>
    let canBeEmpty := !(p.minLength?.any fun n => 0 < n)
    timesSize (p.size m) min max canBeEmpty
  | .group p => if m.backwards then p.size m else 2 * stateSize + p.size m
  | .concat ps => totalSize m ps
  | .alternation ps =>
    match ps.mapM literal? with
    | some literals => alternativesSize m.backwards literals
    | none => 2 * stateSize + choiceSize * ps.length + totalSize m ps

def totalSize (m : Measure) : List Pattern → Nat
  | [] => 0
  | p :: ps => p.size m + totalSize m ps

end

mutual

/-- Whether a pattern begins with the start of the text, whatever it matches. -/
def beginsAtStart : Pattern → Bool
  | .look l => l == .textStart
  | .times p min _ _ => 0 < min && p.beginsAtStart
  | .group p => p.beginsAtStart
  | .concat ps => someBeginsAtStart ps
  | .alternation ps => allBeginAtStart ps
  | _ => false

/-- Whether one of the parts of a sequence that nothing but parts without width precede does. -/
def someBeginsAtStart : List Pattern → Bool
  | [] => false
  | p :: ps => p.beginsAtStart || (p.isZeroWidth && someBeginsAtStart ps)

def allBeginAtStart : List Pattern → Bool
  | [] => true
  | p :: ps => p.beginsAtStart && allBeginAtStart ps

end

mutual

/-- Whether a pattern ends with the end of the text, whatever it matches. -/
def endsAtEnd : Pattern → Bool
  | .look l => l == .textEnd
  | .times p min _ _ => 0 < min && p.endsAtEnd
  | .group p => p.endsAtEnd
  | .concat ps => someEndsAtEnd ps
  | .alternation ps => allEndAtEnd ps
  | _ => false

/-- Whether one of the parts of a sequence that nothing but parts without width follow does. -/
def someEndsAtEnd : List Pattern → Bool
  | [] => false
  | p :: ps => someEndsAtEnd ps || (allZeroWidth ps && p.endsAtEnd)

def allEndAtEnd : List Pattern → Bool
  | [] => true
  | p :: ps => p.endsAtEnd && allEndAtEnd ps

end

/-- The size of the states before a pattern: one, or a loop over the bytes that precede a match. -/
def entrySize (anchored : Bool) : Nat :=
  if anchored then stateSize else forkSize + 2 * stateSize + transitionSize

/-- The size of the automaton that reads forwards, with the two states that keep the whole match and
the one that reports it. -/
def forwardSize (p : Pattern) : Nat :=
  entrySize p.beginsAtStart + 3 * stateSize + p.size .forward

def backwardSize (p : Pattern) : Nat :=
  entrySize p.endsAtEnd + stateSize + p.size .backward

/-- A size that neither automaton exceeds. -/
def roughSize (p : Pattern) : Nat := entrySize false + 3 * stateSize + p.size .rough

/-- Whether both automata are within the limit. -/
def isWithinLimit (p : Pattern) : Bool :=
  p.roughSize ≤ sizeLimit || (p.forwardSize ≤ sizeLimit && p.backwardSize ≤ sizeLimit)

end Pattern
end Regex
end DocAnalytics
