import DocAnalytics.Regex.Look

/-!
# DocAnalytics.Regex.Pattern

Patterns in simplified form. Each way of building a pattern has a function that simplifies what it
builds: neighbouring characters join into one literal, alternatives that are single characters join
into one set, a beginning that all alternatives share stands before them, and a repetition of what
has no length is at most one. The form matters because the size of a pattern is limited.
-/

namespace DocAnalytics
namespace Regex

open Unicode

inductive Pattern where
  | empty
  /-- Some characters, one after the other; not none. -/
  | literal (cs : List Char)
  /-- One character of a set. -/
  | set (s : CharSet)
  | look (l : Look)
  /-- At least `min` times, and at most `max` times if there is a `max`. -/
  | times (p : Pattern) (min : Nat) (max : Option Nat) (greedy : Bool)
  /-- A pattern whose match is captured. -/
  | group (p : Pattern)
  | concat (ps : List Pattern)
  | alternation (ps : List Pattern)
deriving Repr

namespace Pattern

def fail : Pattern := .set .empty

mutual

/-- Whether two patterns are written alike. No group is like another. -/
def alike : Pattern → Pattern → Bool
  | .empty, .empty => true
  | .literal a, .literal b => a == b
  | .set a, .set b => a == b
  | .look a, .look b => a == b
  | .times p min max greedy, .times q min' max' greedy' =>
    min == min' && max == max' && greedy == greedy' && p.alike q
  | .concat ps, .concat qs => allAlike ps qs
  | .alternation ps, .alternation qs => allAlike ps qs
  | _, _ => false

def allAlike : List Pattern → List Pattern → Bool
  | [], [] => true
  | p :: ps, q :: qs => p.alike q && allAlike ps qs
  | _, _ => false

end

mutual

/-- Whether every match of a pattern is known to have no characters. -/
def isZeroWidth : Pattern → Bool
  | .empty => true
  | .literal _ => false
  | .set _ => false
  | .look _ => true
  | .times p _ _ _ => p.isZeroWidth
  | .group p => p.isZeroWidth
  | .concat ps => allZeroWidth ps
  | .alternation ps => allZeroWidth ps

def allZeroWidth : List Pattern → Bool
  | [] => true
  | p :: ps => p.isZeroWidth && allZeroWidth ps

end

mutual

/-- The least number of characters of a match, unless a part of the pattern cannot match. -/
def minLength? : Pattern → Option Nat
  | .empty => some 0
  | .literal cs => some cs.length
  | .set s => if s.isEmpty then none else some 1
  | .look _ => some 0
  | .times p min _ _ => p.minLength?.map (· * min)
  | .group p => p.minLength?
  | .concat ps => sumLength? ps
  | .alternation [] => none
  | .alternation (p :: ps) => leastLength? p.minLength? ps

def sumLength? : List Pattern → Option Nat
  | [] => some 0
  | p :: ps =>
    match p.minLength?, sumLength? ps with
    | some a, some b => some (a + b)
    | _, _ => none

/-- The smallest of a length and the least lengths of a list. -/
def leastLength? (least : Option Nat) : List Pattern → Option Nat
  | [] => least
  | p :: ps =>
    match least, p.minLength? with
    | some a, some b => leastLength? (some (min a b)) ps
    | _, _ => none

end

/-! ## Building -/

def char (c : Char) : Pattern := .literal [c]

def ofSet (s : CharSet) : Pattern :=
  match s.only? with
  | some c => char c
  | none => .set s

def repeated (p : Pattern) (min : Nat) (max : Option Nat) (greedy : Bool) : Pattern :=
  let zero := p.isZeroWidth
  let min := if zero then Nat.min min 1 else min
  let max := if zero then some (Nat.min (max.getD 1) 1) else max
  if max = some 0 then .empty
  else if min = 1 ∧ max = some 1 then p
  else .times p min max greedy

/-- A list of patterns with one more in front; a literal joins a literal. -/
def prepend (p : Pattern) (ps : List Pattern) : List Pattern :=
  match p, ps with
  | .empty, _ => ps
  | .literal a, .literal b :: rest => .literal (a ++ b) :: rest
  | _, _ => p :: ps

/-- The patterns of a sequence, without sequences among them, and with joined literals. -/
def flatSequence (ps : List Pattern) : List Pattern :=
  ps.foldr (fun p rest =>
    match p with
    | .concat qs => qs.foldr prepend rest
    | _ => prepend p rest) []

def sequence (ps : List Pattern) : Pattern :=
  match flatSequence ps with
  | [] => .empty
  | [p] => p
  | ps => .concat ps

/-- The patterns of alternatives, without alternations among them. -/
def flatAlternatives (ps : List Pattern) : List Pattern :=
  ps.flatMap fun
    | .alternation qs => qs
    | p => [p]

def char? : Pattern → Option Char
  | .literal [c] => some c
  | _ => none

def set? : Pattern → Option CharSet
  | .set s => some s
  | _ => none

def parts : Pattern → List Pattern
  | .concat ps => ps
  | _ => []

/-- How many patterns two lists begin with alike. -/
def commonLength : List Pattern → List Pattern → Nat
  | p :: ps, q :: qs => if p.alike q then commonLength ps qs + 1 else 0
  | _, _ => 0

/-- Alternatives as one pattern, if they are single characters or sets. -/
def joined? (ps : List Pattern) : Option Pattern :=
  match ps.mapM char? with
  | some cs => some (ofSet (.ofChars cs))
  | none => (ps.mapM set?).map fun sets => ofSet (.unionAll sets)

/-- Alternatives that share no beginning. -/
def distinctAlternatives (ps : List Pattern) : Pattern :=
  match flatAlternatives ps with
  | [] => fail
  | [p] => p
  | ps => (joined? ps).getD (.alternation ps)

def alternatives (ps : List Pattern) : Pattern :=
  match flatAlternatives ps with
  | [] => fail
  | [p] => p
  | p :: ps =>
    match joined? (p :: ps) with
    | some q => q
    | none =>
      let shared := ps.foldl (fun n q => min n (commonLength p.parts q.parts)) p.parts.length
      if shared = 0 then .alternation (p :: ps)
      else
        let rests := (p :: ps).map fun q => sequence (q.parts.drop shared)
        sequence (p.parts.take shared ++ [distinctAlternatives rests])

end Pattern
end Regex
end DocAnalytics
