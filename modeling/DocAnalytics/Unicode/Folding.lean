import DocAnalytics.Unicode.CharSet
import DocAnalytics.Unicode.FoldingTable

/-!
# DocAnalytics.Unicode.Folding

Comparison without regard to letter case, character by character: `fold` sends a character to the
representative of its class, `foldClass` lists the class, and `CharSet.folded` closes a set under
classes.
-/

namespace DocAnalytics
namespace Unicode

def fold (c : Char) : Char :=
  if c.toNat < 0x80 then c.toLower else Char.ofNat (CaseRun.mapAll foldingRuns c.toNat)

/-- The ASCII capital that folds to a character, if there is one. -/
def asciiCapital (c : Char) : List Char :=
  if 'a' ≤ c ∧ c ≤ 'z' then [c.toUpper] else []

/-- Every character that folds as `c` does. -/
def foldClass (c : Char) : List Char :=
  let representative := fold c
  representative :: asciiCapital representative ++
    (foldingRuns.flatMap (·.preimage representative.toNat)).map Char.ofNat

/-- The capitals of ASCII with their small letters. -/
def asciiPairs : List (Nat × Nat) := (List.range 26).map fun k => (0x41 + k, 0x61 + k)

/-- Every code point that folding changes, with its representative. -/
def foldingPairs : List (Nat × Nat) := asciiPairs ++ foldingRuns.flatMap CaseRun.pairs

/-- The members of the classes that have a member in the set, by the pairs of a folding. -/
def CharSet.classMembers (pairs : List (Nat × Nat)) (s : CharSet) : CharSet :=
  let met := pairs.filter fun p => s.hasCode p.1 || s.hasCode p.2
  let representatives := ofCodes (met.map Prod.snd)
  let classes := pairs.filter fun p => representatives.hasCode p.2
  ofCodes (classes.map Prod.fst ++ classes.map Prod.snd)

/-- A set with every character that folds as one of its members does. -/
def CharSet.folded (s : CharSet) : CharSet := s.union (s.classMembers foldingPairs)

/-- A set with the letters of ASCII that differ from one of its members by case. -/
def CharSet.asciiFolded (s : CharSet) : CharSet := s.union (s.classMembers asciiPairs)

end Unicode
end DocAnalytics
