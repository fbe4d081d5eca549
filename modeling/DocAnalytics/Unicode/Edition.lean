import DocAnalytics.Unicode.AgeTable
import DocAnalytics.Unicode.Table

/-!
# DocAnalytics.Unicode.Edition

The ages of code points, and the two editions of Unicode in use: texts are lowered and quoted by the
seventeenth, and patterns know the characters of the sixteenth.
-/

namespace DocAnalytics
namespace Unicode

inductive Edition where
  | sixteenth
  | seventeenth
deriving DecidableEq, Repr

def ageRuns : List Run := readRuns 1 ageText

/-- The code points whose edition has one of the letters. -/
def agedIn (letters : List Char) : CharSet :=
  Run.members (fun tag => tag.any letters.contains) ageRuns

/-- The code points that came with the seventeenth edition. -/
def newest : CharSet := agedIn ['B']

/-- What an edition has of a set of the seventeenth. -/
def Edition.restrict : Edition → CharSet → CharSet
  | .sixteenth, s => s.diff newest
  | .seventeenth, s => s

/-- The code points that had come to be with an edition, from the first to the sixteenth; its name
is written `6.0` or, without separators, `v60`. -/
def ageMembers? (name : String) : Option CharSet :=
  let known := editionLetters.filter fun e => e.2 != 'B'
  let spelled (e : String × Char) : Bool :=
    e.1 == name || "v" ++ String.ofList (e.1.toList.filter (· ≠ '.')) == name
  if known.any spelled then
    let earlier := known.takeWhile fun e => !spelled e
    let this := known.filter spelled
    some (agedIn ((earlier ++ this).map Prod.snd))
  else none

end Unicode
end DocAnalytics
