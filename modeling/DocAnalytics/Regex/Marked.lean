import DocAnalytics.Regex.Pattern

/-!
# DocAnalytics.Regex.Marked

Matching, one character at a time. A pattern is unfolded into a tree whose leaves are sets of
characters, and a leaf is marked when the character read last is one with which a match may go on
behind it. Reading the next character moves all marks at once (`Marked.advance`), so a text is
searched in one pass. A counted repetition shares the copies of its part until marks make them
differ, and what has no marks is not looked at.
-/

namespace DocAnalytics
namespace Regex

open Unicode

/-- A pattern unfolded, with marks. An inner node says whether there are marks below it (`live`),
whether a match of it that began earlier ends here (`ended`), and in which contexts it matches
without a character (`hollow`). -/
inductive Marked where
  /-- No character, in some contexts. -/
  | gap (hollow : Contexts)
  | leaf (s : CharSet) (mark : Bool)
  | seq (live ended : Bool) (hollow : Contexts) (a b : Marked)
  /-- Some copies of one part, which may stop behind any of them; `full` says that a match of all of
  them that began earlier ends here. -/
  | run (live ended full : Bool) (hollow : Contexts) (a b : Marked)
  | alt (live ended : Bool) (hollow : Contexts) (a b : Marked)
  /-- Once or more often. -/
  | loop (live ended : Bool) (hollow : Contexts) (a : Marked)
deriving Repr

namespace Marked

def live : Marked → Bool
  | gap _ => false
  | leaf _ mark => mark
  | seq live _ _ _ _ => live
  | run live _ _ _ _ _ => live
  | alt live _ _ _ _ => live
  | loop live _ _ _ => live

/-- Whether a match that began earlier ends here. -/
def ended : Marked → Bool
  | gap _ => false
  | leaf _ mark => mark
  | seq _ ended _ _ _ => ended
  | run _ ended _ _ _ _ => ended
  | alt _ ended _ _ _ => ended
  | loop _ ended _ _ => ended

/-- Whether a match of all copies of a run, or of anything else, that began earlier ends here. -/
def full : Marked → Bool
  | run _ _ full _ _ _ => full
  | m => m.ended

/-- The contexts in which no character is a match. -/
def hollow : Marked → Contexts
  | gap hollow => hollow
  | leaf _ _ => 0#36
  | seq _ _ hollow _ _ => hollow
  | run _ _ _ hollow _ _ => hollow
  | alt _ _ hollow _ _ => hollow
  | loop _ _ hollow _ => hollow

/-- The node of a sequence in a context. -/
def mkSeq (now : Context) (a b : Marked) : Marked :=
  .seq (a.live || b.live) (b.ended || (a.ended && b.hollow.has now)) (a.hollow &&& b.hollow) a b

/-- The node of a run in a context. All copies match nothing in the same contexts. -/
def mkRun (now : Context) (a b : Marked) : Marked :=
  .run (a.live || b.live) (a.ended || b.ended) (b.full || (a.full && b.hollow.has now)) a.hollow a b

def mkAlt (a b : Marked) : Marked :=
  .alt (a.live || b.live) (a.ended || b.ended) (a.hollow ||| b.hollow) a b

/-- The node of a repetition, once or more often. -/
def mkLoop (a : Marked) : Marked := .loop a.live a.ended a.hollow a

/-! ## Unfolding -/

/-- What matches no character anywhere. -/
def nothing : Marked := .gap .all

def both (a b : Marked) : Marked := .seq false false (a.hollow &&& b.hollow) a b

/-- Once or not at all. -/
def optional (a : Marked) : Marked := mkAlt nothing a

/-- Exactly `n` copies of a tree without marks, in two equal halves as far as possible. -/
def copies (a : Marked) (n : Nat) : Marked :=
  if n = 0 then nothing
  else if n = 1 then a
  else
    let half := copies a (n / 2)
    if n % 2 = 0 then both half half else both a (both half half)
termination_by n

/-- At least one copy and at most `n`, in two equal halves as far as possible; none if `n` is zero.
-/
def someUpTo (a : Marked) (n : Nat) : Marked :=
  if n = 0 then nothing
  else if n = 1 then a
  else
    let half := someUpTo a (n / 2)
    let runOf (a b : Marked) : Marked := .run false false false a.hollow a b
    if n % 2 = 0 then runOf half half else runOf a (runOf half half)
termination_by n

def upTo (a : Marked) (n : Nat) : Marked :=
  if n = 0 then nothing else optional (someUpTo a n)

def times (a : Marked) (min : Nat) (max : Option Nat) : Marked :=
  match max with
  | none =>
    if min = 0 then optional (mkLoop a)
    else if min = 1 then mkLoop a
    else both (copies a (min - 1)) (mkLoop a)
  | some max => both (copies a min) (upTo a (max - min))

def pairUp (join : Marked → Marked → Marked) : List Marked → List Marked
  | a :: b :: rest => join a b :: pairUp join rest
  | trees => trees

theorem length_pairUp_le (join : Marked → Marked → Marked) :
    ∀ trees : List Marked, (pairUp join trees).length ≤ trees.length
  | [] => Nat.le_refl _
  | [_] => Nat.le_refl _
  | _ :: _ :: rest => by
    have := length_pairUp_le join rest
    simp only [pairUp, List.length_cons]
    omega

/-- All trees of a list, joined to a tree that is no deeper than necessary. -/
def joinAll (join : Marked → Marked → Marked) : List Marked → Marked
  | [] => nothing
  | [a] => a
  | a :: b :: rest => joinAll join (join a b :: pairUp join rest)
termination_by trees => trees.length
decreasing_by
  have := length_pairUp_le join rest
  simp only [List.length_cons]
  omega

mutual

def ofPattern : Pattern → Marked
  | .empty => nothing
  | .literal cs => joinAll both (cs.map fun c => .leaf (.singleton c) false)
  | .set s => .leaf s false
  | .look l => .gap l.contexts
  | .times p min max _ => times (ofPattern p) min max
  | .group p => ofPattern p
  | .concat ps => joinAll both (ofPatterns ps)
  | .alternation ps => joinAll mkAlt (ofPatterns ps)

def ofPatterns : List Pattern → List Marked
  | [] => []
  | p :: ps => ofPattern p :: ofPatterns ps

end

/-! ## Reading -/

/-- The tree after a character is read; `enter` says that a match may begin before the character,
`now` and `next` are the contexts of the positions before and behind it. -/
def advance (now next : Context) (c : Char) (enter : Bool) (m : Marked) : Marked :=
  if !enter && !m.live then m
  else
    match m with
    | .gap hollow => .gap hollow
    | .leaf s _ => .leaf s (enter && s.contains c)
    | .seq _ _ _ a b =>
      mkSeq next (a.advance now next c enter)
        (b.advance now next c (a.ended || (enter && a.hollow.has now)))
    | .run _ _ _ _ a b =>
      mkRun next (a.advance now next c enter)
        (b.advance now next c (a.full || (enter && a.hollow.has now)))
    | .alt _ _ _ a b => mkAlt (a.advance now next c enter) (b.advance now next c enter)
    | .loop _ _ _ a => mkLoop (a.advance now next c (enter || a.ended))

/-- Whether a match ends in the rest of a text or before it; matches may begin anywhere. -/
def matchesFrom (m : Marked) (before : Option Char) : List Char → Bool
  | [] => m.ended || m.hollow.has (.between before none)
  | c :: cs =>
    let now := Context.between before (some c)
    if m.ended || m.hollow.has now then true
    else matchesFrom (m.advance now (.between (some c) cs.head?) c true) (some c) cs

end Marked

def Pattern.matchesIn (p : Pattern) (text : String) : Bool :=
  (Marked.ofPattern p).matchesFrom none text.toList

end Regex
end DocAnalytics
