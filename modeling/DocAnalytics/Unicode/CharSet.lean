/-!
# DocAnalytics.Unicode.CharSet

Sets of characters. A set is the ascending sequence of the code points where membership changes,
beginning outside: `#[48, 58]` are the ten digits of ASCII. Membership is a binary search, and every
Boolean operation is one merge of two such sequences. Surrogates are no characters, and no set that
is built here has them.
-/

namespace DocAnalytics
namespace Unicode

/-- A set of characters, by the code points where membership changes. -/
structure CharSet where
  changes : Array Nat
deriving DecidableEq, Repr

namespace CharSet

/-- How many items of an ascending array are at most `n`, if at least `lo` and at most `hi` are. -/
def countUpTo (a : Array Nat) (n lo hi : Nat) : Nat :=
  if lo < hi then
    let mid := (lo + hi) / 2
    if a.getD mid 0 ≤ n then countUpTo a n (mid + 1) hi else countUpTo a n lo mid
  else lo
termination_by hi - lo

/-- Whether a set has a code point. -/
def hasCode (s : CharSet) (n : Nat) : Bool :=
  countUpTo s.changes n 0 s.changes.size % 2 == 1

def contains (s : CharSet) (c : Char) : Bool := s.hasCode c.toNat

def empty : CharSet := ⟨#[]⟩

def all : CharSet := ⟨#[0, 0xD800, 0xE000, 0x110000]⟩

def isEmpty (s : CharSet) : Bool := s.changes.isEmpty

/-- The sequence with one more change, if membership differs on the two sides of it. -/
def recordChange (n : Nat) (before after : Bool) (out : Array Nat) : Array Nat :=
  if before == after then out else out.push n

/-- The changes of a combination of two sets, behind those in `out`; `inA` and `inB` say whether the
code points before the changes that are left belong to the sets. -/
def merge (keep : Bool → Bool → Bool) (inA inB : Bool) (out : Array Nat) :
    List Nat → List Nat → Array Nat
  | [], [] => out
  | a :: as, [] =>
    merge keep (!inA) inB (recordChange a (keep inA inB) (keep (!inA) inB) out) as []
  | [], b :: bs =>
    merge keep inA (!inB) (recordChange b (keep inA inB) (keep inA (!inB)) out) [] bs
  | a :: as, b :: bs =>
    if a < b then
      merge keep (!inA) inB (recordChange a (keep inA inB) (keep (!inA) inB) out) as (b :: bs)
    else if b < a then
      merge keep inA (!inB) (recordChange b (keep inA inB) (keep inA (!inB)) out) (a :: as) bs
    else
      merge keep (!inA) (!inB) (recordChange a (keep inA inB) (keep (!inA) (!inB)) out) as bs
termination_by as bs => as.length + bs.length

/-- The set whose members are decided by membership in two sets; nothing may be in neither. -/
def combine (keep : Bool → Bool → Bool) (a b : CharSet) : CharSet :=
  ⟨merge keep false false #[] a.changes.toList b.changes.toList⟩

def union (a b : CharSet) : CharSet := combine (· || ·) a b

def inter (a b : CharSet) : CharSet := combine (· && ·) a b

def diff (a b : CharSet) : CharSet := combine (fun x y => x && !y) a b

def symmDiff (a b : CharSet) : CharSet := combine (· != ·) a b

/-- All characters that are no members. -/
def complement (s : CharSet) : CharSet := all.diff s

/-- A set with the code points of a range that begins no earlier than its last range. -/
def append (s : CharSet) (range : Nat × Nat) : CharSet :=
  match s.changes.back? with
  | some last =>
    if range.1 ≤ last then ⟨s.changes.pop.push (max last (range.2 + 1))⟩
    else ⟨(s.changes.push range.1).push (range.2 + 1)⟩
  | none => ⟨#[range.1, range.2 + 1]⟩

/-- The set of the code points of ranges, given with both ends and in ascending order. -/
def ofAscending (ranges : List (Nat × Nat)) : CharSet := ranges.foldl append empty

/-- The set of the code points of ranges, given with both ends. -/
def ofRanges (ranges : List (Nat × Nat)) : CharSet :=
  ofAscending (ranges.mergeSort fun a b => a.1 ≤ b.1)

def ofCodes (codes : List Nat) : CharSet := ofRanges (codes.map fun n => (n, n))

def ofChars (cs : List Char) : CharSet := ofCodes (cs.map Char.toNat)

def singleton (c : Char) : CharSet := ⟨#[c.toNat, c.toNat + 1]⟩

def range (first last : Char) : CharSet := inter all ⟨#[first.toNat, last.toNat + 1]⟩

/-- The ranges that two neighbouring changes enclose, with both ends. -/
def rangesOf : List Nat → List (Nat × Nat)
  | first :: next :: rest => (first, next - 1) :: rangesOf rest
  | _ => []

def ranges (s : CharSet) : List (Nat × Nat) := rangesOf s.changes.toList

/-- Whether a set has no members beyond ASCII. -/
def isAscii (s : CharSet) : Bool := s.changes.all (· ≤ 0x80)

def unionAll (sets : List CharSet) : CharSet := ofRanges (sets.flatMap ranges)

/-- The only member of a set of one character. -/
def only? (s : CharSet) : Option Char :=
  match s.ranges with
  | [(first, last)] => if first = last then some (Char.ofNat first) else none
  | _ => none

end CharSet
end Unicode
end DocAnalytics
