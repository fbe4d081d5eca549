import DocAnalytics.Unicode.CharSet

/-!
# DocAnalytics.Regex.Utf8

The encodings of a set of characters as sequences of ranges of bytes, and how many states and
transitions an automaton needs that reads such sequences. Read forwards, states with the same
continuations are one; read backwards, what the encodings begin with alike is one.
-/

namespace DocAnalytics
namespace Regex

open Unicode

def total (ns : List Nat) : Nat := ns.foldl (· + ·) 0

namespace Utf8

abbrev Bytes := Nat × Nat

/-- Ranges of bytes for each place of an encoding. -/
abbrev Sequence := List Bytes

/-- The largest number of `k` continuation bytes, which hold six bits each. -/
def largestTail : Nat → Nat
  | 0 => 0
  | k + 1 => largestTail k * 64 + 63

/-- The sequences of the numbers from `a` to `b` in `k` continuation bytes behind a byte that is
`lead` for the number zero. -/
def tails (lead : Nat) : Nat → Nat → Nat → List Sequence
  | 0, a, b => [[(lead + a, lead + b)]]
  | k + 1, a, b =>
    let size := largestTail (k + 1) + 1
    let first := a / size
    let last := b / size
    let under (byte : Nat) (rest : List Sequence) : List Sequence :=
      rest.map fun s => (lead + byte, lead + byte) :: s
    if first = last then under first (tails 0x80 k (a % size) (b % size))
    else
      let begins := a % size = 0
      let ends := b % size + 1 = size
      let head := if begins then [] else under first (tails 0x80 k (a % size) (size - 1))
      let tail := if ends then [] else under last (tails 0x80 k 0 (b % size))
      let start := if begins then first else first + 1
      let stop := if ends then last + 1 else last
      let middle :=
        if start < stop then
          [(lead + start, lead + stop - 1) :: List.replicate (k + 1) (0x80, 0xBF)]
        else []
      head ++ middle ++ tail

/-- The lengths of encodings: the number of continuation bytes, the first byte of all, and the code
points between which it is used. -/
def lengths : List (Nat × Nat × Nat × Nat) := [
  (0, 0, 0, 0x7F), (1, 0xC0, 0x80, 0x7FF), (2, 0xE0, 0x800, 0xFFFF), (3, 0xF0, 0x10000, 0x10FFFF)]

/-- The sequences of the code points from `a` to `b`, in ascending order. -/
def ofRange (a b : Nat) : List Sequence :=
  lengths.flatMap fun (k, lead, first, last) =>
    let a := max a first
    let b := min b last
    if a ≤ b then tails lead k a b else []

def sequences (s : CharSet) : List Sequence := s.ranges.flatMap fun r => ofRange r.1 r.2

/-- What follows the first range of sequences, for each run of neighbouring sequences that begin
alike. -/
def branches : List Sequence → List (List Sequence)
  | [] => []
  | s :: rest =>
    match branches rest, rest with
    | group :: groups, next :: _ =>
      if s.head? = next.head? then (s.tail :: group) :: groups
      else [s.tail] :: group :: groups
    | groups, _ => [s.tail] :: groups

/-- The states at one depth, by the sequences that lead on from them. -/
def deeper (states : List (List Sequence)) : List (List Sequence) :=
  (states.flatMap branches).filter fun s => s != [[]]

/-- The states at every depth; no encoding is longer than four bytes. -/
def statesByDepth (s : CharSet) : List (List (List Sequence)) :=
  let first := [sequences s]
  let second := deeper first
  let third := deeper second
  [first, second, third, deeper third]

/-- The number of states and of transitions of an automaton that reads a set forwards. -/
def forwards (s : CharSet) : Nat × Nat :=
  let states := (statesByDepth s).flatten.eraseDups
  (states.length, total (states.map fun s => (branches s).length))

/-- The number of states and of ways in of an automaton that reads a set backwards. -/
def backwards (s : CharSet) : Nat × Nat :=
  let steps := (statesByDepth s).map fun states => total (states.map fun s => (branches s).length)
  (total steps, (sequences s).length)

end Utf8
end Regex
end DocAnalytics
