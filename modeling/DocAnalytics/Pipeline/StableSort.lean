/-!
# DocAnalytics.Pipeline.StableSort

Stable sorting by a test for "comes before". Lists of up to twenty items are sorted by insertion,
longer ones by merging. Where the test is an order the two agree.
-/

namespace DocAnalytics

/-- Inserts an item into a list in descending order, in front of the items that it does not come
before. -/
def insertDescending {α : Type} (before : α → α → Bool) (x : α) : List α → List α
  | [] => [x]
  | y :: ys => if before x y then y :: insertDescending before x ys else x :: y :: ys

def insertionSort {α : Type} (before : α → α → Bool) (xs : List α) : List α :=
  (xs.foldl (fun sorted x => insertDescending before x sorted) []).reverse

def stableSort {α : Type} (before : α → α → Bool) (xs : List α) : List α :=
  if xs.length ≤ 20 then insertionSort before xs
  else xs.mergeSort fun a b => !before b a

end DocAnalytics
