import DocAnalytics.Binary64.Decimal

/-!
# DocAnalytics.Binary64.Layout

How the shortest digits of a double are written out: positionally or with an exponent, with or
without a point after an integer.
-/

namespace DocAnalytics
namespace Binary64

structure Layout where
  /-- Which of two equally near digit strings is written. -/
  tie : Tie
  /-- Whether a number is written positionally, by the place of its decimal point. -/
  positional : Int → Bool
  /-- Whether an integer is written with a point and a zero. -/
  keepsPoint : Bool

def intChars (n : Int) : List Char :=
  if n < 0 then '-' :: Nat.toDigits 10 n.natAbs else Nat.toDigits 10 n.natAbs

/-- Digits with the decimal point at `point`, filled up with zeros where it lies outside them. -/
def positionalChars (keepsPoint : Bool) (digits : List Char) (point : Int) : List Char :=
  if point ≤ 0 then ['0', '.'] ++ List.replicate (-point).toNat '0' ++ digits
  else if (digits.length : Int) ≤ point then
    digits ++ List.replicate (point - digits.length).toNat '0' ++
      (if keepsPoint then ['.', '0'] else [])
  else digits.take point.toNat ++ '.' :: digits.drop point.toNat

/-- Digits with the point behind the first one and the exponent that makes up for it, signed in both
directions. -/
def exponentChars (digits : List Char) (point : Int) : List Char :=
  let exponent := point - 1
  let mantissa :=
    match digits with
    | [] => ['0']
    | [d] => [d]
    | d :: rest => d :: '.' :: rest
  let exponentDigits := if exponent < 0 then intChars exponent else '+' :: intChars exponent
  mantissa ++ 'e' :: exponentDigits

def Finite.render (layout : Layout) (x : Finite) : List Char :=
  let decimal := x.shortest layout.tie
  let digits := decimal.digitChars
  let body :=
    if layout.positional decimal.point then
      positionalChars layout.keepsPoint digits decimal.point
    else exponentChars digits decimal.point
  if x.negative then '-' :: body else body

def render (layout : Layout) : Binary64 → String
  | .finite x => String.ofList (x.render layout)
  | .infinite negative => if negative then "-inf" else "inf"
  | .nan => "NaN"

end Binary64
end DocAnalytics
