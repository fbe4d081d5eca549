import DocAnalytics.Binary64.Arithmetic
import DocAnalytics.Text.Integer

/-!
# DocAnalytics.Binary64.Decimal

Decimal texts and doubles.

* `ofDecimal`: the double nearest to `digits * 10 ^ exponent`.
* `Finite.shortest`: the fewest digits that read back as the same double, and of those the nearest
  to its value.
* `ofText?`: reads a number as a person writes it, with an optional sign, point and exponent.
-/

namespace DocAnalytics
namespace Binary64

/-- The double nearest to `digits * 10 ^ exponent`. Exponents that surely overflow or underflow are
settled without computing the power. -/
def ofDecimal (negative : Bool) (digits : Nat) (exponent : Int) : Binary64 :=
  if digits = 0 then .finite (Finite.zero negative)
  else if exponent > 309 then .infinite negative
  else if (Nat.log2 digits : Int) + 1081 < -3 * exponent then .finite (Finite.zero negative)
  else if 0 ≤ exponent then ofRatio negative (digits * Nat.pow 10 exponent.toNat) 1
  else ofRatio negative digits (Nat.pow 10 (-exponent).toNat)

/-- The double nearest to a power of ten. -/
def powerOfTen (exponent : Int) : Binary64 := ofDecimal false 1 exponent

/-! ## Shortest digits -/

/-- Which of two equally near digit strings to take. -/
inductive Tie where
  | toEven
  | up
deriving DecidableEq, Repr

/-- A positive decimal number `digits * 10 ^ exponent`. -/
structure Decimal where
  digits : Nat
  exponent : Int
deriving DecidableEq, Repr

namespace Decimal

/-- The same number without zeros at the end of its digits; `fuel` bounds how many are dropped. -/
def dropZeros : Nat → Decimal → Decimal
  | 0, d => d
  | fuel + 1, d =>
    if d.digits % 10 = 0 ∧ d.digits ≠ 0 then dropZeros fuel ⟨d.digits / 10, d.exponent + 1⟩ else d

def digitChars (d : Decimal) : List Char := Nat.toDigits 10 d.digits

/-- Where the decimal point stands: the value is `0.ddd… * 10 ^ point`. -/
def point (d : Decimal) : Int := (d.digitChars.length : Int) + d.exponent

end Decimal

/-- The multiple of `10 ^ exponent` that rounds to the double of rank `rank` and is nearest to it,
if there is one. The numbers that round to it lie between the midpoints to its neighbours; the
midpoints count when the rank is even. -/
def onGrid (tie : Tie) (rank : Nat) (exponent : Int) : Option Nat :=
  let scale := if exponent < 0 then Nat.pow 10 (-exponent).toNat else 1
  let grid := unitsPerOne * (if exponent < 0 then 1 else Nat.pow 10 exponent.toNat)
  let value := 2 * units rank * scale
  let low := (units (rank - 1) + units rank) * scale
  let high := (units rank + units (rank + 1)) * scale
  let inside (m : Nat) : Bool :=
    let x := 2 * m * grid
    if rank % 2 = 0 then low ≤ x && x ≤ high else low < x && x < high
  let below := units rank * scale / grid
  let above := below + 1
  match inside below, inside above with
  | false, false => none
  | true, false => some below
  | false, true => some above
  | true, true =>
    let down := value - 2 * below * grid
    let up := 2 * above * grid - value
    if down < up then some below
    else if up < down then some above
    else
      match tie with
      | .toEven => some (if below % 2 = 0 then below else above)
      | .up => some above

/-- Tries ever finer grids, from `10 ^ exponent` on. -/
def firstOnGrid (tie : Tie) (rank : Nat) : Nat → Int → Decimal
  | 0, exponent => ⟨0, exponent⟩
  | fuel + 1, exponent =>
    match onGrid tie rank exponent with
    | some digits => ⟨digits, exponent⟩
    | none => firstOnGrid tie rank fuel (exponent - 1)

/-- The exponent of the leading decimal digit of a positive number of units. -/
def leadingExponent (n : Nat) : Int :=
  let estimate := (((Nat.log2 n : Int) - 1074) * 30103).fdiv 100000
  let next := estimate + 1
  let reached :=
    if 0 ≤ next then decide (Nat.pow 10 next.toNat * unitsPerOne ≤ n)
    else decide (unitsPerOne ≤ n * Nat.pow 10 (-next).toNat)
  if reached then next else estimate

/-- The fewest digits that read back as the absolute value of the double, and of those the nearest
to it. Seventeen digits always suffice. -/
def Finite.shortest (tie : Tie) (x : Finite) : Decimal :=
  if x.rank = 0 then ⟨0, 0⟩
  else (firstOnGrid tie x.rank 18 (leadingExponent (units x.rank))).dropZeros 18

/-! ## Reading -/

/-- Reads an exponent: an optional sign and at least one digit. -/
def exponentOf? (cs : List Char) : Option Int :=
  let (negative, digits) :=
    match cs with
    | '-' :: rest => (true, rest)
    | '+' :: rest => (false, rest)
    | rest => (false, rest)
  (Text.natural? digits).map fun n => if negative then -(n : Int) else n

/-- Reads an unsigned decimal number: digits with an optional point among or beside them, at least
one digit, and an optional exponent. -/
def unsignedOf? (negative : Bool) (cs : List Char) : Option Binary64 :=
  let whole := cs.takeWhile Char.isDigit
  let afterWhole := cs.dropWhile Char.isDigit
  let (fraction, rest) :=
    match afterWhole with
    | '.' :: more => (more.takeWhile Char.isDigit, more.dropWhile Char.isDigit)
    | _ => ([], afterWhole)
  if whole.isEmpty && fraction.isEmpty then none
  else
    let digits := Text.digitsValue (Text.digitsValue 0 whole) fraction
    let places : Int := fraction.length
    match rest with
    | [] => some (ofDecimal negative digits (-places))
    | c :: more =>
      if c = 'e' ∨ c = 'E' then
        (exponentOf? more).map fun e => ofDecimal negative digits (e - places)
      else none

/-- Reads a number as a person writes it: an optional sign, then a decimal number or, in any letter
case, `inf`, `infinity` or `nan`. Nothing may stand around it, blanks included. -/
def ofText? (cs : List Char) : Option Binary64 :=
  let (negative, body) :=
    match cs with
    | '-' :: rest => (true, rest)
    | '+' :: rest => (false, rest)
    | rest => (false, rest)
  let lowered := body.map Char.toLower
  if lowered = ['i', 'n', 'f'] ∨ lowered = ['i', 'n', 'f', 'i', 'n', 'i', 't', 'y'] then
    some (.infinite negative)
  else if lowered = ['n', 'a', 'n'] then some .nan
  else unsignedOf? negative body

end Binary64
end DocAnalytics
