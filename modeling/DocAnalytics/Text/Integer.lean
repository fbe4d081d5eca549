/-!
# DocAnalytics.Text.Integer

Reading integers from decimal digits.
-/

namespace DocAnalytics
namespace Text

/-- The number that digits denote when they follow the digits of `acc`. -/
def digitsValue (acc : Nat) (cs : List Char) : Nat :=
  cs.foldl (fun n c => n * 10 + (c.toNat - '0'.toNat)) acc

def natural? (cs : List Char) : Option Nat :=
  if cs.isEmpty || !cs.all Char.isDigit then none else some (digitsValue 0 cs)

/-- The first natural number that is no unsigned 64-bit integer. -/
def unsignedLimit : Nat := 18446744073709551616

/-- The first natural number that is no signed 64-bit integer. -/
def signedLimit : Nat := 9223372036854775808

def unsigned? (cs : List Char) : Option Nat :=
  let digits :=
    match cs with
    | '+' :: rest => rest
    | _ => cs
  (natural? digits).filter fun n => n < unsignedLimit

/-- Reads a signed 64-bit integer, with a sign or without. -/
def signed? (cs : List Char) : Option Int :=
  let value? : Option Int :=
    match cs with
    | '-' :: rest => (natural? rest).map fun n => -(n : Int)
    | '+' :: rest => (natural? rest).map fun n => (n : Int)
    | _ => (natural? cs).map fun n => (n : Int)
  value?.filter fun n => -signedLimit ≤ n && n < signedLimit

end Text
end DocAnalytics
