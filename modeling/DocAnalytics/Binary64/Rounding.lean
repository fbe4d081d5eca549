import DocAnalytics.Binary64.Layout

/-!
# DocAnalytics.Binary64.Rounding

Rounding to decimal places, and the text of a number in a label.
-/

namespace DocAnalytics
namespace Binary64

/-- A count of places is a 32-bit number; from `2^31` on it counts places before the point. -/
def signedPlaces (places : Nat) : Int :=
  if places < 2147483648 then places else (places : Int) - 4294967296

/-- Rounds to a number of decimal places, a half away from zero: scaled up, rounded to an integer
and scaled down, each with double precision. -/
def roundTo (x : Binary64) (places : Nat) : Binary64 :=
  let factor := pow (ofNat 10) (signedPlaces places)
  roundHalfAway (x * factor) / factor

/-- Numbers in labels never have an exponent, and integers have no point. -/
def labelLayout : Layout where
  tie := .up
  positional := fun _ => true
  keepsPoint := false

def label (x : Binary64) : String := x.render labelLayout

end Binary64
end DocAnalytics
