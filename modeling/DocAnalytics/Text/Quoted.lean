import DocAnalytics.Unicode.Category

/-!
# DocAnalytics.Text.Quoted

A text as messages quote it: between double quotes, with escapes for quotes, backslashes and
whatever does not show.
-/

namespace DocAnalytics
namespace Text

open Unicode

/-- Letters without ink: the fillers of Hangul. -/
def fillers : CharSet := .ofText ["115F-1160 3164 FFA0"]

/-- The half-width voicing marks, which extend the character before them and take a place of their
own. -/
def voicingMarks : CharSet := .ofText ["FF9E-FF9F"]

/-- The characters that do not show by themselves: controls, formats, separators other than the
space, unassigned code points, fillers, and marks that need the character before them. -/
def invisible : CharSet :=
  (((categories .seventeenth ["C", "Z"]).union fillers).union
    ((extendingSet .seventeenth).diff voicingMarks)).diff (.singleton ' ')

/-- Whether a character shows by itself. -/
def isVisible (c : Char) : Bool := !invisible.contains c

def quotedChar (c : Char) : List Char :=
  if c = '"' then ['\\', '"']
  else if c = '\\' then ['\\', '\\']
  else if c = '\n' then ['\\', 'n']
  else if c = '\r' then ['\\', 'r']
  else if c = '\t' then ['\\', 't']
  else if c.toNat = 0 then ['\\', '0']
  else if isVisible c then [c]
  else ['\\', 'u', '\x7b'] ++ Nat.toDigits 16 c.toNat ++ ['\x7d']

def quoted (s : String) : String :=
  String.ofList ('"' :: s.toList.flatMap quotedChar ++ ['"'])

end Text
end DocAnalytics
