import DocAnalytics.Regex.Property

/-!
# DocAnalytics.Regex.Look

Conditions on a position in a text. All that a condition sees is what kind of character stands on
either side, so a condition is the set of pairs of kinds for which it holds, and such sets are held
as bits: `Look.contexts`.
-/

namespace DocAnalytics
namespace Regex

open Unicode

/-- What stands beside a position: nothing at the ends of a text, or a character of some kind. -/
inductive Neighbour where
  | edge
  | lineFeed
  | carriageReturn
  | asciiWord
  | otherWord
  | other
deriving DecidableEq, Repr

namespace Neighbour

def asciiWords : CharSet := .ofAscending [(48, 57), (65, 90), (95, 95), (97, 122)]

/-- The kind of a character, or of none. -/
def ofChar? : Option Char → Neighbour
  | none => .edge
  | some c =>
    if c = '\n' then .lineFeed
    else if c = '\r' then .carriageReturn
    else if asciiWords.contains c then .asciiWord
    else if c.toNat < 0x80 then .other
    else if wordSet.contains c then .otherWord
    else .other

def all : List Neighbour := [.edge, .lineFeed, .carriageReturn, .asciiWord, .otherWord, .other]

def index : Neighbour → Nat
  | .edge => 0
  | .lineFeed => 1
  | .carriageReturn => 2
  | .asciiWord => 3
  | .otherWord => 4
  | .other => 5

def isWord (unicode : Bool) : Neighbour → Bool
  | .asciiWord => true
  | .otherWord => unicode
  | _ => false

end Neighbour

/-- What stands on both sides of a position. -/
structure Context where
  before : Neighbour
  after : Neighbour
deriving DecidableEq, Repr

namespace Context

def between (before after : Option Char) : Context := ⟨.ofChar? before, .ofChar? after⟩

def all : List Context :=
  Neighbour.all.flatMap fun before => Neighbour.all.map fun after => ⟨before, after⟩

def index (k : Context) : Nat := 6 * k.before.index + k.after.index

end Context

/-- A set of contexts: bit `k.index` stands for the context `k`. -/
abbrev Contexts := BitVec 36

namespace Contexts

/-- The contexts for which a condition holds. -/
def ofPred (holds : Context → Bool) : Contexts :=
  Context.all.foldl (fun set k => if holds k then set ||| (1#36 <<< k.index) else set) 0#36

def has (set : Contexts) (k : Context) : Bool := set.getLsbD k.index

def all : Contexts := ofPred fun _ => true

end Contexts

inductive Boundary where
  | any
  | nowhere
  | start
  | stop
  | startHalf
  | stopHalf
deriving DecidableEq, Repr

inductive Look where
  | textStart
  | textEnd
  | lineStart
  | lineEnd
  /-- Start of a line, a line ending with a line feed, a carriage return or both. -/
  | anyLineStart
  /-- End of a line, a line ending with a line feed, a carriage return or both. -/
  | anyLineEnd
  /-- A boundary of words, whose characters are those of Unicode or those of ASCII. -/
  | word (b : Boundary) (unicode : Bool)
deriving DecidableEq, Repr

namespace Look

def holds (k : Context) : Look → Bool
  | .textStart => k.before == .edge
  | .textEnd => k.after == .edge
  | .lineStart => k.before == .edge || k.before == .lineFeed
  | .lineEnd => k.after == .edge || k.after == .lineFeed
  | .anyLineStart =>
    k.before == .edge || k.before == .lineFeed ||
      (k.before == .carriageReturn && k.after != .lineFeed)
  | .anyLineEnd =>
    k.after == .edge || k.after == .carriageReturn ||
      (k.after == .lineFeed && k.before != .carriageReturn)
  | .word b unicode =>
    let before := k.before.isWord unicode
    let after := k.after.isWord unicode
    match b with
    | .any => before != after
    | .nowhere => before == after
    | .start => !before && after
    | .stop => before && !after
    | .startHalf => !before
    | .stopHalf => !after

def contexts (l : Look) : Contexts := .ofPred fun k => l.holds k

end Look
end Regex
end DocAnalytics
