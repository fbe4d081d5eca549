import DocAnalytics.Aggregate.Accumulator
import DocAnalytics.Document.Path
import DocAnalytics.Json.Printer
import DocAnalytics.Keyed
import DocAnalytics.Pipeline.Stage

/-!
# DocAnalytics.Pipeline.Group

Grouping of rows. Rows belong to one group if their keys have the same slot, which is the key with
every number in it reduced to its value as a double. The aggregates of the groups stand in a table
under the texts of their slots, and their keys in the order of their first rows.
-/

namespace DocAnalytics

mutual

def Json.slot : Json → Json
  | .number n => Json.ofFinite n.toDouble
  | .array items => .array (slotItems items)
  | .object members => .object (slotMembers members)
  | j => j

def Json.slotItems : List Json → List Json
  | [] => []
  | item :: items => item.slot :: slotItems items

def Json.slotMembers : List (String × Json) → List (String × Json)
  | [] => []
  | (key, value) :: members => (key, value.slot) :: slotMembers members

end

/-- Groups of rows: the keys of their first rows, and the aggregates so far under their slots. -/
structure Groups where
  order : List Json
  totals : List (String × Accumulator)

namespace Grouping

def slotText (key : Json) : String := key.slot.compact

/-- The key of a row; null if it has none. -/
def keyOf (g : Grouping) (row : Document) : Json :=
  match g.key with
  | none => .null
  | some field => (row.at? field).getD .null

def inputOf (g : Grouping) (row : Document) : Json :=
  match g.source with
  | none => .null
  | some field =>
    let raw := (row.at? field).getD .null
    if g.coerce then
      match raw.coerce? .trimmed with
      | some x => Json.ofFinite x
      | none => Json.ofInt 0
    else raw

/-- Puts a row into its group, or into a new one. -/
def addRow (g : Grouping) (groups : Groups) (row : Document) : Groups :=
  let key := g.keyOf row
  let slot := slotText key
  match Keyed.get? groups.totals slot with
  | some total =>
    { groups with totals := Keyed.insert slot (total.add (g.inputOf row)) groups.totals }
  | none =>
    { order := groups.order ++ [key]
      totals := Keyed.insert slot (g.function.start.add (g.inputOf row)) groups.totals }

def groups (g : Grouping) (rows : List Document) : Groups := rows.foldl g.addRow ⟨[], []⟩

def resultRow (g : Grouping) (key : Json) (total : Accumulator) : Document :=
  Document.ofList [("_id", key), (g.output, total.result)]

/-- The rows of all groups; the aggregate of each is looked up under the slot of its key. -/
def run (g : Grouping) (rows : List Document) : List Document :=
  let groups := g.groups rows
  groups.order.filterMap fun key =>
    (Keyed.get? groups.totals (slotText key)).map (g.resultRow key)

end Grouping
end DocAnalytics
