import DocAnalytics.Json.Reader

/-!
# DocAnalytics.Json.Fields

JSON texts that hold a record of known fields: an object with each of them at most once, beside
which other keys may stand with any value, or an array with the values of all of them in order.
-/

namespace DocAnalytics
namespace Json
namespace Source

/-- The members of an object that are known, none of which may be repeated. -/
def knownMembers? (known : List String) :
    List (List Nat × Source) → Option (List (String × Source))
  | [] => some []
  | (key, value) :: rest =>
    match text? key, knownMembers? known rest with
    | some name, some members =>
      if !known.contains name then some members
      else if (members.map Prod.fst).contains name then none
      else some ((name, value) :: members)
    | _, _ => none

def fields? (known : List String) : Source → Option (List (String × Source))
  | .object members => knownMembers? known members
  | .array items => if items.length = known.length then some (known.zip items) else none
  | _ => none

end Source
end Json
end DocAnalytics
