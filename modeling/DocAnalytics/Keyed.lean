/-!
# DocAnalytics.Keyed

Tables from texts to values: lists of key and value in ascending order of keys. `Keyed.insert` keeps
the order, and reading back is described by `get?_insert_self` and `get?_insert_of_ne`, for a whole
list of members by `get?_ofList`.
-/

namespace DocAnalytics
namespace Keyed

def get? {α : Type} (m : List (String × α)) (key : String) : Option α := List.lookup key m

/-- Sets the value of a key, in place if the key is there and in order if it is not. -/
def insert {α : Type} (key : String) (value : α) : List (String × α) → List (String × α)
  | [] => [(key, value)]
  | (k, v) :: rest =>
    if key = k then (key, value) :: rest
    else if key < k then (key, value) :: (k, v) :: rest
    else (k, v) :: insert key value rest

/-- The table of a list of members; of a repeated key the last value counts. -/
def ofList {α : Type} (members : List (String × α)) : List (String × α) :=
  members.foldl (fun m member => insert member.1 member.2 m) []

def keys {α : Type} (m : List (String × α)) : List String := m.map Prod.fst

/-- Ascending keys, each once: the order that `insert` keeps. -/
def Sorted {α : Type} (m : List (String × α)) : Prop := (keys m).Pairwise (· < ·)

/-- The value just set is the value read back. -/
theorem get?_insert_self {α : Type} (key : String) (value : α) (m : List (String × α)) :
    get? (insert key value m) key = some value := by
  induction m with
  | nil => simp [insert, get?]
  | cons member rest ih =>
    obtain ⟨k, v⟩ := member
    unfold insert
    split
    · simp [get?]
    · split
      · simp [get?]
      · rename_i hne _
        have : (key == k) = false := by simpa using hne
        simpa [get?, List.lookup_cons, this] using ih

/-- Setting one key leaves the others. -/
theorem get?_insert_of_ne {α : Type} {key other : String} (h : other ≠ key) (value : α)
    (m : List (String × α)) : get? (insert key value m) other = get? m other := by
  have hne : (other == key) = false := by simpa using h
  induction m with
  | nil => simp [insert, get?, List.lookup_cons, hne]
  | cons member rest ih =>
    obtain ⟨k, v⟩ := member
    unfold insert
    split
    · rename_i hk
      subst hk
      simp [get?, List.lookup_cons, hne]
    · split
      · simp [get?, List.lookup_cons, hne]
      · by_cases hok : (other == k) = true
        · simp [get?, List.lookup_cons, hok]
        · have hok : (other == k) = false := by simpa using hok
          simpa [get?, List.lookup_cons, hok] using ih

theorem get?_eq_none {α : Type} {m : List (String × α)} {key : String} (h : key ∉ keys m) :
    get? m key = none := by
  rw [get?, List.lookup_eq_none_iff]
  intro member hmember
  have hne : key ≠ member.1 := fun heq => h (List.mem_map.2 ⟨member, hmember, heq.symm⟩)
  simpa using hne

/-- A table holds the members of its list, if no key is repeated. -/
theorem get?_foldl_insert {α : Type} {members : List (String × α)} (h : (keys members).Nodup)
    (m : List (String × α)) (key : String) :
    get? (members.foldl (fun m member => insert member.1 member.2 m) m) key =
      (members.lookup key).or (get? m key) := by
  induction members generalizing m with
  | nil => rfl
  | cons member members ih =>
    obtain ⟨k, v⟩ := member
    obtain ⟨hk, hrest⟩ := List.nodup_cons.1 h
    rw [List.foldl_cons, ih hrest, List.lookup_cons]
    by_cases hkey : key = k
    · subst hkey
      have hlookup : members.lookup key = none := get?_eq_none hk
      simp [hlookup, get?_insert_self]
    · have hbeq : (key == k) = false := by simpa using hkey
      rw [hbeq, get?_insert_of_ne hkey]

theorem get?_ofList {α : Type} {members : List (String × α)} (h : (keys members).Nodup)
    (key : String) : get? (ofList members) key = members.lookup key := by
  rw [ofList, get?_foldl_insert h]
  exact Option.or_none

end Keyed
end DocAnalytics
