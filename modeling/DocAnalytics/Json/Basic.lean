import DocAnalytics.Json.Number
import DocAnalytics.Keyed

/-!
# DocAnalytics.Json.Basic

JSON values and documents. The members of an object are a table with ascending keys
(`DocAnalytics.Keyed`), so that equal objects are equal lists.

`Json.same` is equality of structure in which two doubles are equal by value.
-/

namespace DocAnalytics

inductive Json where
  | null
  | bool (b : Bool)
  | number (n : Json.Number)
  | string (s : String)
  | array (items : List Json)
  | object (members : List (String × Json))
deriving Inhabited, Repr

/-- The members of a JSON object, by ascending key. Documents and result rows are such objects and
have no fixed schema. -/
abbrev Document := List (String × Json)

namespace Json

def ofInt (n : Int) : Json := .number (.ofInt n)

def ofNat (n : Nat) : Json := .number (.ofNat n)

def ofStrings (texts : List String) : Json := .array (texts.map .string)

/-- A text, or null for none. -/
def ofString? : Option String → Json
  | none => .null
  | some s => .string s

def isNull : Json → Bool
  | .null => true
  | _ => false

def isArray : Json → Bool
  | .array _ => true
  | _ => false

def string? : Json → Option String
  | .string s => some s
  | _ => none

def bool? : Json → Option Bool
  | .bool b => some b
  | _ => none

def array? : Json → Option (List Json)
  | .array items => some items
  | _ => none

def object? : Json → Option Document
  | .object members => some members
  | _ => none

/-- The double nearest to a number; other values have none, also texts that read as numbers. -/
def double? : Json → Option Binary64.Finite
  | .number n => some n.toDouble
  | _ => none

mutual

/-- Equality of structure, doubles by value. -/
def same : Json → Json → Bool
  | .null, .null => true
  | .bool a, .bool b => a == b
  | .number a, .number b => a.same b
  | .string a, .string b => a == b
  | .array a, .array b => sameItems a b
  | .object a, .object b => sameMembers a b
  | _, _ => false

def sameItems : List Json → List Json → Bool
  | [], [] => true
  | a :: as, b :: bs => same a b && sameItems as bs
  | _, _ => false

def sameMembers : List (String × Json) → List (String × Json) → Bool
  | [], [] => true
  | (k, a) :: as, (l, b) :: bs => k == l && same a b && sameMembers as bs
  | _, _ => false

end

mutual

/-- Identity of values, decided. -/
def identical : Json → Json → Bool
  | .null, .null => true
  | .bool a, .bool b => a == b
  | .number a, .number b => a == b
  | .string a, .string b => a == b
  | .array a, .array b => identicalItems a b
  | .object a, .object b => identicalMembers a b
  | _, _ => false

def identicalItems : List Json → List Json → Bool
  | [], [] => true
  | a :: as, b :: bs => identical a b && identicalItems as bs
  | _, _ => false

def identicalMembers : List (String × Json) → List (String × Json) → Bool
  | [], [] => true
  | (k, a) :: as, (l, b) :: bs => k == l && identical a b && identicalMembers as bs
  | _, _ => false

end

mutual

theorem identical_self : ∀ a : Json, identical a a = true
  | .null => rfl
  | .bool _ => by simp [identical]
  | .number _ => by simp [identical]
  | .string _ => by simp [identical]
  | .array as => by simp [identical, identicalItems_self as]
  | .object as => by simp [identical, identicalMembers_self as]

theorem identicalItems_self : ∀ as : List Json, identicalItems as as = true
  | [] => rfl
  | a :: as => by simp [identicalItems, identical_self a, identicalItems_self as]

theorem identicalMembers_self : ∀ as : List (String × Json), identicalMembers as as = true
  | [] => rfl
  | (_, a) :: as => by simp [identicalMembers, identical_self a, identicalMembers_self as]

end

mutual

theorem eq_of_identical : ∀ {a b : Json}, identical a b = true → a = b
  | .null, b, h => by cases b <;> simp [identical] at h ⊢
  | .bool _, b, h => by cases b <;> simp [identical] at h ⊢; exact h
  | .number _, b, h => by cases b <;> simp [identical] at h ⊢; exact h
  | .string _, b, h => by cases b <;> simp [identical] at h ⊢; exact h
  | .array as, b, h => by
    cases b <;> simp [identical] at h ⊢
    exact eq_of_identicalItems h
  | .object as, b, h => by
    cases b <;> simp [identical] at h ⊢
    exact eq_of_identicalMembers h

theorem eq_of_identicalItems : ∀ {as bs : List Json}, identicalItems as bs = true → as = bs
  | [], bs, h => by cases bs <;> simp [identicalItems] at h ⊢
  | a :: as, bs, h => by
    cases bs with
    | nil => simp [identicalItems] at h
    | cons b bs =>
      simp only [identicalItems, Bool.and_eq_true] at h
      rw [eq_of_identical h.1, eq_of_identicalItems h.2]

theorem eq_of_identicalMembers : ∀ {as bs : List (String × Json)},
    identicalMembers as bs = true → as = bs
  | [], bs, h => by cases bs <;> simp [identicalMembers] at h ⊢
  | (k, a) :: as, bs, h => by
    cases bs with
    | nil => simp [identicalMembers] at h
    | cons b bs =>
      simp only [identicalMembers, Bool.and_eq_true, beq_iff_eq] at h
      rw [h.1.1, eq_of_identical h.1.2, eq_of_identicalMembers h.2]

end

theorem identical_iff {a b : Json} : identical a b = true ↔ a = b :=
  ⟨eq_of_identical, fun h => h ▸ identical_self a⟩

instance : DecidableEq Json := fun _ _ => decidable_of_iff _ identical_iff

end Json

namespace Document

abbrev get? (d : Document) (key : String) : Option Json := Keyed.get? d key

abbrev insert (key : String) (value : Json) (d : Document) : Document := Keyed.insert key value d

/-- The object with the given members; of a repeated key the last value counts. -/
abbrev ofList (members : List (String × Json)) : Document := Keyed.ofList members

end Document

def Json.ofMembers (members : List (String × Json)) : Json := .object (Document.ofList members)

end DocAnalytics
