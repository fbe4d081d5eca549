import DocAnalytics.Proofs.Pipeline.Boundaries

/-!
# DocAnalytics.Proofs.Pipeline.EqualFrequency

How even buckets are. Each slice takes its share of what is left, rounded up; where no neighbours
are equal it takes no more than that, and the sizes are those of an even division: the remainder is
spread over the slices in front, one value each (`map_length_slices`).
-/

namespace DocAnalytics
namespace Bucket

/-- The sizes of parts of a count that differ by one at most, the larger ones first. -/
def evenSizes (count parts : Nat) : List Nat :=
  List.replicate (count % parts) (count / parts + 1) ++
    List.replicate (parts - count % parts) (count / parts)

/-! ## Shares -/

theorem share_pos {count : Nat} (h : 0 < count) (buckets : Nat) : 0 < share count buckets :=
  Nat.div_pos (by omega) (by omega)

theorem share_exact {parts : Nat} (h : 0 < parts) (size : Nat) :
    share (parts * size) parts = size := by
  have hmax : max parts 1 = parts := by omega
  have hsum : parts * size + parts - 1 = parts - 1 + parts * size := by omega
  rw [share, hmax, hsum, Nat.add_mul_div_left _ _ h, Nat.div_eq_of_lt (by omega), Nat.zero_add]

theorem share_of_remainder {parts rest : Nat} (hrest : 0 < rest) (hlt : rest < parts)
    (size : Nat) : share (parts * size + rest) parts = size + 1 := by
  have hmax : max parts 1 = parts := by omega
  have hsum : parts * size + rest + parts - 1 = rest - 1 + parts * (size + 1) := by
    rw [Nat.mul_succ]
    omega
  rw [share, hmax, hsum, Nat.add_mul_div_left _ _ (by omega), Nat.div_eq_of_lt (by omega),
    Nat.zero_add]

/-- Buckets beyond the number of values make no difference. -/
theorem share_min {count : Nat} (h : 0 < count) (buckets : Nat) :
    share count (min count buckets) = share count buckets := by
  by_cases hle : buckets ≤ count
  · rw [Nat.min_eq_right hle]
  · have hone : share (count * 1) count = 1 := share_exact h 1
    have hmax : max buckets 1 = buckets := by omega
    have hsum : count + buckets - 1 = count - 1 + buckets * 1 := by omega
    rw [Nat.mul_one] at hone
    rw [Nat.min_eq_left (by omega), hone, share, hmax, hsum, Nat.add_mul_div_left _ _ (by omega),
      Nat.div_eq_of_lt (by omega)]

/-- A share leaves a value for each of the other parts. -/
theorem share_add_le {count parts : Nat} (h : parts + 1 ≤ count) :
    share count (parts + 1) + parts ≤ count := by
  obtain ⟨more, rfl⟩ := Nat.exists_eq_add_of_le h
  have hmax : max (parts + 1) 1 = parts + 1 := by omega
  have hlt : share (parts + 1 + more) (parts + 1) < more + 2 := by
    have hmore : more * 1 ≤ more * (parts + 1) := Nat.mul_le_mul_left more (by omega)
    rw [share, hmax, Nat.div_lt_iff_lt_mul (show 0 < parts + 1 by omega), Nat.add_mul]
    omega
  omega

/-! ## Even divisions -/

theorem evenSizes_mul_add {parts rest : Nat} (h : rest < parts) (size : Nat) :
    evenSizes (parts * size + rest) parts =
      List.replicate rest (size + 1) ++ List.replicate (parts - rest) size := by
  have hdiv : (parts * size + rest) / parts = size := by
    rw [Nat.mul_add_div (by omega), Nat.div_eq_of_lt h, Nat.add_zero]
  have hmod : (parts * size + rest) % parts = rest := by
    rw [Nat.mul_add_mod, Nat.mod_eq_of_lt h]
  rw [evenSizes, hdiv, hmod]

theorem length_evenSizes (count : Nat) {buckets : Nat} (h : 1 ≤ buckets) :
    (evenSizes count (min count buckets)).length = min count buckets := by
  have hle : count % min count buckets ≤ min count buckets := by
    rcases Nat.eq_zero_or_pos count with rfl | hcount
    · rw [Nat.zero_mod]
      exact Nat.zero_le _
    · exact (Nat.mod_lt count (by omega)).le
  rw [evenSizes, List.length_append, List.length_replicate, List.length_replicate]
  omega

/-- The first part is the share of one of the parts, and the others divide the rest evenly. -/
theorem evenSizes_succ (count parts : Nat) :
    evenSizes count (parts + 1) =
      share count (parts + 1) :: evenSizes (count - share count (parts + 1)) parts := by
  obtain ⟨size, rest, hlt, rfl⟩ :
      ∃ size rest, rest < parts + 1 ∧ count = (parts + 1) * size + rest :=
    ⟨count / (parts + 1), count % (parts + 1), Nat.mod_lt _ (Nat.succ_pos parts),
      (Nat.div_add_mod count (parts + 1)).symm⟩
  rw [evenSizes_mul_add hlt]
  cases rest with
  | zero =>
    have hleft : (parts + 1) * size - size = parts * size := by
      rw [Nat.succ_mul, Nat.add_sub_cancel]
    have hcount : (parts + 1) * size + 0 = (parts + 1) * size := Nat.add_zero _
    rw [hcount, share_exact (Nat.succ_pos parts), hleft]
    cases parts with
    | zero =>
      rw [Nat.zero_mul]
      rfl
    | succ parts =>
      have heven := evenSizes_mul_add (Nat.succ_pos parts) size
      rw [Nat.add_zero] at heven
      rw [heven]
      rfl
  | succ rest =>
    have hleft : (parts + 1) * size + (rest + 1) - (size + 1) = parts * size + rest := by
      rw [Nat.succ_mul]
      omega
    rw [share_of_remainder (Nat.succ_pos rest) hlt, hleft, evenSizes_mul_add (by omega),
      Nat.add_sub_add_right]
    rfl

/-! ## Slices without ties -/

/-- Where no neighbours are equal a slice ends with the values that it asked for. -/
theorem cut_of_differ {more : Nat} {last : Json} {vs : List Json}
    (h : (last :: vs).IsChain Differ) : cut more last vs = (vs.take more, vs.drop more) := by
  induction vs generalizing more last with
  | nil => cases more <;> rfl
  | cons v vs ih =>
    obtain ⟨hdiffer, hrest⟩ := List.isChain_cons_cons.1 h
    cases more with
    | zero =>
      rw [cut, if_neg (differ_iff.1 hdiffer)]
      rfl
    | succ more =>
      rw [cut, ih hrest]
      rfl

/-- By induction on the slices: each takes a share, and an even division of the rest is left. -/
theorem map_length_slices {buckets : Nat} {vs : List Json} (h : vs = [] ∨ 1 ≤ buckets)
    (hdiffer : vs.IsChain Differ) :
    (slices buckets vs).map List.length = evenSizes vs.length (min vs.length buckets) := by
  induction buckets, vs using slices.induct with
  | case1 buckets =>
    rw [slices, List.length_nil, Nat.zero_min]
    rfl
  | case2 buckets v vs parts ih =>
    have hbuckets : 1 ≤ buckets := h.resolve_left (List.cons_ne_nil v vs)
    have hparts : parts = _ := cut_of_differ hdiffer
    have hsize : 0 < share (vs.length + 1) buckets := share_pos (Nat.succ_pos _) buckets
    -- As many slices come behind this one as there are buckets or values for them.
    obtain ⟨behind, hbehind⟩ : ∃ n, min (vs.length + 1) buckets = n + 1 :=
      ⟨min (vs.length + 1) buckets - 1, by omega⟩
    have hshare : share (vs.length + 1) (behind + 1) = share (vs.length + 1) buckets := by
      rw [← hbehind, share_min (Nat.succ_pos vs.length)]
    have hroom : share (vs.length + 1) buckets + behind ≤ vs.length + 1 := by
      rw [← hshare]
      exact share_add_le (by omega)
    have hfirst : (v :: parts.1).length = share (vs.length + 1) buckets := by
      rw [hparts, List.length_cons, List.length_take]
      omega
    have hrest : parts.2.length = vs.length + 1 - share (vs.length + 1) buckets := by
      rw [hparts, List.length_drop]
      omega
    have hdiffer' : parts.2.IsChain Differ := by
      rw [hparts]
      exact (List.isChain_cons.1 hdiffer).2.drop _
    have hleft : parts.2 = [] ∨ 1 ≤ buckets - 1 := by
      by_cases hlast : buckets ≤ 1
      · rw [share_of_le_one hlast, Nat.sub_self] at hrest
        exact .inl (List.length_eq_zero_iff.1 hrest)
      · exact .inr (by omega)
    have hmin : min parts.2.length (buckets - 1) = behind := by omega
    rw [slices, List.map_cons, hfirst, ih hleft hdiffer', hmin, hrest, List.length_cons,
      hbehind, evenSizes_succ, hshare]

/-- Numbers of which no neighbours are equal are spread over the buckets as evenly as can be, the
larger buckets first; no bucket stays empty. -/
theorem run_bucketAuto_even (rows : List Document) (field : String) {buckets : Nat}
    (h : 1 ≤ buckets) (hdiffer : (sortValues (numbersOf field rows)).IsChain Differ) :
    let n := rows.countP (hasNumber field)
    let k := min n buckets
    ∃ out, (Stage.bucketAuto field buckets).run rows = .ok out ∧ out.length = k ∧
      out.map (·.at? "count") =
        (List.replicate (n % k) (n / k + 1) ++ List.replicate (k - n % k) (n / k)).map
          fun size => some (Json.ofNat size) := by
  intro n k
  have hbuckets : buckets ≠ 0 := by omega
  have hlength : (sortValues (numbersOf field rows)).length = n := by
    rw [length_sortValues, length_numbersOf]
  have hsizes := map_length_slices (.inr h) hdiffer
  rw [hlength] at hsizes
  refine ⟨run field buckets rows, ?_, ?_, ?_⟩
  · rw [Stage.run, if_neg hbuckets]
  · rw [run, length_rowsOf, ← List.length_map (f := List.length), hsizes]
    exact length_evenSizes n h
  · rw [run, map_count_rowsOf, ← evenSizes, ← hsizes, List.map_map]
    rfl

/-- Five numbers in three buckets. -/
theorem run_bucketAuto_even_five :
    let rows := [Json.ofNat 30, .number (.float (.nearestInt 7)), .string "8", Json.ofNat 20,
      Json.ofNat 5, Json.ofNat 7000].map fun v => Document.ofList [("v", v)]
    1 ≤ 3 ∧ (sortValues (numbersOf "v" rows)).IsChain Differ ∧
      ∃ out, (Stage.bucketAuto "v" 3).run rows = .ok out ∧
        out.map (·.at? "count") = [2, 2, 1].map fun size => some (Json.ofNat size) := by
  intro rows
  have hdiffer : (sortValues (numbersOf "v" rows)).IsChain Differ := by decide +kernel
  have hfive : rows.countP (hasNumber "v") = 5 := by decide +kernel
  obtain ⟨out, hrun, -, hcount⟩ := run_bucketAuto_even rows "v" (show 1 ≤ 3 by decide) hdiffer
  rw [hfive] at hcount
  exact ⟨by decide, hdiffer, out, hrun, hcount⟩

end Bucket
end DocAnalytics
