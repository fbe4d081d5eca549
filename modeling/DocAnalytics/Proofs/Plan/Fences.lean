import DocAnalytics.Plan.Request
import DocAnalytics.Proofs.Json.Reading
import DocAnalytics.Proofs.Text.Trim
import Mathlib.Data.List.Basic

/-!
# DocAnalytics.Proofs.Plan.Fences

Which texts are read as plan requests, and what may stand around the JSON object
(`ofText_wrapping`). The two marks of a fence are taken off independently of each other, so an
opening mark is accepted without a closing one, and the other way round; blanks may stand everywhere
around the marks and the object. Whatever stands around it, an object is read as it is read bare.
-/

namespace DocAnalytics

namespace Text

theorem afterLead?_eq_some_iff {lead cs rest : List Char} :
    afterLead? lead cs = some rest ↔ cs = lead ++ rest := by
  induction lead generalizing cs with
  | nil => simp [afterLead?]
  | cons l lead ih =>
    cases cs with
    | nil => simp [afterLead?]
    | cons c cs =>
      by_cases h : l = c
      · simp [afterLead?, h, ih]
      · simp [afterLead?, h, Ne.symm h]

end Text

namespace PlanRequest

open Text (Blank Trimmed trimChars afterLead?)
open Unicode (isBlank)

inductive Opening where
  | bare
  | fence
  | jsonFence
deriving DecidableEq

inductive Closing where
  | bare
  | fence
deriving DecidableEq

def Opening.mark : Opening → List Char
  | .bare => []
  | .fence => PlanRequest.fence
  | .jsonFence => PlanRequest.fence ++ "json".toList

def Closing.mark : Closing → List Char
  | .bare => []
  | .fence => PlanRequest.fence

/-- A text that has `inner` between two marks, with blanks around the marks and inside of them. -/
def Wraps (o : Opening) (c : Closing) (inner cs : List Char) : Prop :=
  ∃ lead left right trail, Blank lead ∧ Blank left ∧ Blank right ∧ Blank trail ∧
    cs = lead ++ (o.mark ++ (left ++ inner ++ right) ++ c.mark) ++ trail

/-- The text of an object by the grammar of JSON. It may have no value, for the depth of its nesting
or the range of its numbers. -/
def IsObjectText (text : String) : Prop :=
  ∃ members, Json.Source.read? text = some (.object members)

/-- The text of an object, bare or between both marks of a fence. -/
def Fenced (text : String) : Prop :=
  ∃ o c j, (o = .bare ↔ c = .bare) ∧ IsObjectText j ∧ Wraps o c j.toList text.toList

/-- A text that begins with a fence exactly if it ends with one, blanks at its ends left aside. -/
def Balanced (text : String) : Prop :=
  fence <+: trimChars text.toList ↔ fence <:+ trimChars text.toList

/-! ## The text of an object -/

/-- A text from an opening to a closing brace. -/
def Braced (cs : List Char) : Prop := ∃ inner, cs = '\x7b' :: (inner ++ ['\x7d'])

theorem Braced.exists_cons {cs : List Char} (h : Braced cs) : ∃ rest, cs = '\x7b' :: rest :=
  h.imp' (· ++ ['\x7d']) fun _ => id

theorem Braced.exists_concat {cs : List Char} (h : Braced cs) : ∃ init, cs = init ++ ['\x7d'] :=
  h.imp' ('\x7b' :: ·) fun _ => id

theorem Braced.trimmed {cs : List Char} (h : Braced cs) : Trimmed cs := by
  constructor
  · obtain ⟨rest, rfl⟩ := h.exists_cons
    intro c hc
    cases hc
    decide
  · obtain ⟨init, rfl⟩ := h.exists_concat
    intro c hc
    rw [List.getLast?_concat] at hc
    cases hc
    decide

theorem isBlank_of_jsonBlank {c : Char} (h : Json.Source.isBlank c = true) : isBlank c = true := by
  simp only [Json.Source.isBlank, Bool.or_eq_true, decide_eq_true_eq] at h
  rcases h with ((h | h) | h) | h <;> subst h <;> decide

theorem IsObjectText.braced {j : String} (h : IsObjectText j) : Braced (trimChars j.toList) := by
  obtain ⟨members, hmembers⟩ := h
  obtain ⟨lead, inner, trail, hlead, htrail, hj⟩ := Json.Source.exists_braces_of_readChars? hmembers
  have hbraced : Braced ('\x7b' :: (inner ++ ['\x7d'])) := ⟨inner, rfl⟩
  have htrim := Text.trimChars_eq_iff.2 ⟨hbraced.trimmed, lead, trail,
    fun c hc => isBlank_of_jsonBlank (hlead c hc), fun c hc => isBlank_of_jsonBlank (htrail c hc),
    hj⟩
  exact htrim ▸ hbraced

/-- A text whose value is an object is the text of one. -/
theorem isObjectText_of_read? {j : String} {d : Document} (h : Json.read? j = some (.object d)) :
    IsObjectText j := by
  obtain ⟨source, hsource, hvalue⟩ := Option.bind_eq_some_iff.1 h
  cases source with
  | object members => exact ⟨members, hsource⟩
  | null => cases hvalue
  | bool b => cases hvalue
  | number l =>
    obtain ⟨_, _, heq⟩ := Option.map_eq_some_iff.1 hvalue
    cases heq
  | string units =>
    obtain ⟨_, _, heq⟩ := Option.map_eq_some_iff.1 hvalue
    cases heq
  | array items =>
    obtain ⟨_, _, heq⟩ := Option.map_eq_some_iff.1 hvalue
    cases heq

/-! ## Marks taken off -/

theorem exists_opening (cs : List Char) : ∃ o : Opening, cs = o.mark ++ dropOpeningFence cs := by
  unfold dropOpeningFence
  split
  · rename_i rest h
    exact ⟨.jsonFence, Text.afterLead?_eq_some_iff.1 h⟩
  · cases h : afterLead? fence cs with
    | none => exact ⟨.bare, rfl⟩
    | some rest => exact ⟨.fence, Text.afterLead?_eq_some_iff.1 h⟩

theorem exists_closing (cs : List Char) : ∃ c : Closing, cs = dropClosingFence cs ++ c.mark := by
  unfold dropClosingFence
  split
  · rename_i rest h
    refine ⟨.fence, ?_⟩
    have hreverse := congrArg List.reverse (Text.afterLead?_eq_some_iff.1 h)
    rw [List.reverse_reverse, List.reverse_append] at hreverse
    exact hreverse
  · exact ⟨.bare, (List.append_nil cs).symm⟩

/-- Behind an opening mark that is no part of a longer one, all is left. -/
theorem dropOpeningFence_mark (o : Opening) {cs : List Char}
    (h : ∀ c ∈ cs.head?, c ≠ '\x60' ∧ c ≠ 'j') : dropOpeningFence (o.mark ++ cs) = cs := by
  cases o with
  | bare =>
    cases cs with
    | nil => rfl
    | cons c cs =>
      have hc : '\x60' ≠ c := (h c rfl).1.symm
      simp [dropOpeningFence, Opening.mark, fence, afterLead?, hc]
  | fence =>
    cases cs with
    | nil => rfl
    | cons c cs =>
      have hc : 'j' ≠ c := (h c rfl).2.symm
      simp [dropOpeningFence, Opening.mark, fence, afterLead?, hc]
  | jsonFence =>
    have hlead : afterLead? (fence ++ "json".toList) (Opening.jsonFence.mark ++ cs) = some cs :=
      Text.afterLead?_eq_some_iff.2 rfl
    simp only [dropOpeningFence, hlead]

theorem dropClosingFence_mark (c : Closing) {cs : List Char} (h : ∀ d ∈ cs.getLast?, d ≠ '\x60') :
    dropClosingFence (cs ++ c.mark) = cs := by
  cases c with
  | bare =>
    have hnone : afterLead? fence cs.reverse = none := by
      cases hreverse : cs.reverse with
      | nil => rfl
      | cons d rest =>
        have hlast : cs.getLast? = some d := by rw [← List.head?_reverse, hreverse]; rfl
        have hd : '\x60' ≠ d := (h d hlast).symm
        simp [fence, afterLead?, hd]
    rw [Closing.mark, List.append_nil, dropClosingFence, hnone]
  | fence =>
    have hsome : afterLead? fence (cs ++ Closing.fence.mark).reverse = some cs.reverse :=
      Text.afterLead?_eq_some_iff.2 List.reverse_append
    simp only [dropClosingFence, hsome, List.reverse_reverse]

/-! ## The core of a text around an object -/

variable {o : Opening} {c : Closing} {inner cs : List Char} {text : String}

/-- `inner` between two marks with blanks inside of them only. -/
def Framed (o : Opening) (c : Closing) (inner core : List Char) : Prop :=
  ∃ front back, Blank front ∧ Blank back ∧ (o = .bare → front = []) ∧ (c = .bare → back = []) ∧
    core = (o.mark ++ front) ++ inner ++ (back ++ c.mark)

/-- Blanks behind the opening mark are blanks in front of it where there is none. -/
theorem exists_front (o : Opening) {lead left : List Char} (hlead : Blank lead)
    (hleft : Blank left) :
    ∃ lead' front, Blank lead' ∧ Blank front ∧ (o = .bare → front = []) ∧
      lead ++ (o.mark ++ left) = lead' ++ (o.mark ++ front) := by
  by_cases h : o = .bare
  · subst h
    exact ⟨lead ++ left, [], hlead.append hleft, Text.blank_nil, fun _ => rfl,
      by simp [Opening.mark]⟩
  · exact ⟨lead, left, hlead, hleft, fun ho => absurd ho h, rfl⟩

theorem exists_back (c : Closing) {right trail : List Char} (hright : Blank right)
    (htrail : Blank trail) :
    ∃ back trail', Blank back ∧ Blank trail' ∧ (c = .bare → back = []) ∧
      (right ++ c.mark) ++ trail = (back ++ c.mark) ++ trail' := by
  by_cases h : c = .bare
  · subst h
    exact ⟨[], right ++ trail, Text.blank_nil, hright.append htrail, fun _ => rfl,
      by simp [Closing.mark]⟩
  · exact ⟨right, trail, hright, htrail, fun hc => absurd hc h, rfl⟩

theorem Framed.head (h : Framed o c inner cs) (hinner : Braced inner) :
    ∀ d ∈ cs.head?, d = if o = .bare then '\x7b' else '\x60' := by
  obtain ⟨front, back, -, -, hfront, -, rfl⟩ := h
  obtain ⟨rest, rfl⟩ := hinner.exists_cons
  intro d hd
  cases o with
  | bare => simpa [Opening.mark, hfront rfl] using hd.symm
  | fence => simpa [Opening.mark, fence] using hd.symm
  | jsonFence => simpa [Opening.mark, fence] using hd.symm

theorem Framed.last (h : Framed o c inner cs) (hinner : Braced inner) :
    ∀ d ∈ cs.getLast?, d = if c = .bare then '\x7d' else '\x60' := by
  obtain ⟨front, back, -, -, -, hback, rfl⟩ := h
  intro d hd
  cases c with
  | bare =>
    obtain ⟨init, rfl⟩ := hinner.exists_concat
    simpa [Closing.mark, hback rfl] using hd.symm
  | fence => simpa [Closing.mark, fence] using hd.symm

theorem Framed.trimmed (h : Framed o c inner cs) (hinner : Braced inner) : Trimmed cs := by
  constructor
  · intro d hd
    rw [h.head hinner d hd]
    split <;> decide
  · intro d hd
    rw [h.last hinner d hd]
    split <;> decide

/-- Trimming leaves the marks and what is between them. -/
theorem Wraps.framed (h : Wraps o c inner cs) (hinner : Braced inner) :
    Framed o c inner (trimChars cs) := by
  obtain ⟨lead, left, right, trail, hlead, hleft, hright, htrail, rfl⟩ := h
  obtain ⟨lead', front, hlead', hfront, hbare, hopen⟩ := exists_front o hlead hleft
  obtain ⟨back, trail', hback, htrail', hbare', hclose⟩ := exists_back c hright htrail
  have hframed : Framed o c inner ((o.mark ++ front) ++ inner ++ (back ++ c.mark)) :=
    ⟨front, back, hfront, hback, hbare, hbare', rfl⟩
  have hcs : lead ++ (o.mark ++ (left ++ inner ++ right) ++ c.mark) ++ trail
      = lead' ++ ((o.mark ++ front) ++ inner ++ (back ++ c.mark)) ++ trail' := calc
    _ = (lead ++ (o.mark ++ left)) ++ inner ++ ((right ++ c.mark) ++ trail) := by
      simp only [List.append_assoc]
    _ = (lead' ++ (o.mark ++ front)) ++ inner ++ ((back ++ c.mark) ++ trail') := by
      rw [hopen, hclose]
    _ = _ := by simp only [List.append_assoc]
  rw [Text.trimChars_eq_iff.2 ⟨hframed.trimmed hinner, lead', trail', hlead', htrail', hcs⟩]
  exact hframed

/-- Blanks at the ends of what is wrapped belong to the wrapping. -/
theorem Wraps.trim (h : Wraps o c inner cs) : Wraps o c (trimChars inner) cs := by
  obtain ⟨lead, left, right, trail, hlead, hleft, hright, htrail, rfl⟩ := h
  obtain ⟨before, after, hbefore, hafter, hinner⟩ := Text.exists_trimChars inner
  refine ⟨lead, left ++ before, after ++ right, trail, hlead, hleft.append hbefore,
    hafter.append hright, htrail, ?_⟩
  conv_lhs => rw [hinner]
  simp only [List.append_assoc]

/-! ## Fences at the ends -/

theorem Framed.fence_prefix_iff (h : Framed o c inner cs) (hinner : Braced inner) :
    fence <+: cs ↔ o ≠ .bare := by
  constructor
  · rintro ⟨rest, rfl⟩ rfl
    exact absurd (h.head hinner '\x60' rfl) (by decide)
  · intro ho
    obtain ⟨front, back, -, -, -, -, rfl⟩ := h
    simp only [List.append_assoc]
    cases o with
    | bare => exact absurd rfl ho
    | fence => exact List.prefix_append _ _
    | jsonFence => exact (List.prefix_append fence _).trans (List.prefix_append _ _)

theorem Framed.fence_suffix_iff (h : Framed o c inner cs) (hinner : Braced inner) :
    fence <:+ cs ↔ c ≠ .bare := by
  constructor
  · rintro ⟨rest, rfl⟩ rfl
    exact absurd (h.last hinner '\x60' (by simp [fence])) (by decide)
  · intro hc
    obtain ⟨front, back, -, -, -, -, rfl⟩ := h
    rw [← List.append_assoc]
    cases c with
    | bare => exact absurd rfl hc
    | fence => exact List.suffix_append _ _

/-- A text around an object begins and ends with the marks that it has. -/
theorem Wraps.balanced_iff {j : String} (h : Wraps o c j.toList text.toList)
    (hj : IsObjectText j) : Balanced text ↔ (o = .bare ↔ c = .bare) := by
  have hframed := h.trim.framed hj.braced
  rw [Balanced, hframed.fence_prefix_iff hj.braced, hframed.fence_suffix_iff hj.braced,
    not_iff_not]

theorem Fenced.balanced (h : Fenced text) : Balanced text := by
  obtain ⟨o, c, j, hmarks, hj, hwraps⟩ := h
  exact (hwraps.balanced_iff hj).2 hmarks

/-! ## The fence taken off -/

theorem exists_wraps_stripFence (text : String) :
    ∃ o c, Wraps o c (stripFence text).toList text.toList := by
  obtain ⟨lead, trail, hlead, htrail, htext⟩ := Text.exists_trimChars text.toList
  obtain ⟨o, ho⟩ := exists_opening (trimChars text.toList)
  obtain ⟨c, hc⟩ := exists_closing (dropOpeningFence (trimChars text.toList))
  obtain ⟨left, right, hleft, hright, hbody⟩ :=
    Text.exists_trimChars (dropClosingFence (dropOpeningFence (trimChars text.toList)))
  refine ⟨o, c, lead, left, right, trail, hlead, hleft, hright, htrail, ?_⟩
  rw [stripFence, String.toList_ofList, ← hbody, List.append_assoc o.mark, ← hc, ← ho, ← htext]

theorem trimmed_stripFence (text : String) : Trimmed (stripFence text).toList := by
  rw [stripFence, String.toList_ofList]
  exact Text.trimmed_trimChars _

/-- Neither end of what is between the marks can be taken for a part of a mark. -/
theorem dropFences_framed {front back : List Char} (hfront : Blank front) (hback : Blank back)
    (hinner : Braced inner) :
    dropClosingFence (dropOpeningFence ((o.mark ++ front) ++ inner ++ (back ++ c.mark)))
      = front ++ inner ++ back := by
  have hopen : ∀ d ∈ (front ++ (inner ++ (back ++ c.mark))).head?, d ≠ '\x60' ∧ d ≠ 'j' := by
    obtain ⟨rest, rfl⟩ := hinner.exists_cons
    intro d hd
    cases front with
    | nil =>
      cases hd
      decide
    | cons f front =>
      have hblank : isBlank d = true := hfront d (by simpa using Or.inl hd.symm)
      constructor <;> rintro rfl <;> exact absurd hblank (by decide)
  have hclose : ∀ d ∈ (front ++ inner ++ back).getLast?, d ≠ '\x60' := by
    intro d hd
    rcases List.eq_nil_or_concat back with rfl | ⟨blanks, b, rfl⟩
    · obtain ⟨init, rfl⟩ := hinner.exists_concat
      have hlast : d = '\x7d' := by simpa using hd.symm
      subst hlast
      decide
    · have hlast : d = b := by simpa using hd.symm
      have hblank : isBlank d = true := hback d (by simp [hlast])
      rintro rfl
      exact absurd hblank (by decide)
  rw [List.append_assoc, List.append_assoc o.mark, dropOpeningFence_mark o hopen,
    ← List.append_assoc, ← List.append_assoc, dropClosingFence_mark c hclose]

/-- Whatever stands around an object, its text is what is left. -/
theorem stripFence_of_wraps {j : String} (hj : IsObjectText j)
    (h : Wraps o c j.toList text.toList) : stripFence text = Text.trim j := by
  obtain ⟨front, back, hfront, hback, -, -, hcore⟩ := h.trim.framed hj.braced
  rw [stripFence, hcore, dropFences_framed hfront hback hj.braced,
    Text.trimChars_append hfront hback, Text.trimChars_of_trimmed hj.braced.trimmed, Text.trim]

theorem wraps_bare (text : String) : Wraps .bare .bare text.toList text.toList :=
  ⟨[], [], [], [], Text.blank_nil, Text.blank_nil, Text.blank_nil, Text.blank_nil,
    by simp [Opening.mark, Closing.mark]⟩

/-! ## Reading -/

theorem ofText_eq_ok_iff {r : PlanRequest} :
    ofText text = .ok r ↔ ∃ d, Json.read? (stripFence text) = some (.object d) ∧
      ofJson (.object d) = .ok r := by
  unfold ofText
  constructor
  · intro h
    split at h
    · cases h
    · rename_i value hvalue
      cases value with
      | object d => exact ⟨d, hvalue, h⟩
      | null => cases h
      | bool => cases h
      | number => cases h
      | string => cases h
      | array => cases h
  · rintro ⟨d, hd, h⟩
    rw [hd]
    exact h

/-- A text that is read is an object with an opening mark or none in front of it and a closing mark
or none behind it. -/
theorem ofText_eq_ok_iff_wraps {r : PlanRequest} :
    ofText text = .ok r ↔ ∃ o c j d, Wraps o c j.toList text.toList ∧ Trimmed j.toList ∧
      Json.read? j = some (.object d) ∧ ofJson (.object d) = .ok r := by
  rw [ofText_eq_ok_iff]
  constructor
  · rintro ⟨d, hd, hr⟩
    obtain ⟨o, c, hwraps⟩ := exists_wraps_stripFence text
    exact ⟨o, c, stripFence text, d, hwraps, trimmed_stripFence text, hd, hr⟩
  · rintro ⟨o, c, j, d, hwraps, htrimmed, hd, hr⟩
    have hstrip : stripFence text = j := by
      rw [stripFence_of_wraps (isObjectText_of_read? hd) hwraps, Text.trim,
        Text.trimChars_of_trimmed htrimmed, String.ofList_toList]
    exact ⟨d, hstrip ▸ hd, hr⟩

theorem fenced_iff_balanced {r : PlanRequest} (h : ofText text = .ok r) :
    Fenced text ↔ Balanced text := by
  refine ⟨Fenced.balanced, fun hbalanced => ?_⟩
  obtain ⟨o, c, j, d, hwraps, -, hd, -⟩ := ofText_eq_ok_iff_wraps.1 h
  have hj := isObjectText_of_read? hd
  exact ⟨o, c, j, (hwraps.balanced_iff hj).1 hbalanced, hj, hwraps⟩

theorem ofText_of_wraps {j : String} (hj : IsObjectText j) (h : Wraps o c j.toList text.toList) :
    ofText text = ofText j := by
  unfold ofText
  rw [stripFence_of_wraps hj h, stripFence_of_wraps hj (wraps_bare j)]

/-- Which texts are read, and what the wrapping counts for. A text is read exactly if it is, but for
blanks, an object that is read, with an opening mark or none in front of it and a closing mark or
none behind it; it has both marks or none exactly if it begins with a fence just when it ends with
one. All that stands around the text of an object is taken off, so that it gives the same request or
the same error as the bare text. -/
theorem ofText_wrapping (text : String) :
    (∀ r, ofText text = .ok r ↔ ∃ o c j d, Wraps o c j.toList text.toList ∧ Trimmed j.toList ∧
      Json.read? j = some (.object d) ∧ ofJson (.object d) = .ok r) ∧
    (∀ r, ofText text = .ok r → (Fenced text ↔ Balanced text)) ∧
    ∀ o c j, IsObjectText j → Wraps o c j.toList text.toList →
      stripFence text = Text.trim j ∧ ofText text = ofText j :=
  ⟨fun _ => ofText_eq_ok_iff_wraps, fun _ h => fenced_iff_balanced h,
    fun _ _ _ hj h => ⟨stripFence_of_wraps hj h, ofText_of_wraps hj h⟩⟩

theorem ofText_wrapping_json_fence :
    ofText "```json\n\x7b\"operation\":\"count\"\x7d\n```" = .ok ⟨"count", none, none, none⟩ ∧
    Fenced "```json\n\x7b\"operation\":\"count\"\x7d\n```" ∧
    ofText "```json\n\x7b\"operation\":\"count\"\x7d\n```"
      = ofText "\x7b\"operation\":\"count\"\x7d" := by
  have hvalue : Json.read? "\x7b\"operation\":\"count\"\x7d"
      = some (.object [("operation", .string "count")]) := by decide +kernel
  have htrimmed : Trimmed "\x7b\"operation\":\"count\"\x7d".toList :=
    Braced.trimmed ⟨"\"operation\":\"count\"".toList, by decide⟩
  have hwraps : Wraps .jsonFence .fence "\x7b\"operation\":\"count\"\x7d".toList
      "```json\n\x7b\"operation\":\"count\"\x7d\n```".toList :=
    ⟨[], ['\n'], ['\n'], [], Text.blank_nil, Text.blank_singleton (by decide),
      Text.blank_singleton (by decide), Text.blank_nil, by decide +kernel⟩
  have hread : ofText "```json\n\x7b\"operation\":\"count\"\x7d\n```"
      = .ok ⟨"count", none, none, none⟩ :=
    ((ofText_wrapping _).1 _).2 ⟨_, _, _, _, hwraps, htrimmed, hvalue, by decide +kernel⟩
  exact ⟨hread, ((ofText_wrapping _).2.1 _ hread).2 (by unfold Balanced; decide +kernel),
    ((ofText_wrapping _).2.2 _ _ _ (isObjectText_of_read? hvalue) hwraps).2⟩

/-- A closing mark is taken off without an opening one. -/
theorem unopened_fence_read :
    ofText "\x7b\"operation\":\"count\"\x7d```" = .ok ⟨"count", none, none, none⟩ ∧
    ¬ Fenced "\x7b\"operation\":\"count\"\x7d```" := by
  refine ⟨by decide +kernel, fun h => ?_⟩
  have hbalanced := h.balanced
  revert hbalanced
  unfold Balanced
  decide +kernel

end PlanRequest
end DocAnalytics
