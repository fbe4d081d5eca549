import DocAnalytics.Proofs.Binary64.ReadBack
import DocAnalytics.Proofs.Json.Printing
import DocAnalytics.Value.Order

/-!
# DocAnalytics.Proofs.Json.Texts

JSON text says everything about a value: values with one text are one value (`compact_inj`). Where a
text ends can be told from the text and the character behind it, so in a row of items each is found
again (`compactChars_append`). The first character tells the kind of a value, a quoted text and a
bracket end where they are closed, and a number ends with the last character that can stand in one.
-/

namespace DocAnalytics
namespace Json

variable {s t : List Char}

/-! ## Numbers -/

def isNumberChar (c : Char) : Bool := c.isDigit || c = '-' || c = '+' || c = '.' || c = 'e'

/-- What can stand behind a number. -/
def Stops (cs : List Char) : Prop := ∀ c ∈ cs.head?, isNumberChar c = false

theorem isNumberChar_of_isDigit {c : Char} (h : c.isDigit = true) : isNumberChar c = true := by
  simp [isNumberChar, h]

namespace Number

open Binary64 (intChars positionalChars exponentChars Finite)

theorem mem_intChars {n : Int} {c : Char} (h : c ∈ intChars n) : c = '-' ∨ c.isDigit = true := by
  unfold intChars at h
  split at h
  · rcases List.mem_cons.1 h with rfl | h
    · exact .inl rfl
    · exact .inr (Text.isDigit_of_mem_toDigits h)
  · exact .inr (Text.isDigit_of_mem_toDigits h)

theorem intChars_inj {m n : Int} (h : intChars m = intChars n) : m = n := by
  have hread := Binary64.exponentOf?_intChars m
  rw [h, Binary64.exponentOf?_intChars n, Option.some.injEq] at hread
  exact hread.symm

theorem mem_positionalChars {digits : List Char} {point : Int} {c : Char}
    (h : c ∈ positionalChars true digits point) : c ∈ digits ∨ c = '0' ∨ c = '.' := by
  unfold positionalChars at h
  split at h
  · rcases List.mem_append.1 h with hlead | hdigits
    · rcases List.mem_append.1 hlead with hpoint | hzeros
      · rcases List.mem_pair.1 hpoint with hzero | hpoint
        · exact .inr (.inl hzero)
        · exact .inr (.inr hpoint)
      · exact .inr (.inl (List.eq_of_mem_replicate hzeros))
    · exact .inl hdigits
  · split at h
    · rcases List.mem_append.1 h with hwhole | hpoint
      · rcases List.mem_append.1 hwhole with hdigits | hzeros
        · exact .inl hdigits
        · exact .inr (.inl (List.eq_of_mem_replicate hzeros))
      · rcases List.mem_pair.1 hpoint with hpoint | hzero
        · exact .inr (.inr hpoint)
        · exact .inr (.inl hzero)
    · rcases List.mem_append.1 h with hwhole | hrest
      · exact .inl (List.mem_of_mem_take hwhole)
      · rcases List.mem_cons.1 hrest with hpoint | hdigits
        · exact .inr (.inr hpoint)
        · exact .inl (List.mem_of_mem_drop hdigits)

theorem mem_exponentChars {digits : List Char} {point : Int} {c : Char}
    (h : c ∈ exponentChars digits point) :
    c ∈ digits ∨ c = '0' ∨ c = '.' ∨ c = 'e' ∨ c = '+' ∨ c ∈ intChars (point - 1) := by
  unfold exponentChars at h
  rcases List.mem_append.1 h with hmantissa | hexponent
  · split at hmantissa
    · exact .inr (.inl (List.mem_singleton.1 hmantissa))
    · exact .inl hmantissa
    · rename_i d rest _
      rcases List.mem_cons.1 hmantissa with hfirst | hrest
      · exact .inl (hfirst ▸ List.mem_cons_self)
      · rcases List.mem_cons.1 hrest with hpoint | hrest
        · exact .inr (.inr (.inl hpoint))
        · exact .inl (List.mem_cons_of_mem d hrest)
  · rcases List.mem_cons.1 hexponent with he | hexponent
    · exact .inr (.inr (.inr (.inl he)))
    · split at hexponent
      · exact .inr (.inr (.inr (.inr (.inr hexponent))))
      · rcases List.mem_cons.1 hexponent with hplus | hdigits
        · exact .inr (.inr (.inr (.inr (.inl hplus))))
        · exact .inr (.inr (.inr (.inr (.inr hdigits))))

/-- The text of a double shows that it is one. -/
theorem mem_render (x : Finite) :
    '.' ∈ x.render numberLayout ∨ 'e' ∈ x.render numberLayout := by
  have hmem {c : Char} {cs : List Char} (h : c ∈ cs) :
      c ∈ (if x.negative then '-' :: cs else cs) := by
    split
    · exact List.mem_cons_of_mem _ h
    · exact h
  obtain ⟨cs, hrender, hbody⟩ := x.render_cases numberLayout
  rw [hrender]
  rcases hbody with rfl | rfl
  · refine .inl (hmem ?_)
    change '.' ∈ positionalChars true _ _
    unfold positionalChars
    split
    · simp
    · split <;> simp
  · refine .inr (hmem ?_)
    simp [exponentChars]

theorem isNumberChar_of_mem_intChars {n : Int} {c : Char} (h : c ∈ intChars n) :
    isNumberChar c = true := by
  rcases mem_intChars h with rfl | hc
  · rfl
  · exact isNumberChar_of_isDigit hc

theorem isNumberChar_of_mem_render {x : Finite} {c : Char} (h : c ∈ x.render numberLayout) :
    isNumberChar c = true := by
  obtain ⟨cs, hrender, hbody⟩ := x.render_cases numberLayout
  have hc : c = '-' ∨ c ∈ cs := by
    rw [hrender] at h
    split at h
    · exact List.mem_cons.1 h
    · exact .inr h
  rcases hc with rfl | hc
  · rfl
  · have hdigit {d : Binary64.Decimal} (h : c ∈ d.digitChars) : isNumberChar c = true :=
      isNumberChar_of_isDigit (d.digits_digitChars c h)
    rcases hbody with rfl | rfl
    · rcases mem_positionalChars hc with h | rfl | rfl
      · exact hdigit h
      · rfl
      · rfl
    · rcases mem_exponentChars hc with h | rfl | rfl | rfl | rfl | h
      · exact hdigit h
      · rfl
      · rfl
      · rfl
      · rfl
      · exact isNumberChar_of_mem_intChars h

theorem isNumberChar_of_mem_chars (n : Number) : ∀ c ∈ n.chars, isNumberChar c = true := by
  cases n with
  | integer n hn => exact fun c hc => isNumberChar_of_mem_intChars hc
  | float x => exact fun c hc => isNumberChar_of_mem_render hc

theorem chars_ne_nil (n : Number) : n.chars ≠ [] := by
  cases n with
  | integer n hn =>
    intro h
    change intChars n = [] at h
    unfold intChars at h
    split at h
    · cases h
    · exact Nat.toDigits_ne_nil h
  | float x =>
    intro h
    change x.render numberLayout = [] at h
    have hmem := mem_render x
    rw [h] at hmem
    exact hmem.elim (fun h => nomatch h) (fun h => nomatch h)

theorem chars_inj {m n : Number} (h : m.chars = n.chars) : m = n := by
  have hkinds {k : Int} {x : Finite} (h : intChars k = x.render numberLayout) : False := by
    rcases mem_render x with hc | hc
    · rw [← h] at hc
      rcases mem_intChars hc with hc | hc <;> exact absurd hc (by decide)
    · rw [← h] at hc
      rcases mem_intChars hc with hc | hc <;> exact absurd hc (by decide)
  cases m with
  | integer m hm =>
    cases n with
    | integer n hn =>
      cases intChars_inj h
      rfl
    | float y => exact (hkinds h).elim
  | float x =>
    cases n with
    | integer n hn => exact (hkinds h.symm).elim
    | float y =>
      have hx := Binary64.ofText?_render numberLayout x
      rw [show x.render numberLayout = y.render numberLayout from h,
        Binary64.ofText?_render numberLayout y] at hx
      cases hx
      rfl

theorem chars_append {m n : Number} (hs : Stops s) (ht : Stops t)
    (h : m.chars ++ s = n.chars ++ t) : m = n ∧ s = t := by
  obtain ⟨hm, hsm⟩ := Binary64.takeWhile_append_of_head? m.isNumberChar_of_mem_chars hs
  obtain ⟨hn, htn⟩ := Binary64.takeWhile_append_of_head? n.isNumberChar_of_mem_chars ht
  rw [h] at hm hsm
  exact ⟨chars_inj (hm.symm.trans hn), hsm.symm.trans htn⟩

end Number

/-! ## Quoted texts -/

theorem quote_append {a b : String} (h : quote a ++ s = quote b ++ t) : a = b ∧ s = t := by
  have hinner : a.toList.flatMap escapeChar ++ '"' :: s =
      b.toList.flatMap escapeChar ++ '"' :: t := by
    simpa [quote] using h
  have hread := readString_quoted a s
  rw [hinner, readString_quoted b t, Option.some.injEq, Prod.mk.injEq] at hread
  have htext := congrArg Source.text? hread.1
  rw [text?_units, text?_units, Option.some.injEq] at htext
  exact ⟨htext.symm, hread.2.symm⟩

/-! ## Values -/

/-- The kind of a value, by the first character of its text. -/
def kindOfFirst (c : Char) : Nat :=
  if c = 'n' then 0
  else if c = '"' then 2
  else if c = '\x7b' then 3
  else if c = '[' then 4
  else if c = 't' ∨ c = 'f' then 5
  else if isNumberChar c then 1
  else 6

theorem kindOfFirst_of_isNumberChar {c : Char} (h : isNumberChar c = true) : kindOfFirst c = 1 := by
  have hne : c ≠ 'n' ∧ c ≠ '"' ∧ c ≠ '\x7b' ∧ c ≠ '[' ∧ c ≠ 't' ∧ c ≠ 'f' := by
    refine ⟨?_, ?_, ?_, ?_, ?_, ?_⟩ <;> rintro rfl <;> exact absurd h (by decide)
  simp [kindOfFirst, hne, h]

theorem exists_first (a : Json) :
    ∃ c cs, a.compactChars = c :: cs ∧ kindOfFirst c = a.kindRank := by
  cases a with
  | null => exact ⟨'n', _, rfl, rfl⟩
  | bool b => cases b <;> exact ⟨_, _, rfl, rfl⟩
  | number n =>
    obtain ⟨c, cs, hchars⟩ := List.exists_cons_of_ne_nil n.chars_ne_nil
    refine ⟨c, cs, hchars, kindOfFirst_of_isNumberChar (n.isNumberChar_of_mem_chars c ?_)⟩
    rw [hchars]
    exact List.mem_cons_self
  | string s => exact ⟨'"', _, rfl, rfl⟩
  | array items => exact ⟨'[', _, rfl, rfl⟩
  | object members => exact ⟨'\x7b', _, rfl, rfl⟩

theorem kindRank_eq_of_append {a b : Json} (h : a.compactChars ++ s = b.compactChars ++ t) :
    a.kindRank = b.kindRank := by
  obtain ⟨c, cs, ha, hc⟩ := exists_first a
  obtain ⟨d, ds, hb, hd⟩ := exists_first b
  rw [ha, hb, List.cons_append, List.cons_append, List.cons.injEq] at h
  rw [← hc, ← hd, h.1]

/-- What stands behind an item of an array, up to and with the closing bracket. -/
def itemsAfter : List Json → List Char
  | [] => [']']
  | items => ',' :: compactItems items

/-- What stands behind a member of an object, up to and with the closing brace. -/
def membersAfter : List (String × Json) → List Char
  | [] => ['\x7d']
  | members => ',' :: compactMembers members

theorem compactItems_cons (item : Json) (items : List Json) :
    compactItems (item :: items) = item.compactChars ++ itemsAfter items := by
  cases items <;> rfl

theorem compactMembers_cons (key : String) (value : Json) (members : List (String × Json)) :
    compactMembers ((key, value) :: members) =
      quote key ++ ':' :: (value.compactChars ++ membersAfter members) := by
  cases members <;> simp [compactMembers, membersAfter]

theorem stops_itemsAfter (items : List Json) (s : List Char) : Stops (itemsAfter items ++ s) := by
  cases items <;> simp [Stops, itemsAfter, isNumberChar]

theorem stops_membersAfter (members : List (String × Json)) (s : List Char) :
    Stops (membersAfter members ++ s) := by
  cases members <;> simp [Stops, membersAfter, isNumberChar]

/-- The first item does not begin with the bracket that closes an empty array. -/
theorem compactItems_not_closed (item : Json) (items : List Json) (s t : List Char) :
    compactItems (item :: items) ++ t ≠ compactItems [] ++ s := by
  obtain ⟨c, cs, hchars, hc⟩ := exists_first item
  rw [compactItems_cons, hchars]
  intro h
  rw [(List.cons.inj h).1, show kindOfFirst ']' = 6 from rfl] at hc
  cases item <;> simp [kindRank] at hc

theorem compactMembers_not_closed (key : String) (value : Json) (members : List (String × Json))
    (s t : List Char) : compactMembers ((key, value) :: members) ++ t ≠ compactMembers [] ++ s := by
  rw [compactMembers_cons]
  intro h
  exact absurd (List.cons.inj h).1 (by decide)

mutual

theorem compactChars_append {a b : Json} {s t : List Char} (hs : Stops s) (ht : Stops t)
    (h : a.compactChars ++ s = b.compactChars ++ t) : a = b ∧ s = t := by
  have hkind := kindRank_eq_of_append h
  cases a <;> cases b <;> simp only [kindRank] at hkind <;> try omega
  case null => exact ⟨rfl, List.append_cancel_left h⟩
  case bool x y =>
    cases x <;> cases y
    · exact ⟨rfl, List.append_cancel_left h⟩
    · cases h
    · cases h
    · exact ⟨rfl, List.append_cancel_left h⟩
  case number m n =>
    obtain ⟨rfl, hst⟩ := Number.chars_append hs ht h
    exact ⟨rfl, hst⟩
  case string x y =>
    obtain ⟨rfl, hst⟩ := quote_append h
    exact ⟨rfl, hst⟩
  case array as bs =>
    obtain ⟨rfl, hst⟩ := compactItems_append (List.cons.inj h).2
    exact ⟨rfl, hst⟩
  case object as bs =>
    obtain ⟨rfl, hst⟩ := compactMembers_append (List.cons.inj h).2
    exact ⟨rfl, hst⟩

theorem compactItems_append {as bs : List Json} {s t : List Char}
    (h : compactItems as ++ s = compactItems bs ++ t) : as = bs ∧ s = t := by
  match as, bs with
  | [], [] => exact ⟨rfl, (List.cons.inj h).2⟩
  | [], b :: bs => exact absurd h.symm (compactItems_not_closed b bs s t)
  | a :: as, [] => exact absurd h (compactItems_not_closed a as t s)
  | a :: as, b :: bs =>
    rw [compactItems_cons, compactItems_cons, List.append_assoc, List.append_assoc] at h
    obtain ⟨rfl, hrest⟩ := compactChars_append (stops_itemsAfter as s) (stops_itemsAfter bs t) h
    match as, bs with
    | [], [] => exact ⟨rfl, (List.cons.inj hrest).2⟩
    | [], _ :: _ => exact absurd (List.cons.inj hrest).1 (by decide)
    | _ :: _, [] => exact absurd (List.cons.inj hrest).1 (by decide)
    | a' :: as, b' :: bs =>
      obtain ⟨hitems, hst⟩ := compactItems_append (List.cons.inj hrest).2
      rw [hitems]
      exact ⟨rfl, hst⟩

theorem compactMembers_append {as bs : List (String × Json)} {s t : List Char}
    (h : compactMembers as ++ s = compactMembers bs ++ t) : as = bs ∧ s = t := by
  match as, bs with
  | [], [] => exact ⟨rfl, (List.cons.inj h).2⟩
  | [], (l, b) :: bs => exact absurd h.symm (compactMembers_not_closed l b bs s t)
  | (k, a) :: as, [] => exact absurd h (compactMembers_not_closed k a as t s)
  | (k, a) :: as, (l, b) :: bs =>
    rw [compactMembers_cons, compactMembers_cons, List.append_assoc, List.append_assoc] at h
    obtain ⟨rfl, hvalue⟩ := quote_append h
    rw [List.cons_append, List.cons_append, List.cons.injEq, List.append_assoc,
      List.append_assoc] at hvalue
    obtain ⟨rfl, hrest⟩ :=
      compactChars_append (stops_membersAfter as s) (stops_membersAfter bs t) hvalue.2
    match as, bs with
    | [], [] => exact ⟨rfl, (List.cons.inj hrest).2⟩
    | [], _ :: _ => exact absurd (List.cons.inj hrest).1 (by decide)
    | _ :: _, [] => exact absurd (List.cons.inj hrest).1 (by decide)
    | a' :: as, b' :: bs =>
      obtain ⟨hmembers, hst⟩ := compactMembers_append (List.cons.inj hrest).2
      rw [hmembers]
      exact ⟨rfl, hst⟩

end

theorem compact_inj {a b : Json} (h : a.compact = b.compact) : a = b := by
  have hchars := congrArg String.toList h
  rw [compact, compact, String.toList_ofList, String.toList_ofList] at hchars
  have hnil : Stops [] := fun _ hc => nomatch hc
  exact (compactChars_append hnil hnil (congrArg (· ++ []) hchars)).1

end Json
end DocAnalytics
