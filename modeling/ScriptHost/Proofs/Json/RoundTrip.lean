import ScriptHost.Proofs.Json.Texts
import ScriptHost.Proofs.Sequence.Entries

/-!
# Values that are read back

What is written for a value is read back as the value.  Three things must hold of all its parts: it
has no double-precision number, for which the shortest decimals are a matter of their own; no
integer has too many digits, which could not be written at all; and no text splits a pair.  The
names of an object are all different, as they are in a mapping.

The reader bounds the depth of nesting by its fuel, which is more than the length of what it reads.

## Main results

* `number?_digits` — a natural is read back from its digits.
* `value?_chars`, `items?_itemChars`, `members?_memberChars` — values are read back in front of what
  may follow them.
* `parse?_print` — a whole text is read back.
-/

namespace ScriptHost

open Number (digitChar digitValue? digits digitsOnto natOfDigits tenTo)

/-! ## Digits -/

namespace Number

theorem isSome_digitChar (n : Nat) : (digitValue? (digitChar n)).isSome := by
  rw [digitValue?_digitChar]
  rfl

/-- Digits in front of others: only those of zero begin with a zero. -/
theorem digitsOnto_spec (n : Nat) (rest : List Char) : ∃ c cs,
    digitsOnto n rest = c :: cs ++ rest ∧ (∀ d ∈ c :: cs, (digitValue? d).isSome) ∧
      (c = '0' → n = 0 ∧ cs = []) := by
  fun_induction digitsOnto n rest with
  | case1 n rest h =>
      refine ⟨digitChar n, [], rfl, fun d hd => ?_, fun hzero => ⟨?_, rfl⟩⟩
      · rw [List.mem_singleton.mp hd]
        exact isSome_digitChar n
      · have hvalue := digitValue?_digitChar n
        rw [hzero, Nat.mod_eq_of_lt h] at hvalue
        exact (Option.some.inj hvalue).symm
  | case2 n rest h ih =>
      obtain ⟨c, cs, heq, hdigits, hzero⟩ := ih
      refine ⟨c, cs ++ [digitChar n], ?_, fun d hd => ?_, fun hc => ?_⟩
      · rw [heq, List.cons_append, List.cons_append, List.append_assoc, List.singleton_append]
      · rw [← List.cons_append, List.mem_append, List.mem_singleton] at hd
        rcases hd with hd | rfl
        · exact hdigits d hd
        · exact isSome_digitChar n
      · have hsmall := (hzero hc).1
        omega

theorem digits_spec (n : Nat) : ∃ c cs, digits n = c :: cs ∧
    (∀ d ∈ c :: cs, (digitValue? d).isSome) ∧ (c = '0' → cs = []) := by
  obtain ⟨c, cs, heq, hdigits, hzero⟩ := digitsOnto_spec n []
  exact ⟨c, cs, by rw [digits, heq, List.append_nil], hdigits, fun hc => (hzero hc).2⟩

/-- A number that reaches a power of ten has more digits than its exponent says. -/
theorem lt_length_digitsOnto {k n : Nat} (h : tenTo k ≤ n) (rest : List Char) :
    k + rest.length < (digitsOnto n rest).length := by
  fun_induction digitsOnto n rest generalizing k with
  | case1 n rest hn =>
      cases k with
      | zero => exact Nat.zero_add _ ▸ Nat.lt_succ_self _
      | succ k =>
          have hpow : tenTo (k + 1) = tenTo k * 10 := rfl
          have hpos : 0 < tenTo k := Nat.pow_pos (by decide)
          omega
  | case2 n rest hn ih =>
      rw [List.length_cons] at ih
      cases k with
      | zero =>
          have hone : tenTo 0 = 1 := rfl
          have hshorter := ih (show tenTo 0 ≤ n / 10 by omega)
          omega
      | succ k =>
          have hpow : tenTo (k + 1) = tenTo k * 10 := rfl
          have hshorter := ih (show tenTo k ≤ n / 10 by omega)
          omega

theorem lt_length_digits {k n : Nat} (h : tenTo k ≤ n) : k < (digits n).length :=
  lt_length_digitsOnto h []

end Number

namespace Json

/-! ## What may follow a value -/

/-- Whether nothing follows a value, or what may stand behind one. -/
def AtEnd (rest : List Char) : Prop :=
  ∀ c ∈ rest.head?, c = ',' ∨ c = ']' ∨ c = '\x7d'

theorem spanDigits_append {ds rest : List Char} (hds : ∀ d ∈ ds, (digitValue? d).isSome)
    (hrest : AtEnd rest) : spanDigits (ds ++ rest) = (ds, rest) := by
  induction ds with
  | nil =>
      cases rest with
      | nil => rfl
      | cons c rest =>
          have hc : (digitValue? c).isSome = false := by
            rcases hrest c rfl with rfl | rfl | rfl <;> decide
          rw [List.nil_append, spanDigits, hc]
          rfl
  | cons d ds ih =>
      rw [List.cons_append, spanDigits, if_pos (hds d List.mem_cons_self),
        ih fun x hx => hds x (List.mem_cons_of_mem d hx)]

theorem fractionPart_atEnd {rest : List Char} (hrest : AtEnd rest) :
    fractionPart rest = ([], rest) := by
  cases rest with
  | nil => rfl
  | cons c rest => rcases hrest c rfl with rfl | rfl | rfl <;> rfl

theorem exponentPart_atEnd {rest : List Char} (hrest : AtEnd rest) :
    exponentPart rest = (none, rest) := by
  cases rest with
  | nil => rfl
  | cons c rest => rcases hrest c rfl with rfl | rfl | rfl <;> rfl

theorem wholePart?_digits (n : Nat) {rest : List Char} (hrest : AtEnd rest) :
    wholePart? (digits n ++ rest) = some (digits n, rest) := by
  obtain ⟨c, cs, hds, hdigits, hzero⟩ := Number.digits_spec n
  rw [hds]
  by_cases hc : c = '0'
  · subst hc
    rw [hzero rfl]
    rfl
  · rw [wholePart?, spanDigits_append hdigits hrest]
    exact fun _ h => hc (List.cons.inj h).1

/-- A natural is read back from its digits, with its sign. -/
theorem number?_digits (negative : Bool) {n : Nat}
    (h : (digits n).length ≤ Number.longestNumeral) {rest : List Char} (hrest : AtEnd rest) :
    number? negative (digits n ++ rest) =
      some (int (if negative then -(n : Int) else n), rest) := by
  have hlong : ¬ (digits n).length > Number.longestNumeral := Nat.not_lt.mpr h
  simp only [number?, wholePart?_digits n hrest, fractionPart_atEnd hrest,
    exponentPart_atEnd hrest, Option.bind_eq_bind, Option.bind_some, List.append_nil,
    Number.natOfDigits_digits, List.isEmpty_nil, Option.isNone_none, Bool.and_self, if_true,
    if_neg hlong]
  rfl

theorem ne_of_digit {c d : Char} (h : (digitValue? c).isSome) (hd : digitValue? d = none) :
    c ≠ d := by
  rintro rfl
  rw [hd] at h
  cases h

/-- What begins with a digit is a number. -/
theorem value?_of_digit {c : Char} (h : (digitValue? c).isSome) (fuel : Nat) (cs : List Char) :
    value? (fuel + 1) (c :: cs) = number? false (c :: cs) := by
  rw [value?]
  all_goals exact fun _ heq => ne_of_digit h (by decide) (List.cons.inj heq).1

theorem value?_intText {i : Int} (h : (digits i.natAbs).length ≤ Number.longestNumeral)
    (fuel : Nat) {rest : List Char} (hrest : AtEnd rest) :
    value? (fuel + 1) ((Number.intText i).toList ++ rest) = some (int i, rest) := by
  cases i with
  | ofNat n =>
      have hread : number? false (digits n ++ rest) = some (int n, rest) :=
        number?_digits false h hrest
      obtain ⟨c, cs, hds, hdigits, -⟩ := Number.digits_spec n
      rw [Number.intText, String.toList_ofList]
      rw [hds] at hread ⊢
      exact (value?_of_digit (hdigits c List.mem_cons_self) fuel _).trans hread
  | negSucc n =>
      have hread : number? true (digits (n + 1) ++ rest) =
          some (int (-((n + 1 : Nat) : Int)), rest) :=
        number?_digits true h hrest
      obtain ⟨c, cs, hds, hdigits, -⟩ := Number.digits_spec (n + 1)
      have hc : c ≠ 'I' := ne_of_digit (hdigits c List.mem_cons_self) (by decide)
      rw [Number.intText, String.toList_ofList]
      rw [hds] at hread ⊢
      rw [List.cons_append, value?]
      · exact hread
      · exact fun _ heq => hc (List.cons.inj heq).1

/-! ## Parts of values -/

/-- Whether a value is one of those that are read back, as far as it is not made of others: it is
no double-precision number, and no name of an object is repeated. -/
def isExact : Json → Bool
  | real _ => false
  | obj members => (Sequence.Entries.names members).Nodup
  | _ => true

/-- Whether no text of a value splits a pair, nor the name of a member. -/
def keepsPairs : Json → Bool
  | text s => isWhole s.toList
  | obj members => members.all fun m => isWhole m.1.toList
  | _ => true

/-- Whether a value is read back, as far as it is not made of others. -/
def isFaithful (j : Json) : Bool := isExact j && isShort j && keepsPairs j

mutual

theorem every_and (p q : Json → Bool) :
    ∀ j : Json, j.every (fun j => p j && q j) = (j.every p && j.every q)
  | null | bool _ | int _ | real _ | text _ => by simp only [every]
  | arr items => by
      simp only [every, everyItem_and p q items]
      ac_rfl
  | obj members => by
      simp only [every, everyMember_and p q members]
      ac_rfl

theorem everyItem_and (p q : Json → Bool) :
    ∀ items, everyItem (fun j => p j && q j) items = (everyItem p items && everyItem q items)
  | [] => rfl
  | j :: js => by
      simp only [everyItem, every_and p q j, everyItem_and p q js]
      ac_rfl

theorem everyMember_and (p q : Json → Bool) :
    ∀ ms, everyMember (fun j => p j && q j) ms = (everyMember p ms && everyMember q ms)
  | [] => rfl
  | (_, j) :: ms => by
      simp only [everyMember, every_and p q j, everyMember_and p q ms]
      ac_rfl

end

theorem every_isFaithful (j : Json) :
    j.every isFaithful = (j.every isExact && j.every isShort && j.every keepsPairs) := by
  rw [← every_and, ← every_and]
  rfl

/-! ## Values -/

/-- What is written for a value begins neither with a gap nor with a closing bracket. -/
theorem chars_head {j : Json} (h : isExact j = true) :
    ∃ c cs, chars j = c :: cs ∧ isGap c = false ∧ c ≠ ']' := by
  cases j with
  | null => exact ⟨_, _, rfl, by decide, by decide⟩
  | bool b => cases b <;> exact ⟨_, _, rfl, by decide, by decide⟩
  | int i =>
      cases i with
      | ofNat n =>
          obtain ⟨c, cs, hds, hdigits, -⟩ := Number.digits_spec n
          have hdigit := hdigits c List.mem_cons_self
          have hne : ∀ d, digitValue? d = none → c ≠ d := fun d => ne_of_digit hdigit
          refine ⟨c, cs, by rw [chars, Number.intText, String.toList_ofList, hds], ?_,
            hne ']' (by decide)⟩
          simp only [isGap, Bool.or_eq_false_iff, beq_eq_false_iff_ne]
          exact ⟨⟨⟨hne _ (by decide), hne _ (by decide)⟩, hne _ (by decide)⟩, hne _ (by decide)⟩
      | negSucc n =>
          exact ⟨'-', digits (n + 1), by rw [chars, Number.intText, String.toList_ofList],
            by decide, by decide⟩
  | real r => cases h
  | text s => exact ⟨_, _, rfl, by decide, by decide⟩
  | arr items => exact ⟨_, _, rfl, by decide, by decide⟩
  | obj members => exact ⟨_, _, rfl, by decide, by decide⟩

theorem skipGap_of_head {c : Char} (h : isGap c = false) (cs : List Char) :
    skipGap (c :: cs) = c :: cs :=
  List.dropWhile_cons_of_neg (by simp [h])

theorem skipGap_gap (cs : List Char) : skipGap (' ' :: cs) = skipGap cs :=
  List.dropWhile_cons_of_pos rfl

theorem skipGap_chars {j : Json} (h : isExact j = true) (rest : List Char) :
    skipGap (chars j ++ rest) = chars j ++ rest := by
  obtain ⟨c, cs, heq, hgap, -⟩ := chars_head h
  rw [heq, List.cons_append, skipGap_of_head hgap]

/-- What passes a check with all its parts passes it itself. -/
theorem check_of_every {check : Json → Bool} {j : Json} (h : j.every check = true) :
    check j = true := by
  cases j with
  | arr items => exact (Bool.and_eq_true _ _ ▸ h).1
  | obj members => exact (Bool.and_eq_true _ _ ▸ h).1
  | _ => exact h

theorem everyItem_of_every {check : Json → Bool} {items : List Json}
    (h : (arr items).every check = true) : everyItem check items = true :=
  (Bool.and_eq_true _ _ ▸ h : check (arr items) = true ∧ everyItem check items = true).2

theorem everyMember_of_every {check : Json → Bool} {ms : List (String × Json)}
    (h : (obj ms).every check = true) : everyMember check ms = true :=
  (Bool.and_eq_true _ _ ▸ h : check (obj ms) = true ∧ everyMember check ms = true).2

theorem everyItem_cons {check : Json → Bool} {j : Json} {js : List Json} :
    everyItem check (j :: js) = true ↔ j.every check = true ∧ everyItem check js = true := by
  rw [everyItem, Bool.and_eq_true]

theorem everyMember_cons {check : Json → Bool} {m : String × Json} {ms : List (String × Json)} :
    everyMember check (m :: ms) = true ↔
      m.2.every check = true ∧ everyMember check ms = true := by
  rw [everyMember, Bool.and_eq_true]

theorem isExact_of_every {j : Json} (h : j.every isFaithful = true) : isExact j = true := by
  have hj := check_of_every h
  simp only [isFaithful, Bool.and_eq_true] at hj
  exact hj.1.1

theorem quoted_append (s : String) (rest : List Char) :
    quoted s ++ rest = '"' :: (s.toList.flatMap escapeChar ++ '"' :: rest) := by
  rw [quoted, List.append_assoc, List.cons_append, List.singleton_append]

theorem atEnd_cons {c : Char} (h : c = ',' ∨ c = ']' ∨ c = '\x7d') (rest : List Char) :
    AtEnd (c :: rest) := by
  rintro d hd
  obtain rfl : c = d := Option.some.inj hd
  exact h

theorem itemChars_cons (j k : Json) (js : List Json) :
    itemChars (j :: k :: js) = chars j ++ ',' :: ' ' :: itemChars (k :: js) := by
  rw [itemChars]
  exact List.cons_ne_nil k js

theorem memberChars_cons (name : String) (j : Json) (m : String × Json)
    (ms : List (String × Json)) : memberChars ((name, j) :: m :: ms) =
      quoted name ++ ':' :: ' ' :: (chars j ++ ',' :: ' ' :: memberChars (m :: ms)) := by
  rw [memberChars]
  exact List.cons_ne_nil m ms

theorem itemChars_head {j : Json} {js : List Json} (h : everyItem isFaithful (j :: js) = true) :
    ∃ c cs, itemChars (j :: js) = c :: cs ∧ isGap c = false ∧ c ≠ ']' := by
  obtain ⟨c, cs, hhead, hgap, hclose⟩ := chars_head (isExact_of_every (everyItem_cons.mp h).1)
  cases js with
  | nil => exact ⟨c, cs, hhead, hgap, hclose⟩
  | cons k js => exact ⟨c, _, by rw [itemChars_cons, hhead, List.cons_append], hgap, hclose⟩

theorem memberChars_head (m : String × Json) (ms : List (String × Json)) :
    ∃ cs, memberChars (m :: ms) = '"' :: cs := by
  obtain ⟨name, j⟩ := m
  cases ms with
  | nil => exact ⟨_, rfl⟩
  | cons k ms => exact ⟨_, rfl⟩

theorem items?_gap (fuel : Nat) (cs : List Char) : items? fuel (' ' :: cs) = items? fuel cs := by
  cases fuel <;> rfl

theorem members?_gap (fuel : Nat) (cs : List Char) :
    members? fuel (' ' :: cs) = members? fuel cs := by
  cases fuel <;> rfl

mutual

theorem value?_chars (j : Json) (h : j.every isFaithful = true) {fuel : Nat}
    (hfuel : (chars j).length < fuel) {rest : List Char} (hrest : AtEnd rest) :
    value? fuel (chars j ++ rest) = some (j, rest) := by
  obtain ⟨fuel, rfl⟩ := Nat.exists_eq_add_one_of_ne_zero (Nat.ne_zero_of_lt hfuel)
  match j with
  | null => rfl
  | bool true => rfl
  | bool false => rfl
  | int i =>
      have hshort : (digits i.natAbs).length ≤ Number.longestNumeral := by
        have hi := check_of_every h
        simpa [isFaithful, isExact, isShort, keepsPairs, Number.isWritable] using hi
      exact value?_intText hshort fuel hrest
  | real r => cases h
  | text s =>
      have hwhole : isWhole s.toList = true := by
        have hs := check_of_every h
        simpa [isFaithful, isExact, isShort, keepsPairs] using hs
      rw [chars, quoted_append, value?, textBody?_quoted hwhole]
      simp
  | arr [] => rfl
  | arr (j :: js) =>
      have hparts := everyItem_of_every h
      have hlength : (itemChars (j :: js)).length + 1 < fuel := by
        simp only [chars, List.length_cons, List.length_append, List.length_nil] at hfuel
        omega
      have hitems := items?_itemChars (j :: js) (List.cons_ne_nil j js) hparts hlength rest
      obtain ⟨c, cs, hhead, hgap, hclose⟩ := itemChars_head hparts
      have hwritten : chars (arr (j :: js)) ++ rest =
          '[' :: (itemChars (j :: js) ++ ']' :: rest) := by
        rw [chars, List.append_assoc, List.cons_append, List.singleton_append]
      rw [hwritten, value?]
      rw [hhead, List.cons_append] at hitems ⊢
      rw [skipGap_of_head hgap]
      split
      · next heq => exact absurd (List.cons.inj heq).1 hclose
      · rw [hitems]
        rfl
  | obj [] => rfl
  | obj (m :: ms) =>
      have hparts := everyMember_of_every h
      have hobject := check_of_every h
      simp only [isFaithful, isExact, isShort, keepsPairs, Bool.and_true, Bool.and_eq_true,
        decide_eq_true_eq] at hobject
      have hlength : (memberChars (m :: ms)).length + 1 < fuel := by
        simp only [chars, List.length_cons, List.length_append, List.length_nil] at hfuel
        omega
      have hmembers := members?_memberChars (m :: ms) (List.cons_ne_nil m ms) hobject.2 hparts
        hlength rest
      obtain ⟨cs, hhead⟩ := memberChars_head m ms
      have hwritten : chars (obj (m :: ms)) ++ rest =
          '\x7b' :: (memberChars (m :: ms) ++ '\x7d' :: rest) := by
        rw [chars, List.append_assoc, List.cons_append, List.singleton_append]
      rw [hwritten, value?]
      rw [hhead, List.cons_append] at hmembers ⊢
      rw [skipGap_of_head (by decide)]
      split
      · next heq => cases heq
      · rw [hmembers]
        show some (obj (Sequence.Entries.ofList (m :: ms)), rest) = _
        rw [Sequence.Entries.ofList_of_nodup hobject.1]

theorem items?_itemChars (js : List Json) (hne : js ≠ []) (h : everyItem isFaithful js = true)
    {fuel : Nat} (hfuel : (itemChars js).length + 1 < fuel) (rest : List Char) :
    items? fuel (itemChars js ++ ']' :: rest) = some (js, rest) := by
  obtain ⟨fuel, rfl⟩ := Nat.exists_eq_add_one_of_ne_zero (Nat.ne_zero_of_lt hfuel)
  match js with
  | [] => exact absurd rfl hne
  | [j] =>
      have hj := (everyItem_cons.mp h).1
      have hread := value?_chars j hj (Nat.lt_of_succ_lt_succ hfuel)
        (atEnd_cons (.inr (.inl rfl)) rest)
      rw [itemChars, items?, skipGap_chars (isExact_of_every hj), hread]
      rfl
  | j :: k :: js =>
      obtain ⟨hj, hjs⟩ := everyItem_cons.mp h
      rw [itemChars_cons, List.length_append, List.length_cons, List.length_cons] at hfuel
      have hread := value?_chars j hj (show (chars j).length < fuel by omega)
        (atEnd_cons (.inl rfl) (' ' :: (itemChars (k :: js) ++ ']' :: rest)))
      have hbehind := items?_itemChars (k :: js) (List.cons_ne_nil k js) hjs
        (show (itemChars (k :: js)).length + 1 < fuel by omega) rest
      rw [itemChars_cons, List.append_assoc, List.cons_append, List.cons_append, items?,
        skipGap_chars (isExact_of_every hj), hread]
      show (items? fuel (' ' :: (itemChars (k :: js) ++ ']' :: rest))).bind _ = _
      rw [items?_gap, hbehind]
      rfl

theorem members?_memberChars (ms : List (String × Json)) (hne : ms ≠ [])
    (hnames : (ms.all fun m => isWhole m.1.toList) = true)
    (h : everyMember isFaithful ms = true) {fuel : Nat}
    (hfuel : (memberChars ms).length + 1 < fuel) (rest : List Char) :
    members? fuel (memberChars ms ++ '\x7d' :: rest) = some (ms, rest) := by
  obtain ⟨fuel, rfl⟩ := Nat.exists_eq_add_one_of_ne_zero (Nat.ne_zero_of_lt hfuel)
  match ms with
  | [] => exact absurd rfl hne
  | [(name, j)] =>
      have hj := (everyMember_cons.mp h).1
      have hname : isWhole name.toList = true := by simpa using hnames
      rw [memberChars, List.length_append, List.length_cons, List.length_cons] at hfuel
      have hread := value?_chars j hj (show (chars j).length < fuel by omega)
        (atEnd_cons (.inr (.inr rfl)) rest)
      rw [memberChars, List.append_assoc, quoted_append, members?,
        skipGap_of_head (by decide)]
      rw [List.cons_append, List.cons_append]
      simp only [textBody?_quoted hname, Option.bind_eq_bind, Option.bind_some,
        skipGap_of_head (show isGap ':' = false by decide), skipGap_gap,
        skipGap_chars (isExact_of_every hj), hread, String.ofList_toList]
      rfl
  | (name, j) :: m :: ms =>
      obtain ⟨hj, hms⟩ := everyMember_cons.mp h
      obtain ⟨hname, hothers⟩ : isWhole name.toList = true ∧
          ((m :: ms).all fun m => isWhole m.1.toList) = true := by
        rwa [List.all_cons, Bool.and_eq_true] at hnames
      simp only [memberChars_cons, List.length_append, List.length_cons] at hfuel
      have hread := value?_chars j hj (show (chars j).length < fuel by omega)
        (atEnd_cons (.inl rfl) (' ' :: (memberChars (m :: ms) ++ '\x7d' :: rest)))
      have hbehind := members?_memberChars (m :: ms) (List.cons_ne_nil m ms) hothers hms
        (show (memberChars (m :: ms)).length + 1 < fuel by omega) rest
      rw [memberChars_cons, List.append_assoc, quoted_append, members?,
        skipGap_of_head (by decide)]
      simp only [List.cons_append, List.append_assoc]
      simp only [textBody?_quoted hname, Option.bind_eq_bind, Option.bind_some,
        skipGap_of_head (show isGap ':' = false by decide), skipGap_gap,
        skipGap_chars (isExact_of_every hj), hread, String.ofList_toList]
      show (members? fuel (' ' :: (memberChars (m :: ms) ++ '\x7d' :: rest))).bind _ = _
      rw [members?_gap, hbehind]
      rfl

end

/-- A value whose parts are all exact, short and without a split pair is read back from its line. -/
theorem parse?_print {j : Json} (h : j.every isFaithful = true) : parse? j.print = some j := by
  have hread := value?_chars j h (Nat.lt_succ_self _) (show AtEnd [] from fun c hc => by cases hc)
  have hgap := skipGap_chars (isExact_of_every h) []
  rw [List.append_nil] at hread hgap
  rw [parse?, print, String.toList_ofList]
  simp only [hgap, hread]
  rfl

/-! ## One line of printable ASCII -/

theorem digit_printable {c : Char} (h : (digitValue? c).isSome) : IsPrintable c := by
  have hdigit : '0' ≤ c ∧ c ≤ '9' := by
    by_contra hnot
    rw [digitValue?, if_neg hnot] at h
    cases h
  have hlow : 0x30 ≤ c.toNat := hdigit.1
  have hhigh : c.toNat ≤ 0x39 := hdigit.2
  exact ⟨by omega, by omega⟩

theorem intText_printable (i : Int) : ∀ c ∈ (Number.intText i).toList, IsPrintable c := by
  have hdigits : ∀ n, ∀ c ∈ digits n, IsPrintable c := by
    intro n c hc
    obtain ⟨d, ds, hds, hall, -⟩ := Number.digits_spec n
    exact digit_printable (hall c (hds ▸ hc))
  cases i with
  | ofNat n =>
      rw [Number.intText, String.toList_ofList]
      exact hdigits n
  | negSucc n =>
      rw [Number.intText, String.toList_ofList, List.forall_mem_cons]
      exact ⟨by decide, hdigits (n + 1)⟩

theorem quoted_printable (s : String) : ∀ c ∈ quoted s, IsPrintable c := by
  rw [quoted, List.forall_mem_append, List.forall_mem_cons, List.forall_mem_singleton]
  refine ⟨⟨by decide, fun c hc => ?_⟩, by decide⟩
  obtain ⟨d, -, hcd⟩ := List.mem_flatMap.mp hc
  exact escape_printable d c hcd

mutual

/-- A value without double-precision numbers is written in printable ASCII, whatever its texts
hold. -/
theorem chars_printable (j : Json) (h : j.every isExact = true) :
    ∀ c ∈ chars j, IsPrintable c := by
  have hword : ∀ cs : List Char, cs.all (fun c => decide (IsPrintable c)) = true →
      ∀ c ∈ cs, IsPrintable c :=
    fun cs hall c hc => of_decide_eq_true (List.all_eq_true.mp hall c hc)
  match j with
  | null => exact hword _ rfl
  | bool true => exact hword _ rfl
  | bool false => exact hword _ rfl
  | int i => exact intText_printable i
  | real r => cases h
  | text s => exact quoted_printable s
  | arr items =>
      rw [chars, List.forall_mem_append, List.forall_mem_cons, List.forall_mem_singleton]
      exact ⟨⟨by decide, itemChars_printable items (everyItem_of_every h)⟩, by decide⟩
  | obj members =>
      rw [chars, List.forall_mem_append, List.forall_mem_cons, List.forall_mem_singleton]
      exact ⟨⟨by decide, memberChars_printable members (everyMember_of_every h)⟩, by decide⟩

theorem itemChars_printable (js : List Json) (h : everyItem isExact js = true) :
    ∀ c ∈ itemChars js, IsPrintable c := by
  match js with
  | [] => exact fun c hc => absurd hc List.not_mem_nil
  | [j] => exact chars_printable j (everyItem_cons.mp h).1
  | j :: k :: js =>
      obtain ⟨hj, hjs⟩ := everyItem_cons.mp h
      rw [itemChars_cons, List.forall_mem_append, List.forall_mem_cons, List.forall_mem_cons]
      exact ⟨chars_printable j hj, by decide, by decide, itemChars_printable (k :: js) hjs⟩

theorem memberChars_printable (ms : List (String × Json)) (h : everyMember isExact ms = true) :
    ∀ c ∈ memberChars ms, IsPrintable c := by
  match ms with
  | [] => exact fun c hc => absurd hc List.not_mem_nil
  | [(name, j)] =>
      rw [memberChars, List.forall_mem_append, List.forall_mem_cons, List.forall_mem_cons]
      exact ⟨quoted_printable name, by decide, by decide,
        chars_printable j (everyMember_cons.mp h).1⟩
  | (name, j) :: m :: ms =>
      obtain ⟨hj, hms⟩ := everyMember_cons.mp h
      rw [memberChars_cons, List.forall_mem_append, List.forall_mem_cons, List.forall_mem_cons,
        List.forall_mem_append, List.forall_mem_cons, List.forall_mem_cons]
      exact ⟨quoted_printable name, by decide, by decide, chars_printable j hj, by decide,
        by decide, memberChars_printable (m :: ms) hms⟩

end

end Json

end ScriptHost
