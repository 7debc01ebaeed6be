/-!
# Pieces of a text

A text cut at every character of a class.  Between two cuts in a row lies an empty piece, and
there is always one piece more than there are cuts.

## Main results

* `pieces_no_cut` — no piece holds a character of the class.
* `pieces_of_no_cut` — a text without cuts is one piece.
* `pieces_append_cut` — the pieces before and after a cut are independent of each other.
-/

namespace ScriptHost.Text

/-- The pieces of a text between the characters of a class. -/
def pieces (isCut : Char → Bool) : List Char → List (List Char)
  | [] => [[]]
  | c :: cs =>
    if isCut c then [] :: pieces isCut cs
    else
      match pieces isCut cs with
      | [] => [[c]]
      | piece :: rest => (c :: piece) :: rest

variable {isCut : Char → Bool}

theorem pieces_ne_nil (cs : List Char) : pieces isCut cs ≠ [] := by
  cases cs with
  | nil => simp [pieces]
  | cons c cs =>
    rw [pieces]
    split
    · simp
    · split <;> simp

theorem pieces_no_cut (cs : List Char) :
    ∀ piece ∈ pieces isCut cs, ∀ c ∈ piece, isCut c = false := by
  induction cs with
  | nil => simp [pieces]
  | cons c cs ih =>
    intro piece hp d hd
    rw [pieces] at hp
    split at hp
    · rcases List.mem_cons.mp hp with rfl | hp
      · cases hd
      · exact ih piece hp d hd
    · next hc =>
      split at hp
      · next hnil => exact absurd hnil (pieces_ne_nil cs)
      · next first rest heq =>
        rcases List.mem_cons.mp hp with rfl | hp
        · rcases List.mem_cons.mp hd with rfl | hd
          · simpa using hc
          · exact ih first (by simp [heq]) d hd
        · exact ih piece (by simp [heq, hp]) d hd

theorem pieces_of_no_cut {cs : List Char} (h : ∀ c ∈ cs, isCut c = false) :
    pieces isCut cs = [cs] := by
  induction cs with
  | nil => rfl
  | cons c cs ih =>
    have hc : isCut c = false := h c (by simp)
    rw [pieces, ih fun d hd => h d (by simp [hd])]
    simp [hc]

/-- A text without the one character that is cut at is one piece. -/
theorem pieces_of_not_mem {cut : Char} {cs : List Char} (h : cut ∉ cs) :
    pieces (· == cut) cs = [cs] := by
  apply pieces_of_no_cut
  intro c hc
  have hne : c ≠ cut := fun heq => h (heq ▸ hc)
  simpa using hne

theorem pieces_append_cut (cs : List Char) {cut : Char} (h : isCut cut = true)
    (ds : List Char) : pieces isCut (cs ++ cut :: ds) = pieces isCut cs ++ pieces isCut ds := by
  induction cs with
  | nil => simp [pieces, h]
  | cons c cs ih =>
    rw [List.cons_append, pieces, ih, pieces]
    split
    · rfl
    · cases hp : pieces isCut cs with
      | nil => exact absurd hp (pieces_ne_nil cs)
      | cons first rest => rfl

end ScriptHost.Text
