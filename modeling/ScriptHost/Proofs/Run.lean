import ScriptHost.Trail

/-!
# Runs

A run is a list of operations that are done one after the other, each on the state and the trail
that the one before it left.  It is kept as the list of its turns: an operation together with the
state and the trail that it found.  A law about a run speaks of one turn and of the turns before
it, so the invariants of this library are relations between a past and the present.

## Main results

* `turns_eq_append_cons` — a turn of a run cuts its operations in two, and is found in the state
  that the first part leaves.
* `past_invariant`, `past_invariant_finish` — what one operation preserves holds before every turn
  of a run, and at its end.
* `related_of_turns` — an order in which every turn goes up relates the ends of a part of a run.
* `Trail.Made.callsSince` — the calls that were made between two trails are the ones that the
  later trail shows.
-/

namespace ScriptHost

/-! ## Calls between two trails -/

namespace Trail

/-- From a trail to a later one exactly these calls were made, the oldest first. -/
def Made (calls : List Call) (t t' : Trail) : Prop := t'.calls = calls.reverse ++ t.calls

theorem Made.refl (t : Trail) : Made [] t t := rfl

theorem made_call (t : Trail) (c : Call) : Made [c] t (t.call c) := rfl

theorem made_log (t : Trail) (r : Log.Record) : Made [] t (t.log r) := rfl

theorem made_logAll (t : Trail) (rs : List Log.Record) : Made [] t (t.logAll rs) := by
  rw [Made, calls_logAll]
  rfl

theorem Made.trans {cs ds : List Call} {t t' t'' : Trail} (h : Made cs t t')
    (h' : Made ds t' t'') : Made (cs ++ ds) t t'' := by
  rw [Made] at h h' ⊢
  rw [h', h, List.reverse_append, List.append_assoc]

theorem Made.callsSince {cs : List Call} {t t' : Trail} (h : Made cs t t') :
    t'.callsSince t = cs := by
  rw [Made] at h
  rw [Trail.callsSince, h, List.length_append, Nat.add_sub_cancel, List.take_left,
    List.reverse_reverse]

/-- Going back to a record takes back the last of the calls that were made. -/
theorem Made.backTo {cs : List Call} {t t' : Trail} (h : Made cs t t') (n : Nat) :
    ∃ k, Made (cs.take k) t (t'.backTo t n) := by
  simp only [Made, Trail.backTo, h.callsSince]
  exact ⟨_, rfl⟩

theorem Made.calls_ne {cs : List Call} {t t' : Trail} (h : Made cs t t') (hne : cs ≠ []) :
    t'.calls ≠ t.calls := by
  intro heq
  rw [Made, heq] at h
  have hlength := congrArg List.length h
  rw [List.length_append, List.length_reverse] at hlength
  have hpos := List.length_pos_iff.mpr hne
  omega

end Trail

/-! ## Turns -/

/-- One operation of a run, with the state and the trail that it found. -/
structure Turn (σ ι : Type) where
  state : σ
  trail : Trail
  operation : ι

section Runs

variable {σ ι α : Type} (act : σ → Trail → ι → Step σ α)

/-- What a turn answered and left behind. -/
def Turn.step (x : Turn σ ι) : Step σ α := act x.state x.trail x.operation

/-- The turns of a run. -/
def turns : σ → Trail → List ι → List (Turn σ ι)
  | _, _, [] => []
  | s, t, i :: is => ⟨s, t, i⟩ :: turns (act s t i).state (act s t i).trail is

/-- The state and the trail at the end of a run. -/
def finish : σ → Trail → List ι → σ × Trail
  | s, t, [] => (s, t)
  | s, t, i :: is => finish (act s t i).state (act s t i).trail is

/-- The turn of an operation that is done after others. -/
def turnAfter (s : σ) (t : Trail) (before : List ι) (i : ι) : Turn σ ι :=
  ⟨(finish act s t before).1, (finish act s t before).2, i⟩

theorem turns_append (s : σ) (t : Trail) (is js : List ι) :
    turns act s t (is ++ js) =
      turns act s t is ++ turns act (finish act s t is).1 (finish act s t is).2 js := by
  induction is generalizing s t with
  | nil => rfl
  | cons i is ih =>
      simp only [List.cons_append, turns, finish]
      rw [ih]

theorem finish_append (s : σ) (t : Trail) (is js : List ι) :
    finish act s t (is ++ js) = finish act (finish act s t is).1 (finish act s t is).2 js := by
  induction is generalizing s t with
  | nil => rfl
  | cons i is ih => exact ih _ _

/-- A turn cuts the operations of its run: those before it lead to the state that it found, and
those behind it go on from what it left. -/
theorem turns_eq_append_cons {s : σ} {t : Trail} {is : List ι} {a b : List (Turn σ ι)}
    {x : Turn σ ι} (h : turns act s t is = a ++ x :: b) :
    ∃ before after, is = before ++ x.operation :: after ∧ a = turns act s t before ∧
      finish act s t before = (x.state, x.trail) ∧
      b = turns act (x.step act).state (x.step act).trail after := by
  induction a generalizing s t is with
  | nil =>
      cases is with
      | nil => simp [turns] at h
      | cons i is =>
          rw [turns, List.nil_append, List.cons.injEq] at h
          obtain ⟨rfl, rfl⟩ := h
          exact ⟨[], is, rfl, rfl, rfl, rfl⟩
  | cons y a ih =>
      cases is with
      | nil => simp [turns] at h
      | cons i is =>
          rw [turns, List.cons_append, List.cons.injEq] at h
          obtain ⟨rfl, h⟩ := h
          obtain ⟨before, after, rfl, rfl, hx, hb⟩ := ih h
          exact ⟨i :: before, after, rfl, rfl, hx, hb⟩

/-- The operations of the turns of a run are those of the run. -/
theorem operations_turns (s : σ) (t : Trail) (is : List ι) :
    (turns act s t is).map Turn.operation = is := by
  induction is generalizing s t with
  | nil => rfl
  | cons i is ih => rw [turns, List.map_cons, ih]

/-- A relation between the past and the present that every operation preserves holds at the end
of a run. -/
theorem past_invariant_finish {P : List (Turn σ ι) → σ → Trail → Prop}
    (hstep : ∀ past s t i, P past s t →
      P (past ++ [⟨s, t, i⟩]) (act s t i).state (act s t i).trail)
    {s : σ} {t : Trail} (h : P [] s t) (is : List ι) :
    P (turns act s t is) (finish act s t is).1 (finish act s t is).2 := by
  have general : ∀ (is : List ι) (past : List (Turn σ ι)) (s : σ) (t : Trail), P past s t →
      P (past ++ turns act s t is) (finish act s t is).1 (finish act s t is).2 := by
    intro is
    induction is with
    | nil =>
        intro past s t h
        simpa [turns, finish] using h
    | cons i is ih =>
        intro past s t h
        have hnext := ih _ _ _ (hstep past s t i h)
        simpa [turns, finish] using hnext
  exact general is [] s t h

/-- Such a relation holds before every turn of a run. -/
theorem past_invariant {P : List (Turn σ ι) → σ → Trail → Prop}
    (hstep : ∀ past s t i, P past s t →
      P (past ++ [⟨s, t, i⟩]) (act s t i).state (act s t i).trail)
    {s : σ} {t : Trail} (h : P [] s t) {is : List ι} {a b : List (Turn σ ι)} {x : Turn σ ι}
    (hx : turns act s t is = a ++ x :: b) : P a x.state x.trail := by
  obtain ⟨before, _, -, rfl, hfinish, -⟩ := turns_eq_append_cons act hx
  have hP := past_invariant_finish act hstep h before
  rwa [hfinish] at hP

/-- An order in which every turn of a part of a run goes up relates its beginning and its end. -/
theorem related_of_turns {R : σ → σ → Prop} (hrefl : ∀ s, R s s)
    (htrans : ∀ {s s' s''}, R s s' → R s' s'' → R s s'') {s : σ} {t : Trail} {is : List ι}
    {a b : List (Turn σ ι)} {x : Turn σ ι} (hx : turns act s t is = a ++ x :: b)
    (hup : ∀ y ∈ a, R y.state (y.step act).state) : R s x.state := by
  have hstep : ∀ (past : List (Turn σ ι)) (s' : σ) (t' : Trail) (i : ι),
      ((∀ y ∈ past, R y.state (y.step act).state) → R s s') →
      (∀ y ∈ past ++ [⟨s', t', i⟩], R y.state (y.step act).state) →
      R s (act s' t' i).state := by
    intro past s' t' i ih hall
    have hpast := ih fun y hy => hall y (List.mem_append_left _ hy)
    have hlast : R s' (act s' t' i).state := hall ⟨s', t', i⟩ (by simp)
    exact htrans hpast hlast
  exact past_invariant act (P := fun past s' _ =>
    (∀ y ∈ past, R y.state (y.step act).state) → R s s') hstep (fun _ => hrefl s) hx hup

end Runs

end ScriptHost
