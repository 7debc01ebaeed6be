import ScriptHost.Proofs.Executor.Effect

/-!
# Epochs

An epoch of a run begins when a session is founded and when a session is reset, and lasts until
that happens again.  The mark of the session tells whether the bundle is still due; a run may
carry it through any operations, refused and failed ones included.  The invariant is that the mark
stands exactly if some execution of the epoch has looked for the bundle and come to an end with
it, whether there was one or not.

What code a script has, and what code the bundle has that is put in front of it, depends on what
the pre-processor does with its results.  So the law of an epoch is stated over a `Reading`, which
says so from the turns before.

## Main results

* `isMarked_perform_of_arms`, `isMarked_perform_iff` — what one operation does to the mark.
* `codes_of_prepared` — what the engine receives in a turn.
* `bundleLaw_of_codes` — a reading that is right about every turn obeys the law in every epoch.
-/

namespace ScriptHost

namespace Executor

/-! ## Epochs -/

/-- Whether the session is marked: the bundle is no longer due. -/
def IsMarked (e : Executor) : Prop := ∃ s, e.session = some s ∧ s.injected = true

/-- Whether an operation is an execution that pre-processes its script and comes to an end with
looking for the bundle. -/
def FindsOut (e : Executor) (t : Trail) (op : Operation) : Prop :=
  ∃ p found, e.prepare t op = some p ∧ e.lookup p = .ok found

theorem not_prepared_of_arms {e : Executor} {t : Trail} {op : Operation} (h : e.Arms t op) :
    e.prepare t op = none := by
  cases hp : e.prepare t op with
  | none => rfl
  | some p => exact absurd h (idle_of_prepared hp).1

theorem not_prepared_of_no_session {e : Executor} (h : e.session = none) (t : Trail)
    (op : Operation) : e.prepare t op = none := by
  cases hp : e.prepare t op with
  | none => rfl
  | some p =>
      have hsession := (perform_eq_run hp).1
      rw [h] at hsession
      cases hsession

/-- Only the beginning of an epoch founds a session where there is none. -/
theorem session_perform_of_none {e : Executor} {t : Trail} {op : Operation}
    (hnone : e.session = none) (h : ¬ e.Arms t op) : (e.perform t op).state.session = none := by
  have hp := not_prepared_of_no_session hnone t op
  obtain ⟨heffect, -⟩ := effect_of_not_prepared hp
  cases heffect with
  | quiet idle session made sources => exact session.trans hnone
  | founded founding made session trail => exact absurd ⟨_, founding⟩ h
  | cleared old phase session trail => exact absurd ⟨_, old, phase⟩ h
  | ended old phase made session trail =>
      rw [hnone] at old
      cases old

theorem not_findsOut_of_not_prepared {e : Executor} {t : Trail} {op : Operation}
    (h : e.prepare t op = none) : ¬ e.FindsOut t op := by
  rintro ⟨p, found, hp, -⟩
  rw [h] at hp
  cases hp

theorem isMarked_iff_of_session {e : Executor} {s : Session} (h : e.session = some s) :
    e.IsMarked ↔ s.injected = true := by
  constructor
  · rintro ⟨s', hs', hinjected⟩
    rw [h] at hs'
    cases hs'
    exact hinjected
  · intro hinjected
    exact ⟨s, h, hinjected⟩

theorem isMarked_congr {e e' : Executor} (h : e'.session = e.session) :
    e'.IsMarked ↔ e.IsMarked := by
  rw [IsMarked, IsMarked, h]

/-- The mark is gone when an epoch begins. -/
theorem isMarked_perform_of_arms {e : Executor} {t : Trail} {op : Operation} (h : e.Arms t op) :
    ¬ (e.perform t op).state.IsMarked := by
  obtain ⟨heffect, -⟩ := effect_of_not_prepared (not_prepared_of_arms h)
  cases heffect with
  | quiet idle session made sources => exact absurd h idle.1
  | founded founding made session trail =>
      rw [isMarked_iff_of_session session, Session.start_injected]
      exact Bool.false_ne_true
  | cleared old phase session trail =>
      rw [isMarked_iff_of_session session]
      exact Bool.false_ne_true
  | ended old phase made session trail => exact h.elim

/-- A prepared execution leaves the session marked exactly if it was, or if it finds out about the
bundle. -/
theorem isMarked_perform_of_prepared {e : Executor} {t : Trail} {op : Operation} {p : Prepared}
    (h : e.prepare t op = some p) :
    (e.perform t op).state.IsMarked ↔ e.IsMarked ∨ e.FindsOut t op := by
  obtain ⟨hsession, -, -, -⟩ := perform_eq_run h
  obtain ⟨t', -, heq⟩ := perform_of_prepared h
  have hfinds : e.FindsOut t op ↔ ∃ found, e.lookup p = .ok found := by
    constructor
    · rintro ⟨p', found, hp', hfound⟩
      rw [h] at hp'
      cases hp'
      exact ⟨found, hfound⟩
    · rintro ⟨found, hfound⟩
      exact ⟨p, found, h, hfound⟩
  rw [isMarked_iff_of_session hsession, hfinds, heq]
  cases hc : e.compose p with
  | error f =>
      obtain ⟨hnot, hg⟩ := compose_eq_error hc
      simp only [Step.error]
      rw [isMarked_iff_of_session rfl]
      simp [hnot, hg]
  | ok c =>
      obtain ⟨-, -, -, -, hsome, hmarked⟩ := compose_frame hc
      have hsubmit : (c.executor.submit t' c.script p.arguments c.session).state.session =
          some c.session := hsome
      simp only [Step.map]
      rw [isMarked_iff_of_session hsubmit, hmarked]
      have hleft : (Splice.marked p.session).injected = true := rfl
      simp only [hleft, true_iff]
      cases hinjected : p.session.injected with
      | true => exact .inl rfl
      | false =>
          cases hfound : e.lookup p with
          | error g => simp [compose_of_lookup_error hinjected hfound] at hc
          | ok found => exact .inr ⟨found, rfl⟩

/-- While an epoch lasts, an operation leaves the session marked exactly if it was, or if it finds
out about the bundle. -/
theorem isMarked_perform_iff {e : Executor} {t : Trail} {op : Operation} (h : ¬ e.Arms t op) :
    (e.perform t op).state.IsMarked ↔ e.IsMarked ∨ e.FindsOut t op := by
  cases hp : e.prepare t op with
  | some p => exact isMarked_perform_of_prepared hp
  | none =>
      have hno : ¬ e.FindsOut t op := not_findsOut_of_not_prepared hp
      obtain ⟨heffect, -⟩ := effect_of_not_prepared hp
      simp only [hno, or_false]
      cases heffect with
      | quiet idle session made sources => exact isMarked_congr session
      | founded founding made session trail => exact absurd ⟨_, founding⟩ h
      | cleared old phase session trail => exact absurd ⟨_, old, phase⟩ h
      | ended old phase made session trail =>
          rw [isMarked_iff_of_session session, isMarked_iff_of_session old, Session.stop_injected]

/-! ## What the engine receives -/

/-- The codes that the engine receives in a turn. -/
def codes (x : Turn Executor Operation) : List String :=
  (received ((x.step perform).trail.callsSince x.trail)).map Submission.code

theorem codes_of_not_prepared {x : Turn Executor Operation}
    (h : x.state.prepare x.trail x.operation = none) : codes x = [] := by
  obtain ⟨cs, hmade, hcs⟩ := received_of_not_prepared h
  have hmade' : Trail.Made cs x.trail (x.step perform).trail := hmade
  rw [codes, hmade'.callsSince, hcs]
  rfl

/-- Code with the code of a bundle in front of it. -/
def inFront (bundle code : String) : String := bundle ++ "\n" ++ code

/-- What the engine receives by a prepared execution in which the bundle is due: nothing if looking
for it fails, and else the script, with the bundle in front of it if there is one. -/
def codesDue (script : String) (bundle : Handout → String) :
    Except Failure (Option Handout) → List String
  | .error _ => []
  | .ok none => [script]
  | .ok (some answer) => [inFront (bundle answer) script]

/-- What the engine receives by a prepared execution, in terms of the results as they are
received. -/
theorem codes_of_prepared {x : Turn Executor Operation} {p : Prepared}
    (h : x.state.prepare x.trail x.operation = some p) :
    codes x =
      if p.session.injected = true then [(x.state.toSources.receive p.script).1.content.code]
      else
        codesDue (x.state.toSources.receive p.script).1.content.code
          (fun answer => ((x.state.ready p).toSources.receive answer).1.content.code)
          (x.state.lookup p) := by
  obtain ⟨cs, hmade, hcs⟩ := received_of_prepared h
  have hmade' : Trail.Made cs x.trail (x.step perform).trail := hmade
  rw [codes, hmade'.callsSince, hcs]
  cases hinjected : p.session.injected with
  | true =>
      rw [compose_of_injected hinjected]
      rfl
  | false =>
      cases hfound : x.state.lookup p with
      | error f =>
          rw [compose_of_lookup_error hinjected hfound]
          rfl
      | ok found =>
          cases found with
          | none =>
              rw [compose_of_no_bundle hinjected hfound]
              rfl
          | some answer =>
              rw [compose_of_bundle hinjected hfound]
              simp only [Sources.revise, Pool.revise]
              split
              · rfl
              · rfl

/-! ## The law of an epoch -/

/-- Whether a turn begins an epoch. -/
abbrev Opens (x : Turn Executor Operation) : Prop := x.state.Arms x.trail x.operation

/-- Whether a turn is an execution that finds out about the bundle. -/
def Settles (x : Turn Executor Operation) : Prop := x.state.FindsOut x.trail x.operation

/-- What the code of a result is taken to be in a turn, given the turns before it. -/
structure Reading where
  /-- The code of a script. -/
  script : List (Turn Executor Operation) → Handout → String
  /-- The code of a bundle that is looked up for a script. -/
  bundle : List (Turn Executor Operation) → Handout → Handout → String

/-- What the engine receives by a prepared execution in which the bundle is due, read in a certain
way. -/
def Reading.due (r : Reading) (past : List (Turn Executor Operation))
    (x : Turn Executor Operation) (p : Prepared) : List String :=
  codesDue (r.script past p.script) (r.bundle past p.script) (x.state.lookup p)

/-- Whether the engine received, in a turn, anything but the code of the script. -/
def Bundled (r : Reading) (past : List (Turn Executor Operation))
    (x : Turn Executor Operation) : Prop :=
  ∃ p, x.state.prepare x.trail x.operation = some p ∧
    ∃ code ∈ codes x, code ≠ r.script past p.script

/-- The law of the turns of an epoch, which come after others. -/
structure BundleOnce (r : Reading) (past epoch : List (Turn Executor Operation)) : Prop where
  /-- No two executions hand the engine more than the code of the script. -/
  once : ∀ a x b y c, epoch = a ++ x :: (b ++ y :: c) →
    Bundled r (past ++ a) x → ¬ Bundled r (past ++ a ++ x :: b) y
  /-- The one that does is the first that pre-processes its script and finds out about the
  bundle. -/
  first : ∀ a x b, epoch = a ++ x :: b → Bundled r (past ++ a) x →
    Settles x ∧ ∀ y ∈ a, ¬ Settles y
  /-- Until then the bundle is looked for next to each script, and put in front of it if found. -/
  due : ∀ a x b p, epoch = a ++ x :: b → (∀ y ∈ a, ¬ Settles y) →
    x.state.prepare x.trail x.operation = some p → codes x = r.due (past ++ a) x p
  /-- From then on every script goes to the engine as it is. -/
  done : ∀ a x b p, epoch = a ++ x :: b → (∃ y ∈ a, Settles y) →
    x.state.prepare x.trail x.operation = some p → codes x = [r.script (past ++ a) p.script]
  /-- What is not a prepared execution does not reach the engine. -/
  silent : ∀ x ∈ epoch, x.state.prepare x.trail x.operation = none → codes x = []

/-- The law of the turns of a run that begins without a session. -/
structure BundleLaw (r : Reading) (run : List (Turn Executor Operation)) : Prop where
  /-- Before the first epoch the engine receives nothing. -/
  before : ∀ before x after, run = before ++ x :: after → (∀ y ∈ before, ¬ Opens y) → codes x = []
  /-- The operation that begins an epoch does not reach the engine. -/
  opening : ∀ x ∈ run, Opens x → codes x = []
  /-- Every epoch obeys its law, however far it is followed. -/
  epoch : ∀ before x epoch after, run = before ++ x :: (epoch ++ after) → Opens x →
    (∀ y ∈ epoch, ¬ Opens y) → BundleOnce r (before ++ [x]) epoch

/-- Before every turn of an epoch the session is marked exactly if a turn before it in the epoch
found out about the bundle. -/
theorem isMarked_in_epoch {e : Executor} {t : Trail} {ops : List Operation}
    {a b : List (Turn Executor Operation)} {x : Turn Executor Operation}
    (hstart : ¬ e.IsMarked) (h : turns perform e t ops = a ++ x :: b)
    (hopens : ∀ y ∈ a, ¬ Opens y) : x.state.IsMarked ↔ ∃ y ∈ a, Settles y := by
  have hstep : ∀ (past : List (Turn Executor Operation)) (s : Executor) (t : Trail)
      (op : Operation),
      ((∀ y ∈ past, ¬ Opens y) → (s.IsMarked ↔ ∃ y ∈ past, Settles y)) →
      (∀ y ∈ past ++ [⟨s, t, op⟩], ¬ Opens y) →
      ((s.perform t op).state.IsMarked ↔ ∃ y ∈ past ++ [⟨s, t, op⟩], Settles y) := by
    intro past s t op ih hno
    have hpast := ih fun y hy => hno y (List.mem_append_left _ hy)
    have hop : ¬ s.Arms t op := hno ⟨s, t, op⟩ (by simp)
    rw [isMarked_perform_iff hop, hpast]
    simp [Settles, or_and_right, exists_or]
  exact past_invariant perform (P := fun past s _ =>
    (∀ y ∈ past, ¬ Opens y) → (s.IsMarked ↔ ∃ y ∈ past, Settles y)) hstep
    (fun _ => by simpa using hstart) h hopens

/-- Until a session is founded there is none. -/
theorem session_of_turn {e : Executor} {t : Trail} {ops : List Operation}
    {a b : List (Turn Executor Operation)} {x : Turn Executor Operation}
    (hnone : e.session = none) (h : turns perform e t ops = a ++ x :: b)
    (hopens : ∀ y ∈ a, ¬ Opens y) : x.state.session = none := by
  have hstep : ∀ (past : List (Turn Executor Operation)) (s : Executor) (t : Trail)
      (op : Operation), ((∀ y ∈ past, ¬ Opens y) → s.session = none) →
      (∀ y ∈ past ++ [⟨s, t, op⟩], ¬ Opens y) → (s.perform t op).state.session = none := by
    intro past s t op ih hno
    have hsession := ih fun y hy => hno y (List.mem_append_left _ hy)
    have hop : ¬ s.Arms t op := hno ⟨s, t, op⟩ (by simp)
    exact session_perform_of_none hsession hop
  exact past_invariant perform (P := fun past s _ =>
    (∀ y ∈ past, ¬ Opens y) → s.session = none) hstep (fun _ => hnone) h hopens

/-- A reading that is right about every turn of a run from a session that is not marked obeys the
law until the next epoch begins. -/
theorem bundleOnce_of_codes {r : Reading} {e : Executor} {t : Trail} {ops : List Operation}
    {past epoch after : List (Turn Executor Operation)} (hstart : ¬ e.IsMarked)
    (h : turns perform e t ops = epoch ++ after) (hopens : ∀ y ∈ epoch, ¬ Opens y)
    (hcodes : ∀ a x b p, epoch = a ++ x :: b → x.state.prepare x.trail x.operation = some p →
      codes x =
        if p.session.injected = true then [r.script (past ++ a) p.script]
        else r.due (past ++ a) x p) :
    BundleOnce r past epoch := by
  have hinjected : ∀ {a x b p}, epoch = a ++ x :: b →
      x.state.prepare x.trail x.operation = some p →
      (p.session.injected = true ↔ ∃ y ∈ a, Settles y) := by
    intro a x b p hx hp
    have hcut : turns perform e t ops = a ++ x :: (b ++ after) := by
      rw [h, hx, List.append_assoc, List.cons_append]
    rw [← isMarked_iff_of_session (perform_eq_run hp).1]
    refine isMarked_in_epoch hstart hcut fun y hy => hopens y ?_
    rw [hx]
    exact List.mem_append_left _ hy
  have hdue : ∀ a x b p, epoch = a ++ x :: b → (∀ y ∈ a, ¬ Settles y) →
      x.state.prepare x.trail x.operation = some p → codes x = r.due (past ++ a) x p := by
    intro a x b p hx hnone hp
    have hnot : ¬ p.session.injected = true := by
      rw [hinjected hx hp]
      rintro ⟨y, hy, hsettles⟩
      exact hnone y hy hsettles
    rw [hcodes a x b p hx hp, if_neg hnot]
  have hdone : ∀ a x b p, epoch = a ++ x :: b → (∃ y ∈ a, Settles y) →
      x.state.prepare x.trail x.operation = some p →
      codes x = [r.script (past ++ a) p.script] := by
    intro a x b p hx hsome hp
    rw [hcodes a x b p hx hp, if_pos ((hinjected hx hp).mpr hsome)]
  have hfirst : ∀ a x b, epoch = a ++ x :: b → Bundled r (past ++ a) x →
      Settles x ∧ ∀ y ∈ a, ¬ Settles y := by
    rintro a x b hx ⟨p, hp, code, hcode, hne⟩
    have hnone : ∀ y ∈ a, ¬ Settles y := by
      intro y hy hsettles
      rw [hdone a x b p hx ⟨y, hy, hsettles⟩ hp] at hcode
      exact hne (List.mem_singleton.mp hcode)
    refine ⟨?_, hnone⟩
    rw [hdue a x b p hx hnone hp, Reading.due] at hcode
    cases hfound : x.state.lookup p with
    | error f =>
        rw [hfound] at hcode
        cases hcode
    | ok found => exact ⟨p, found, hp, hfound⟩
  constructor
  case once =>
    intro a x b y c hxy hx hy
    have hy' : epoch = (a ++ x :: b) ++ y :: c := by
      rw [hxy, List.append_assoc, List.cons_append]
    have hlate := (hfirst (a ++ x :: b) y c hy' (by rwa [List.append_assoc] at hy)).2
    exact hlate x (by simp) (hfirst a x (b ++ y :: c) hxy hx).1
  case first => exact hfirst
  case due => exact hdue
  case done => exact hdone
  case silent => exact fun x _ hp => codes_of_not_prepared hp

/-- A reading that is right about every turn of a run that begins without a session obeys the law
in every epoch. -/
theorem bundleLaw_of_codes {r : Reading} {e : Executor} {t : Trail} {ops : List Operation}
    (hnone : e.session = none)
    (hcodes : ∀ a x b p, turns perform e t ops = a ++ x :: b →
      x.state.prepare x.trail x.operation = some p →
      codes x =
        if p.session.injected = true then [r.script a p.script] else r.due a x p) :
    BundleLaw r (turns perform e t ops) := by
  constructor
  case before =>
    intro before x after hx hopens
    have hsession := session_of_turn hnone hx hopens
    apply codes_of_not_prepared
    exact not_prepared_of_no_session hsession x.trail x.operation
  case opening =>
    intro x _ hopens
    exact codes_of_not_prepared (not_prepared_of_arms hopens)
  case epoch =>
    intro before x epoch after hx hopens hepoch
    obtain ⟨_, rest, -, -, -, hrest⟩ := turns_eq_append_cons perform hx
    have hnotMarked : ¬ (x.step perform).state.IsMarked := isMarked_perform_of_arms hopens
    refine bundleOnce_of_codes hnotMarked hrest.symm hepoch ?_
    intro a y b p hy hp
    refine hcodes (before ++ [x] ++ a) y (b ++ after) p ?_ hp
    rw [hx, hy]
    simp

end Executor

end ScriptHost
