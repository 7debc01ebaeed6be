import ScriptHost.Proofs.Session.Ending

/-!
# The contexts of a session

A session asks its packs for contexts once all of them have started, and takes the contexts over
at once, when every pack has answered.  So it has none until a start succeeds, and from then on
those that the packs showed, in the order in which the packs were given; a later reset or end, or a
start that is refused, leaves them alone.  The first of a type is the one that is found.

If a pack fails to show its context, the session takes over none and stays new, but all of its
packs have started and are recorded: they are asked to stop when the session ends, the newest
first, up to the first that fails to.

## Main results

* `askContexts_answers` — what packs answer that all show their contexts is what is collected.
* `require_iff`, `require_error_iff` — the context of the first pack that shows one of a type is
  found, and a type is refused exactly if no pack shows one.
* `contexts_law` — the law of the contexts of a session, over any packs and any operations.
-/

namespace ScriptHost

namespace SessionView

variable {v : SessionView} {type : String}

/-- The first context of a type is found. -/
theorem require_eq_ok_iff {c : Context} :
    v.require type = .ok c ↔ ∃ before after, v.contexts = before ++ c :: after ∧
      c.isA type = true ∧ ∀ d ∈ before, d.isA type = false := by
  have hfind : v.require type = .ok c ↔
      v.contexts.find? (fun d => d.isA type) = some c := by
    unfold require
    cases v.contexts.find? (fun d => d.isA type) with
    | none => exact iff_of_false nofun nofun
    | some d => rw [Except.ok.injEq, Option.some.injEq]
  rw [hfind, List.find?_eq_some_iff_append]
  constructor
  · rintro ⟨hc, before, after, hcut, hbefore⟩
    exact ⟨before, after, hcut, hc, fun d hd => by simpa using hbefore d hd⟩
  · rintro ⟨before, after, hcut, hc, hbefore⟩
    exact ⟨hc, before, after, hcut, fun d hd => by simpa using hbefore d hd⟩

/-- A type is refused exactly if no context is of it. -/
theorem require_eq_error_iff {f : Failure} :
    v.require type = .error f ↔
      f = .session (.noContext type) ∧ ∀ c ∈ v.contexts, c.isA type = false := by
  have hnone : v.contexts.find? (fun c => c.isA type) = none ↔
      ∀ c ∈ v.contexts, c.isA type = false := by
    simp [List.find?_eq_none]
  rw [← hnone]
  unfold require
  cases v.contexts.find? (fun c => c.isA type) with
  | none =>
      rw [Except.error.injEq, eq_comm]
      exact (and_iff_left rfl).symm
  | some c => exact iff_of_false nofun (fun h => nomatch h.2)

end SessionView

namespace Session

/-! ## What packs show -/

/-- Packs that are asked for their contexts in order, after calls that were made before, give these
answers: each of them shows a context, or none. -/
inductive Answers : List Pack → List Call → List (Option Context) → Prop where
  | nil {calls : List Call} : Answers [] calls []
  | cons {p : Pack} {ps : List Pack} {calls : List Call} {shown : Option Context}
      {answers : List (Option Context)} (first : p.context calls = .ok shown)
      (rest : Answers ps (.askContext p.label :: calls) answers) :
      Answers (p :: ps) calls (shown :: answers)

/-- One of the packs that are asked in order shows a context. -/
def Shows (ps : List Pack) (calls : List Call) (c : Context) : Prop :=
  ∃ before p after, ps = before ++ p :: after ∧
    p.context ((contextCalls before).reverse ++ calls) = .ok (some c)

/-- The first of the packs whose context is of a type shows this context. -/
def ShowsFirst (ps : List Pack) (calls : List Call) (type : String) (c : Context) : Prop :=
  ∃ before p after, ps = before ++ p :: after ∧
    p.context ((contextCalls before).reverse ++ calls) = .ok (some c) ∧ c.isA type = true ∧
    ∀ d, Shows before calls d → d.isA type = false

theorem contextCalls_cons_reverse (p : Pack) (ps : List Pack) (calls : List Call) :
    (contextCalls (p :: ps)).reverse ++ calls =
      (contextCalls ps).reverse ++ .askContext p.label :: calls := by
  rw [contextCalls, List.map_cons, List.reverse_cons, List.append_assoc]
  rfl

theorem answers_cons {p : Pack} {ps : List Pack} {calls : List Call}
    {answers : List (Option Context)} :
    Answers (p :: ps) calls answers ↔ ∃ shown rest, answers = shown :: rest ∧
      p.context calls = .ok shown ∧ Answers ps (.askContext p.label :: calls) rest := by
  constructor
  · intro h
    cases h with
    | cons hfirst hrest => exact ⟨_, _, rfl, hfirst, hrest⟩
  · rintro ⟨shown, rest, rfl, hfirst, hrest⟩
    exact .cons hfirst hrest

/-- A row of packs answers part by part. -/
theorem answers_append {ps qs : List Pack} {calls : List Call} {answers : List (Option Context)} :
    Answers (ps ++ qs) calls answers ↔ ∃ front back, answers = front ++ back ∧
      Answers ps calls front ∧ Answers qs ((contextCalls ps).reverse ++ calls) back := by
  induction ps generalizing calls answers with
  | nil =>
      constructor
      · intro h
        exact ⟨[], answers, rfl, .nil, h⟩
      · rintro ⟨front, back, rfl, ⟨⟩, hback⟩
        exact hback
  | cons p ps ih =>
      rw [contextCalls_cons_reverse]
      constructor
      · intro h
        obtain ⟨shown, rest, rfl, hfirst, hrest⟩ := answers_cons.mp h
        obtain ⟨front, back, rfl, hfront, hback⟩ := ih.mp hrest
        exact ⟨shown :: front, back, rfl, .cons hfirst hfront, hback⟩
      · rintro ⟨front, back, rfl, hfront, hback⟩
        obtain ⟨shown, front, rfl, hfirst, hrest⟩ := answers_cons.mp hfront
        exact .cons hfirst (ih.mpr ⟨front, back, rfl, hrest, hback⟩)

/-- What the packs show stands among their answers. -/
theorem Answers.mem_iff {ps : List Pack} {calls : List Call} {answers : List (Option Context)}
    (h : Answers ps calls answers) {c : Context} : some c ∈ answers ↔ Shows ps calls c := by
  constructor
  · intro hc
    induction h with
    | nil => cases hc
    | @cons p ps calls shown answers hfirst hrest ih =>
        rcases List.mem_cons.mp hc with heq | hc
        · subst heq
          exact ⟨[], p, ps, rfl, hfirst⟩
        · obtain ⟨before, q, after, rfl, hq⟩ := ih hc
          rw [← contextCalls_cons_reverse] at hq
          exact ⟨p :: before, q, after, rfl, hq⟩
  · rintro ⟨before, p, after, rfl, hp⟩
    obtain ⟨front, back, rfl, -, hback⟩ := answers_append.mp h
    obtain ⟨shown, rest, rfl, hshown, -⟩ := answers_cons.mp hback
    obtain rfl : shown = some c := Except.ok.inj (hshown.symm.trans hp)
    exact List.mem_append_right _ List.mem_cons_self

/-- The contexts that packs show if all of them answer are those that are collected. -/
theorem askContexts_answers {ps : List Pack} {t : Trail} (h : contextFailure? ps t.calls = none) :
    ∃ answers, Answers ps t.calls answers ∧ (askContexts ps t).state = answers.filterMap id := by
  induction ps generalizing t with
  | nil => exact ⟨[], .nil, rfl⟩
  | cons p ps ih =>
      rw [contextFailure?, Pack.contextFailure?] at h
      rw [askContexts]
      cases hp : p.context t.calls with
      | error f => simp [hp] at h
      | ok shown =>
          rw [hp] at h
          obtain ⟨answers, hanswers, hcollected⟩ := ih (t := t.call (.askContext p.label)) h
          refine ⟨shown :: answers, .cons hp hanswers, ?_⟩
          cases shown with
          | none => exact hcollected
          | some c => exact congrArg (c :: ·) hcollected

/-! ## What is found -/

section Found

variable {v : SessionView} {ps : List Pack} {calls : List Call} {answers : List (Option Context)}
  {type : String}

theorem mem_contexts_iff (hcontexts : v.contexts = answers.filterMap id)
    (h : Answers ps calls answers) {c : Context} : c ∈ v.contexts ↔ Shows ps calls c := by
  rw [← h.mem_iff, hcontexts, List.mem_filterMap]
  constructor
  · rintro ⟨shown, hshown, rfl⟩
    exact hshown
  · exact fun hc => ⟨some c, hc, rfl⟩

/-- A row of answers is cut where its contexts are. -/
theorem Answers.cut {before after : List Context} {c : Context} (h : Answers ps calls answers)
    (hcut : answers.filterMap id = before ++ c :: after) :
    ∃ front p back shown, ps = front ++ p :: back ∧ Answers front calls shown ∧
      shown.filterMap id = before ∧
      p.context ((contextCalls front).reverse ++ calls) = .ok (some c) := by
  induction h generalizing before with
  | nil =>
      have hlength := congrArg List.length hcut
      simp at hlength
  | @cons p ps calls first answers hfirst hrest ih =>
      cases first with
      | none =>
          -- A pack that shows none is among the answers only: the cut lies further on.
          obtain ⟨front, q, back, shown, rfl, hfront, hshown, hq⟩ := ih hcut
          rw [← contextCalls_cons_reverse] at hq
          exact ⟨p :: front, q, back, none :: shown, rfl, .cons hfirst hfront, hshown, hq⟩
      | some d =>
          cases before with
          | nil =>
              obtain ⟨rfl, -⟩ := List.cons.inj hcut
              exact ⟨[], p, ps, [], rfl, .nil, rfl, hfirst⟩
          | cons b before =>
              obtain ⟨rfl, htail⟩ := List.cons.inj hcut
              obtain ⟨front, q, back, shown, rfl, hfront, hshown, hq⟩ := ih htail
              rw [← contextCalls_cons_reverse] at hq
              exact ⟨p :: front, q, back, some d :: shown, rfl, .cons hfirst hfront,
                congrArg (d :: ·) hshown, hq⟩

/-- The context of the first pack that shows one of a type is found. -/
theorem require_iff (hcontexts : v.contexts = answers.filterMap id)
    (h : Answers ps calls answers) {c : Context} :
    v.require type = .ok c ↔ ShowsFirst ps calls type c := by
  rw [SessionView.require_eq_ok_iff]
  constructor
  · rintro ⟨before, after, hcut, hc, hbefore⟩
    obtain ⟨front, p, back, shown, hps, hfront, hshown, hp⟩ := h.cut (hcontexts.symm.trans hcut)
    refine ⟨front, p, back, hps, hp, hc, ?_⟩
    intro d hd
    have hmem : some d ∈ shown := hfront.mem_iff.mpr hd
    refine hbefore d ?_
    rw [← hshown, List.mem_filterMap]
    exact ⟨some d, hmem, rfl⟩
  · rintro ⟨front, p, back, rfl, hp, hc, hothers⟩
    obtain ⟨before, after, rfl, hbefore, hafter⟩ := answers_append.mp h
    obtain ⟨shown, rest, rfl, hshown, -⟩ := answers_cons.mp hafter
    obtain rfl : shown = some c := Except.ok.inj (hshown.symm.trans hp)
    refine ⟨before.filterMap id, rest.filterMap id, ?_, hc, ?_⟩
    · rw [hcontexts, List.filterMap_append]
      rfl
    · intro d hd
      obtain ⟨shown, hshown, rfl⟩ := List.mem_filterMap.mp hd
      exact hothers d (hbefore.mem_iff.mp hshown)

/-- A type is refused exactly if no pack shows a context of it. -/
theorem require_error_iff (hcontexts : v.contexts = answers.filterMap id)
    (h : Answers ps calls answers) {f : Failure} :
    v.require type = .error f ↔
      f = .session (.noContext type) ∧ ∀ c, Shows ps calls c → c.isA type = false := by
  rw [SessionView.require_eq_error_iff]
  refine and_congr_right fun _ => forall_congr' fun c => ?_
  rw [mem_contexts_iff hcontexts h]

end Found

/-! ## Turns that decide about contexts -/

/-- The calls that were made when the packs of a session are asked for their contexts. -/
def callsBegun (packs : List Pack) (x : Turn Session Operation) : List Call :=
  (startCalls packs).reverse ++ x.trail.calls

/-- Whether a turn starts the session. -/
def StartsWell (x : Turn Session Operation) : Prop :=
  x.operation = .start ∧ (x.step perform).answer = .ok ()

/-- Whether a turn fails to start a new session because one of its packs, all of which have
started, fails to show its context. -/
structure FailsToShow (packs : List Pack) (x : Turn Session Operation) (f : Failure) : Prop where
  operation : x.operation = .start
  phase : x.state.phase = .notStarted
  started : startFailure? packs x.trail.calls = none
  context : contextFailure? packs (callsBegun packs x) = some f

/-- A turn that starts the session collects what its packs show. -/
theorem start_contexts {s : Session} {t : Trail} (hphase : s.phase = .notStarted)
    (h : attemptFailure? s.packs t.calls = none) :
    ∃ answers, Answers s.packs ((startCalls s.packs).reverse ++ t.calls) answers ∧
      (s.start t).state.contexts = answers.filterMap id := by
  obtain ⟨hstart, hcontext⟩ := attemptFailure?_eq_none h
  obtain ⟨hbegun, -, hmade⟩ := startPacks_of_no_failure hstart s
  rw [← hmade] at hcontext ⊢
  obtain ⟨answers, hanswers, hcollected⟩ := askContexts_answers hcontext
  obtain ⟨hasked, -⟩ := askContexts_of_no_failure hcontext
  refine ⟨answers, hanswers, ?_⟩
  simp only [start, hphase, hbegun, hasked]
  exact hcollected

/-- A reset changes neither the packs of a session nor its contexts nor what is recorded. -/
theorem reset_kept (s : Session) (t : Trail) :
    (s.reset t).state.packs = s.packs ∧ (s.reset t).state.contexts = s.contexts ∧
      (s.reset t).state.started = s.started := by
  by_cases hphase : s.phase = .ended
  · rw [reset_of_ended hphase]
    exact ⟨rfl, rfl, rfl⟩
  · rw [reset_of_not_ended hphase]
    exact ⟨rfl, rfl, rfl⟩

/-- A session that ends keeps its packs and its contexts. -/
theorem stop_kept (s : Session) (t : Trail) :
    (s.stop t).state.packs = s.packs ∧ (s.stop t).state.contexts = s.contexts := by
  by_cases hphase : s.phase = .ended
  · rw [stop_of_ended hphase]
    exact ⟨rfl, rfl⟩
  · rw [(stop_of_not_ended hphase t).1]
    exact ⟨rfl, rfl⟩

/-! ## What every turn keeps -/

/-- What holds after some turns of a run that began with a new session of the packs. -/
structure Shown (packs : List Pack) (past : List (Turn Session Operation)) (s : Session) :
    Prop where
  same_packs : s.packs = packs
  empty : (∀ x ∈ past, ¬ StartsWell x) → s.contexts = []
  collected : ∀ x ∈ past, StartsWell x → s.phase ≠ .notStarted ∧
    ∃ answers, Answers packs (callsBegun packs x) answers ∧ s.contexts = answers.filterMap id
  recorded : ∀ x ∈ past, ∀ f, FailsToShow packs x f → s.phase ≠ .ended →
    x.state.started ++ packs <+: s.started

theorem shown_new (packs : List Pack) (arguments : List String) :
    Shown packs [] (new packs arguments) :=
  ⟨rfl, fun _ => rfl, nofun, nofun⟩

/-- A turn that does not start the session, and leaves its contexts alone, keeps the invariant; it
may record more packs. -/
theorem Shown.of_kept {packs : List Pack} {past : List (Turn Session Operation)} {s s' : Session}
    {x : Turn Session Operation} (h : Shown packs past s) (hpacks : s'.packs = s.packs)
    (hcontexts : s'.contexts = s.contexts) (hphase : s.phase.Forward s'.phase)
    (hstarted : s'.phase ≠ .ended → s.started <+: s'.started) (hx : ¬ StartsWell x)
    (hfails : ∀ f, FailsToShow packs x f → x.state.started ++ packs <+: s'.started) :
    Shown packs (past ++ [x]) s' := by
  have hback : ∀ y ∈ past ++ [x], y ∈ past ∨ y = x := fun y hy => by simpa using hy
  constructor
  case same_packs => exact hpacks.trans h.same_packs
  case empty =>
    intro hnone
    rw [hcontexts]
    exact h.empty fun y hy => hnone y (List.mem_append_left _ hy)
  case collected =>
    intro y hy hwell
    rcases hback y hy with hy | rfl
    · obtain ⟨hnew, hshown⟩ := h.collected y hy hwell
      rw [hcontexts]
      refine ⟨?_, hshown⟩
      cases hs : s.phase with
      | notStarted => exact absurd hs hnew
      | started =>
          rw [hs] at hphase
          exact hphase
      | ended =>
          rw [hs] at hphase
          rw [show s'.phase = .ended from hphase]
          exact nofun
    · exact absurd hwell hx
  case recorded =>
    intro y hy f hf hlive
    rcases hback y hy with hy | rfl
    · have hbefore : s.phase ≠ .ended := by
        intro hended
        rw [hended] at hphase
        exact hlive hphase
      exact (h.recorded y hy f hf hbefore).trans (hstarted hlive)
    · exact hfails f hf

theorem shown_start {packs : List Pack} {past : List (Turn Session Operation)} {s : Session}
    (t : Trail) (h : Shown packs past s) :
    Shown packs (past ++ [⟨s, t, .start⟩]) (s.start t).state := by
  have hforward := perform_forward s t .start
  by_cases hphase : s.phase = .notStarted
  · have hpacks := h.same_packs
    cases hattempt : attemptFailure? s.packs t.calls with
    | none =>
        obtain ⟨hanswer, hstarted, hkept, -, hrecorded, -⟩ := start_of_attempt hphase hattempt
        obtain ⟨answers, hanswers, hcollected⟩ := start_contexts hphase hattempt
        have hwell : StartsWell ⟨s, t, .start⟩ := ⟨rfl, hanswer⟩
        constructor
        case same_packs => exact hkept.trans hpacks
        case empty =>
          intro hnone
          exact absurd hwell (hnone _ (by simp))
        case collected =>
          intro y hy hy'
          refine ⟨by simp [hstarted], ?_⟩
          rcases List.mem_append.mp hy with hy | hy
          -- The session is still new, so no earlier turn has started it.
          · exact absurd hphase (h.collected y hy hy').1
          · rw [List.mem_singleton.mp hy, callsBegun, ← hpacks]
            exact ⟨answers, hanswers, hcollected⟩
        case recorded =>
          intro y hy f hf _
          rcases List.mem_append.mp hy with hy | hy
          · rw [hrecorded]
            have hbefore := h.recorded y hy f hf (by simp [hphase])
            exact hbefore.trans (List.prefix_append _ _)
          · have hcontext := hf.context
            rw [List.mem_singleton.mp hy, ← hpacks, callsBegun,
              (attemptFailure?_eq_none hattempt).2] at hcontext
            cases hcontext
    | some g =>
        obtain ⟨hanswer, hkeeps, done, rest, tail, -, hrecorded, -, -⟩ :=
          start_of_attemptFailure hphase hattempt
        refine h.of_kept hkeeps.packs hkeeps.view.contexts hforward ?_ ?_ ?_
        · intro _
          rw [hrecorded]
          exact List.prefix_append _ _
        · rintro ⟨-, hwell⟩
          simp only [Turn.step, perform, hanswer] at hwell
          cases hwell
        · intro f hf
          have hbegun := hf.started
          have hcontext := hf.context
          simp only [callsBegun, ← hpacks] at hbegun hcontext
          have hall : (s.start t).state.started = s.started ++ s.packs :=
            (start_of_contextFailure hphase hbegun hcontext).2.2.1
          exact ⟨[], by rw [List.append_nil, hall, hpacks]⟩
  · have hrefused := start_of_not_new hphase t
    have hkept : (s.start t).state = s := congrArg Step.state hrefused
    refine h.of_kept (congrArg _ hkept) (by rw [hkept]) hforward ?_ ?_ ?_
    · exact fun _ => ⟨[], by rw [List.append_nil, hkept]⟩
    · rintro ⟨-, hwell⟩
      simp only [Turn.step, perform, hrefused] at hwell
      cases hwell
    · exact fun f hf => absurd hf.phase hphase

theorem shown_perform {packs : List Pack} (past : List (Turn Session Operation)) (s : Session)
    (t : Trail) (op : Operation) (h : Shown packs past s) :
    Shown packs (past ++ [⟨s, t, op⟩]) (s.perform t op).state := by
  have hforward := perform_forward s t op
  cases op with
  | start => exact shown_start t h
  | reset =>
      obtain ⟨hpacks, hcontexts, hstarted⟩ := s.reset_kept t
      refine h.of_kept hpacks hcontexts hforward ?_ ?_ ?_
      · exact fun _ => ⟨[], by rw [List.append_nil, perform, hstarted]⟩
      · rintro ⟨hop, -⟩
        cases hop
      · rintro f ⟨hop, -⟩
        cases hop
  | stop =>
      obtain ⟨hpacks, hcontexts⟩ := s.stop_kept t
      refine h.of_kept hpacks hcontexts hforward ?_ ?_ ?_
      · exact fun hlive => absurd (s.stop_phase t) hlive
      · rintro ⟨hop, -⟩
        cases hop
      · rintro f ⟨hop, -⟩
        cases hop

/-- A new session that fails to start for want of a context has recorded all of its packs. -/
theorem Shown.failed {packs : List Pack} {past : List (Turn Session Operation)}
    {x : Turn Session Operation} {f : Failure} (h : Shown packs past x.state)
    (hf : FailsToShow packs x f) :
    (x.step perform).answer = .error f ∧ (x.step perform).state.contexts = [] ∧
      (x.step perform).state.phase = .notStarted ∧
      (x.step perform).state.started = x.state.started ++ packs := by
  obtain ⟨s, t, op⟩ := x
  obtain ⟨rfl, hphase, hbegun, hcontext⟩ := hf
  obtain rfl : s.packs = packs := h.same_packs
  obtain ⟨hanswer, hkeeps, hrecorded, -⟩ := start_of_contextFailure hphase hbegun hcontext
  have hempty : s.contexts = [] := h.empty fun y hy hwell => (h.collected y hy hwell).1 hphase
  exact ⟨hanswer, hkeeps.view.contexts.trans hempty, hkeeps.view.phase.trans hphase, hrecorded⟩

/-! ## The law -/

/-- Of the packs that are recorded, a session that ends asks those behind which no newer one fails
to stop, and all of them exactly if none but the oldest fails. -/
theorem stop_reached {s : Session} (h : s.phase ≠ .ended) (t : Trail) :
    ∃ called, called <+: s.started.reverse ∧
      (s.stop t).trail.callsSince t = stopCalls called ∧
      (∀ newer p older, s.started.reverse = newer ++ p :: older →
        (newer ++ [p] <+: called ↔ stopFailure? newer t.calls = none)) ∧
      (called = s.started.reverse ↔ stopFailure? s.started.tail.reverse t.calls = none) := by
  have htrail : (s.stop t).trail = (stopPacks s.started.reverse t).2 := by
    unfold stop
    split
    · next hended => exact absurd hended h
    · rfl
  obtain ⟨called, hfirst, hcalled, hreached⟩ := stopPacks_reached s.started.reverse t
  rw [← htrail] at hcalled
  have hall := reached_all_iff hfirst hreached
  rw [List.dropLast_reverse] at hall
  exact ⟨called, hfirst, hcalled.callsSince, hreached, hall⟩

/-- The law of the contexts of a session over packs: of its turns, and of the state and the trail
at its end. -/
structure ContextLaw (packs : List Pack) (xs : List (Turn Session Operation)) (s : Session)
    (t : Trail) : Prop where
  /-- Until a turn starts the session it has no contexts, and refuses every type. -/
  empty : (∀ x ∈ xs, ¬ StartsWell x) →
    s.contexts = [] ∧ ∀ type, s.require type = .error (.session (.noContext type))
  /-- From then on it has those that its packs showed in this turn, in the order of the packs. -/
  collected : ∀ x ∈ xs, StartsWell x → ∃ answers, Answers packs (callsBegun packs x) answers ∧
    s.contexts = answers.filterMap id
  /-- The context of the first pack that showed one of a type is found. -/
  found : ∀ x ∈ xs, StartsWell x → ∀ type c,
    s.require type = .ok c ↔ ShowsFirst packs (callsBegun packs x) type c
  /-- A type is refused exactly if no pack showed a context of it. -/
  refused : ∀ x ∈ xs, StartsWell x → ∀ type f,
    s.require type = .error f ↔ f = .session (.noContext type) ∧
      ∀ c, Shows packs (callsBegun packs x) c → c.isA type = false
  /-- A pack that fails to show its context leaves the session new and without contexts, and all
  packs recorded. -/
  failed : ∀ x ∈ xs, ∀ f, FailsToShow packs x f →
    (x.step perform).answer = .error f ∧ (x.step perform).state.contexts = [] ∧
      (x.step perform).state.phase = .notStarted ∧
      (x.step perform).state.started = x.state.started ++ packs
  /-- They stay recorded until the session ends. -/
  recorded : ∀ x ∈ xs, ∀ f, FailsToShow packs x f → s.phase ≠ .ended →
    x.state.started ++ packs <+: s.started
  /-- A pack that is recorded is asked to stop when the session ends, exactly if no newer one fails
  to; all of them are asked exactly if none but the oldest fails. -/
  released : s.phase ≠ .ended → ∃ called, called <+: s.started.reverse ∧
    (s.stop t).trail.callsSince t = stopCalls called ∧
    (∀ newer p older, s.started.reverse = newer ++ p :: older →
      (newer ++ [p] <+: called ↔ stopFailure? newer t.calls = none)) ∧
    (called = s.started.reverse ↔ stopFailure? s.started.tail.reverse t.calls = none)

/-- Over any packs, each of which shows a context, shows none or fails, at each call, every
sequence of operations on a new session obeys the law of its contexts. -/
theorem contexts_law (packs : List Pack) (arguments : List String) (t : Trail)
    (ops : List Operation) :
    ContextLaw packs (turns perform (new packs arguments) t ops)
      (finish perform (new packs arguments) t ops).1
      (finish perform (new packs arguments) t ops).2 := by
  have hshown := past_invariant_finish perform (P := fun past s _ => Shown packs past s)
    shown_perform (shown_new packs arguments) (t := t) ops
  constructor
  case empty =>
    intro hnone
    have hempty := hshown.empty hnone
    refine ⟨hempty, fun type => SessionView.require_eq_error_iff.mpr ⟨rfl, ?_⟩⟩
    rw [hempty]
    exact nofun
  case collected => exact fun x hx hwell => (hshown.collected x hx hwell).2
  case found =>
    intro x hx hwell type c
    obtain ⟨answers, hanswers, hcontexts⟩ := (hshown.collected x hx hwell).2
    exact require_iff hcontexts hanswers
  case refused =>
    intro x hx hwell type f
    obtain ⟨answers, hanswers, hcontexts⟩ := (hshown.collected x hx hwell).2
    exact require_error_iff hcontexts hanswers
  case failed =>
    intro x hx f hf
    obtain ⟨before, after, hcut⟩ := List.append_of_mem hx
    have hthen := past_invariant perform (P := fun past s _ => Shown packs past s)
      shown_perform (shown_new packs arguments) hcut
    exact hthen.failed hf
  case recorded => exact hshown.recorded
  case released => exact fun hphase => stop_reached hphase _

/-- A pack that starts, and neither shows its context nor stops. -/
def mute : Pack :=
  { Pack.steady ⟨"mute", "mute", "Pack"⟩ [] none with
    context := fun _ => .error (.raised ⟨"RuntimeError", "no context"⟩)
    onStop := fun _ => some (.raised ⟨"RuntimeError", "stuck"⟩) }

/-- Two packs, of which the newer is the one above. -/
def mutePacks : List Pack := [.steady ⟨"a", "a", "Pack"⟩ [] none, mute]

/-- Both packs start and are recorded, and the session has no contexts.  When it ends, the newer
one alone is asked to stop. -/
theorem unreleased_in_sample :
    ∃ x f s t, turns perform (new mutePacks []) .empty [.start] = [x] ∧
      FailsToShow mutePacks x f ∧ finish perform (new mutePacks []) .empty [.start] = (s, t) ∧
      s.contexts = [] ∧ mutePacks <+: s.started ∧
      ∃ called, (s.stop t).trail.callsSince t = stopCalls called ∧
        called ≠ s.started.reverse := by
  obtain ⟨x, s, t, hturns, hrun, hx, hphase, hwell, hfails⟩ :
      ∃ x s t, turns perform (new mutePacks []) .empty [.start] = [x] ∧
        finish perform (new mutePacks []) .empty [.start] = (s, t) ∧
        FailsToShow mutePacks x (.raised ⟨"RuntimeError", "no context"⟩) ∧
        s.phase = .notStarted ∧ (x.step perform).answer ≠ .ok () ∧
        stopFailure? s.started.tail.reverse t.calls ≠ none :=
    ⟨_, _, _, rfl, rfl, ⟨rfl, rfl, rfl, rfl⟩, rfl, nofun, nofun⟩
  have hlaw := contexts_law mutePacks [] .empty [.start]
  rw [hturns, hrun] at hlaw
  have hlive : s.phase ≠ .ended := by simp [hphase]
  have hunstarted : ∀ y ∈ [x], ¬ StartsWell y := by
    intro y hy
    rw [List.mem_singleton.mp hy]
    exact fun h => hwell h.2
  have hkept := hlaw.recorded x List.mem_cons_self _ hx hlive
  obtain ⟨called, -, hcalls, -, hall⟩ := hlaw.released hlive
  refine ⟨x, _, s, t, hturns, hx, hrun, (hlaw.empty hunstarted).1, ?_, called, hcalls, ?_⟩
  · have hnew : x.state.started = [] := by
      cases hturns
      rfl
    rwa [hnew] at hkept
  · exact fun heq => hfails (hall.mp heq)

end Session

end ScriptHost
