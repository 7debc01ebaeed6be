import ScriptHost.Pack

/-!
# Sessions

A session spans the time between the start and the end of its packs.  Starting it runs the
start hook of every pack in order and then collects the contexts; a pack that fails leaves the
packs before it started, and ending the session releases exactly those, newest first.  A reset
clears the shared state and lets the script library be spliced in again.

## Main results

* `start_of_not_new`, `stop_of_ended`, `reset_of_ended` — a refused operation changes nothing.
* `stop_phase` — a session that is asked to end has ended, whatever its packs do.
-/

namespace ScriptHost

/-- A session: what it shows, its packs, and those of them that have started. -/
structure Session extends SessionView where
  packs : List Pack
  /-- The packs whose start hook has completed, oldest first. -/
  started : List Pack

namespace Session

/-- The name under which sessions speak. -/
def logger : String := "scriptcore.core.session"

/-- A session that has not started. -/
def new (packs : List Pack) (arguments : List String) : Session :=
  { SessionView.new arguments with packs := packs, started := [] }

/-- Whether a session accepts executions. -/
def isActive (s : Session) : Bool := s.phase == .started

/-- The session with another view. -/
def withView (s : Session) (v : SessionView) : Session := { s with toSessionView := v }

/-- The names of the packs. -/
def packNames (s : Session) : List String := s.packs.map Pack.name

/-- How a session shows itself. -/
def display (s : Session) : String :=
  "ExecutionSession(phase=" ++ s.phase.word ++ ", packs=" ++ Number.natText s.packs.length ++
    ", injected=" ++ (if s.injected then "True" else "False") ++ ")"

/-! ## Starting -/

/-- Runs the start hooks of packs in order, until one fails. -/
def startPacks : List Pack → Session → Trail → Step Session Unit
  | [], s, t => .ok () s t
  | p :: ps, s, t =>
    let t := t.log (.debug logger ("Initializing script pack [magenta]" ++ p.name ++ "[/]"))
    let actions := p.onStart t.calls
    let t := t.call (.startPack p.label)
    match s.toSessionView.performAll actions with
    | (v, some f) => .error f (s.withView v) t
    | (v, none) =>
      startPacks ps { s.withView v with started := s.started ++ [p] }
        (t.call (.startedPack p.label))

/-- Asks packs for their contexts in order, until one fails. -/
def askContexts : List Pack → Trail → Step (List Context) Unit
  | [], t => .ok () [] t
  | p :: ps, t =>
    match p.context t.calls with
    | .error f => .error f [] (t.call (.askContext p.label))
    | .ok none => askContexts ps (t.call (.askContext p.label))
    | .ok (some c) => (askContexts ps (t.call (.askContext p.label))).lift (c :: ·)

/-- Starts a session: its packs first, then their contexts. -/
def start (s : Session) (t : Trail) : Step Session Unit :=
  match s.phase with
  | .notStarted =>
    let begun := startPacks s.packs s t
    match begun.answer with
    | .error f => .error f begun.state begun.trail
    | .ok () =>
      let asked := askContexts s.packs begun.trail
      match asked.answer with
      | .error f => .error f begun.state asked.trail
      | .ok () =>
        .ok () { begun.state with contexts := asked.state, phase := .started } asked.trail
  | phase => .error (.session (.cannotStart phase)) s t

/-! ## Resetting and ending -/

/-- The session with an empty state and the script library not spliced in. -/
def cleared (s : Session) : Session := { s with state := [], injected := false }

/-- Resets a session. -/
def reset (s : Session) (t : Trail) : Step Session Unit :=
  match s.phase with
  | .ended => .error (.session .resetEnded) s t
  | _ => .ok () s.cleared t

/-- Runs the stop hooks of packs in order, until one fails. -/
def stopPacks : List Pack → Trail → Except Failure Unit × Trail
  | [], t => (.ok (), t)
  | p :: ps, t =>
    let t := t.log (.debug logger ("Terminating script pack [magenta]" ++ p.name ++ "[/]"))
    match p.onStop t.calls with
    | some f => (.error f, t.call (.stopPack p.label))
    | none => stopPacks ps (t.call (.stopPack p.label))

/-- Ends a session, releasing the packs that have started, newest first. -/
def stop (s : Session) (t : Trail) : Step Session Unit :=
  match s.phase with
  | .ended => .error (.session .alreadyEnded) s t
  | _ =>
    let (answer, t) := stopPacks s.started.reverse t
    ⟨answer, { s with started := [], phase := .ended }, t⟩

/-! ## What refusals and endings leave behind -/

theorem start_of_not_new {s : Session} (h : s.phase ≠ .notStarted) (t : Trail) :
    s.start t = .error (.session (.cannotStart s.phase)) s t := by
  unfold start
  split
  · next h' => exact absurd h' h
  · rfl

theorem reset_of_ended {s : Session} (h : s.phase = .ended) (t : Trail) :
    s.reset t = .error (.session .resetEnded) s t := by
  simp [reset, h]

theorem stop_of_ended {s : Session} (h : s.phase = .ended) (t : Trail) :
    s.stop t = .error (.session .alreadyEnded) s t := by
  simp [stop, h]

theorem stop_phase (s : Session) (t : Trail) : (s.stop t).state.phase = .ended := by
  unfold stop
  split
  · next h => exact h
  · rfl

end Session

end ScriptHost
