import ScriptHost.Log.Record
import ScriptHost.ReferenceSet
import ScriptHost.Session.View

/-!
# The trail of an operation

An operation of the host calls on its collaborators and says what it does.  Both are kept in
its trail, newest first.  Collaborators answer as they like; all that their answer may depend
on, besides what they are asked, is the list of the calls that were made before, so a
collaborator that keeps count, or that fails at its third call only, is one of them.
-/

namespace ScriptHost

/-- Where an engine finds its folders, and which file it believes to run. -/
structure Desk where
  baseDirectory : Option String
  cacheDirectory : Option String
  fileName : Option String
  deriving DecidableEq, Repr, Inhabited

/-- The desk of an engine that was not told anything. -/
def Desk.bare : Desk := ⟨none, none, none⟩

/-- Everything that an engine receives in one execution. -/
structure Submission where
  code : String
  arguments : List String
  /-- The paths of the reference set. -/
  paths : List String
  /-- The modules of the reference set. -/
  modules : List Module
  namespaces : List String
  desk : Desk
  session : SessionView
  deriving Repr

/-- Which pack it is, what it is called, and of what kind it is. -/
structure PackLabel where
  identity : String
  name : String
  kind : String
  deriving DecidableEq, Repr, Inhabited

/-- A call on a collaborator. -/
inductive Call where
  /-- A pack is asked to start. -/
  | startPack (pack : PackLabel)
  /-- A pack has started. -/
  | startedPack (pack : PackLabel)
  /-- A pack is asked for its context. -/
  | askContext (pack : PackLabel)
  /-- A pack is asked to stop. -/
  | stopPack (pack : PackLabel)
  /-- The file system is asked whether a file exists. -/
  | probe (path : String)
  | processFile (path : String)
  | processText (text : String)
  /-- The engine is asked to run code. -/
  | execute (submission : Submission)
  deriving Repr

/-- The calls and the records of an operation, newest first. -/
structure Trail where
  calls : List Call
  /-- The records, each with the number of the calls that were made before it. -/
  records : List (Nat × Log.Record)
  deriving Repr

namespace Trail

/-- The trail before anything happened. -/
def empty : Trail := ⟨[], []⟩

/-- The trail after one more call. -/
def call (t : Trail) (c : Call) : Trail := { t with calls := c :: t.calls }

/-- The trail after one more record. -/
def log (t : Trail) (r : Log.Record) : Trail :=
  { t with records := (t.calls.length, r) :: t.records }

/-- The calls that were made since an earlier trail, oldest first. -/
def callsSince (t earlier : Trail) : List Call :=
  (t.calls.take (t.calls.length - earlier.calls.length)).reverse

/-- The records that were made since an earlier trail, oldest first. -/
def recordsSince (t earlier : Trail) : List Log.Record :=
  ((t.records.take (t.records.length - earlier.records.length)).map Prod.snd).reverse

/-- The trail as it was when a record was made, by its number among all of the trail, from the
oldest on; what an earlier trail holds stays. -/
def backTo (t earlier : Trail) (n : Nat) : Trail :=
  let count := (t.records.reverse[n]?.map Prod.fst).getD 0
  { calls := ((t.callsSince earlier).take (count - earlier.calls.length)).reverse ++ earlier.calls
    records := t.records.drop (t.records.length - n) }

/-- The trail after more records, oldest first. -/
def logAll (t : Trail) (rs : List Log.Record) : Trail := rs.foldl log t

@[simp] theorem calls_log (t : Trail) (r : Log.Record) : (t.log r).calls = t.calls := rfl

@[simp] theorem calls_call (t : Trail) (c : Call) : (t.call c).calls = c :: t.calls := rfl

@[simp] theorem calls_logAll (t : Trail) (rs : List Log.Record) :
    (t.logAll rs).calls = t.calls := by
  unfold logAll
  induction rs generalizing t with
  | nil => rfl
  | cons r rs ih => rw [List.foldl_cons, ih, calls_log]

end Trail

/-- What an operation answers, and what it leaves behind. -/
structure Step (σ α : Type) where
  answer : Except Failure α
  state : σ
  trail : Trail

namespace Step

variable {σ τ α : Type}

/-- An answered operation. -/
def ok (value : α) (state : σ) (trail : Trail) : Step σ α := ⟨.ok value, state, trail⟩

/-- A failed operation. -/
def error (failure : Failure) (state : σ) (trail : Trail) : Step σ α :=
  ⟨.error failure, state, trail⟩

/-- The same operation on a larger state. -/
def lift (wrap : σ → τ) (step : Step σ α) : Step τ α :=
  ⟨step.answer, wrap step.state, step.trail⟩

end Step

end ScriptHost
