import ScriptHost.FileSystem
import ScriptHost.Script.Preprocessed

/-!
# Pre-processors

A pre-processor turns a file or a text into a pre-processed script.  Most make a new result
each time.  One that keeps its results hands out the same object again and again, with
everything that was done to it in between; `Pool` holds these objects by the name under which
the pre-processor keeps them.

## Main results

* `receive_fresh` — a new result is taken as it is and leaves the pool alone.
* `receive_revise` — a kept result comes back as it was left.
-/

namespace ScriptHost

open Sequence (Entries)

/-- A result in hand, and the name under which its maker keeps it, if it does. -/
structure Handout where
  content : Preprocessed
  keptAs : Option String
  deriving Repr

/-- A pre-processor. -/
structure PreProcessor where
  kind : String
  /-- The result for a file, given the calls made before. -/
  ofFile : FileSystem → List Call → String → Except Failure Handout
  /-- The result for a text, given the calls made before. -/
  ofText : List Call → String → Except Failure Handout

/-- The results that a pre-processor keeps, as they were left. -/
abbrev Pool := Entries Preprocessed

namespace Pool

/-- Takes a result: a kept one is the object that was handed out first. -/
def receive (pool : Pool) (h : Handout) : Handout × Pool :=
  match h.keptAs with
  | none => (h, pool)
  | some name =>
    match pool.get? name with
    | some content => (⟨content, some name⟩, pool)
    | none => (h, pool.put name h.content)

/-- Changes a result in hand, and with it the object that is kept. -/
def revise (pool : Pool) (h : Handout) (content : Preprocessed) : Handout × Pool :=
  match h.keptAs with
  | none => (⟨content, none⟩, pool)
  | some name => (⟨content, some name⟩, pool.put name content)

theorem receive_fresh {pool : Pool} {h : Handout} (hk : h.keptAs = none) :
    receive pool h = (h, pool) := by
  simp [receive, hk]

theorem receive_revise (pool : Pool) {h : Handout} (again content : Preprocessed) {name : String}
    (hk : h.keptAs = some name) :
    receive (revise pool h content).2 ⟨again, some name⟩ =
      (⟨content, some name⟩, (revise pool h content).2) := by
  simp [receive, revise, hk, Entries.get?_put_self]

end Pool

namespace PreProcessor

/-- The pre-processor that hands source over unchanged and declares nothing. -/
def passthrough : PreProcessor where
  kind := "PassthroughPreProcessor"
  ofFile fs calls path :=
    match fs.fileText calls path with
    | .error f => .error f
    | .ok text => .ok ⟨{ Preprocessed.plain text with loadPaths := [path] }, none⟩
  ofText _ text := .ok ⟨Preprocessed.plain text, none⟩

end PreProcessor

end ScriptHost
