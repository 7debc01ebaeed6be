import ScriptHost.Proofs.Command.Search
import ScriptHost.Proofs.Executor.Provenance
import ScriptHost.Proofs.Path.RoundTrip

/-!
# Files and texts

A script may be executed as a file by its name in the current directory, or as a text.  The first
way goes through a path and its parent, the second takes the current directory as it is, and both
come to the same place: the bundle is looked for at one path, whatever spelling the current
directory has.  If the pre-processor then makes the same of the file and of the text, the engine
receives the same, up to the file name that it is told of a file, and the executors that are left
differ in that file name alone.

Two things are not up to the host.  What was pre-processed before may change what the bundle is made
of, as when the pre-processor keeps its results; and an engine may look at the file name.

## Main results

* `libraryPath_beside` — next to a file of the current directory lies what lies in that directory.
* `compose_spec` — what is composed of a script and of the bundle, if the bundle is due.
* `agreement` — how the two executions agree.
-/

namespace ScriptHost

/-! ## Places -/

namespace Path

theorem ofString_beside {name : String} (h : IsName name) (directory : String) :
    ofString (joinText directory name) =
      ⟨(ofString directory).root, (ofString directory).parts ++ [name]⟩ := by
  rw [ofString_joinText, parts_ofString_name h.no_slash h.not_empty h.not_dot]
  rfl

/-- A file of a directory has its name. -/
theorem name_beside {name : String} (h : IsName name) (directory : String) :
    (ofString (joinText directory name)).name = name := by
  rw [ofString_beside h]
  simp [Path.name]

/-- The directory of a file is the one that it was found in. -/
theorem parent_beside {name : String} (h : IsName name) (directory : String) :
    (ofString (joinText directory name)).parent = ofString directory := by
  rw [ofString_beside h]
  simp [parent]

/-- How a directory is spelled makes no difference to what lies in it. -/
theorem joinText_normal (directory : String) (more : String) :
    joinText (ofString directory).toString more = joinText directory more := by
  rw [joinText, ofString_toString (ofString_isProper directory)]
  rfl

theorem isAbsoluteText_of_isName {name : String} (h : IsName name) :
    isAbsoluteText name = false := by
  rw [Bool.eq_false_iff, Ne, isAbsoluteText_iff, parts_ofString_name h.no_slash h.not_empty
    h.not_dot]
  exact fun hroot => hroot rfl

end Path

namespace Sources

/-- Next to a file of a directory lies what lies in that directory. -/
theorem libraryPath_beside {name : String} (h : Path.IsName name) (src : Sources)
    (directory : String) :
    src.libraryPath (some (Path.ofString (Path.joinText directory name)).parent.toString) =
      src.libraryPath (some directory) := by
  rw [Path.parent_beside h]
  simp only [libraryPath, FileSystem.join, FileSystem.pathText, Path.joinText_normal]

/-- Where the bundle lies is all that the directory is for. -/
theorem load_congr {src : Sources} {directory other : Option String}
    (h : src.libraryPath directory = src.libraryPath other) (logger : String) (t : Trail) :
    src.load logger t directory = src.load logger t other := by
  unfold load
  rw [h]

theorem lookupCalls_congr {src : Sources} {directory other : Option String}
    (h : src.libraryPath directory = src.libraryPath other) (calls : List Call) :
    src.lookupCalls calls directory = src.lookupCalls calls other := by
  unfold lookupCalls
  rw [h]

/-- Whatever was called before, the bundle is asked for at its path, if that can be told. -/
theorem probed_lookupCalls_any (src : Sources) (directory : Option String)
    (calls calls' : List Call) :
    probed (src.lookupCalls calls directory) = probed (src.lookupCalls calls' directory) := by
  cases hpath : src.libraryPath directory with
  | error f => simp [lookupCalls, hpath]
  | ok path => rw [Executor.probed_lookupCalls hpath, Executor.probed_lookupCalls hpath]

end Sources

/-! ## What an engine can see -/

namespace Preprocessed

/-- A script without what no engine sees: the files that were read on the way. -/
def visible (script : Preprocessed) : Preprocessed := { script with loadPaths := [] }

/-- A script with a bundle in front of it, if there is one. -/
def withBundle (script : Preprocessed) : Option Preprocessed → Preprocessed
  | none => script
  | some bundle => script.withLibrary bundle

theorem visible_eq_iff {script other : Preprocessed} :
    script.visible = other.visible ↔ script.code = other.code ∧
      script.references = other.references ∧ script.namespaces = other.namespaces := by
  simp [visible]

end Preprocessed

/-- A submission to an engine that was told a file name. -/
def Submission.named (s : Submission) (name : String) : Submission :=
  { s with desk := { s.desk with fileName := some name } }

/-- What can be seen of a script that was pre-processed. -/
def Handout.seen (h : Handout) : Preprocessed := h.content.visible

/-- What can be seen of the bundle for scripts in a directory, if it is loaded once a script was
pre-processed. -/
def Sources.bundleAfter (processed : Step Sources Handout) (directory : Option String) :
    Except Failure (Option Preprocessed) :=
  (processed.state.load Executor.logger processed.trail directory).answer.map
    (Option.map Handout.seen)

namespace Executor

/-! ## Composing -/

/-- What can be seen of the bundle in a prepared execution: nothing if it is not due. -/
def seenBundle (e : Executor) (p : Prepared) : Except Failure (Option Preprocessed) :=
  if p.session.injected then .ok none
  else ((e.ready p).toSources.load logger p.trail p.directory).answer.map (Option.map Handout.seen)

theorem seenBundle_of_lookup {e : Executor} {p : Prepared} (h : p.session.injected = false) :
    e.seenBundle p = (e.lookup p).map
      (Option.map fun answer => ((e.ready p).toSources.receive answer).1.seen) := by
  obtain ⟨-, hload⟩ := (e.ready p).toSources.load_spec logger p.trail p.directory
  have hlookup : (e.ready p).toSources.lookup p.trail.calls p.directory = e.lookup p := rfl
  rw [hlookup] at hload
  rw [seenBundle, h, if_neg Bool.false_ne_true]
  cases hfound : e.lookup p with
  | error f =>
      simp only [hfound] at hload
      rw [hload.1]
      rfl
  | ok found =>
      cases found with
      | none =>
          simp only [hfound] at hload
          rw [hload.1]
          rfl
      | some answer =>
          simp only [hfound] at hload
          rw [hload.1]
          rfl

/-- A script is composed with the bundle that is seen, and not at all if none can be told. -/
theorem compose_spec (e : Executor) (p : Prepared) :
    match e.seenBundle p with
    | .error f => e.compose p = .error f
    | .ok bundle => ∃ c, e.compose p = .ok c ∧
        c.script.visible = ((e.toSources.receive p.script).1.seen).withBundle bundle := by
  cases hinjected : p.session.injected with
  | true =>
      rw [seenBundle, hinjected, if_pos rfl]
      exact ⟨_, compose_of_injected hinjected, rfl⟩
  | false =>
      rw [seenBundle_of_lookup hinjected]
      cases hfound : e.lookup p with
      | error f => exact compose_of_lookup_error hinjected hfound
      | ok found =>
          cases found with
          | none => exact ⟨_, compose_of_no_bundle hinjected hfound, rfl⟩
          | some answer =>
              refine ⟨_, compose_of_bundle hinjected hfound, ?_⟩
              simp only [Sources.content_revise]
              rfl

/-! ## Two executions of one executor -/

/-- An executor whose engine was told a file name, with other results in the pool. -/
def told (e : Executor) (name : String) (pool : Pool) : Executor :=
  { e with pool := pool, desk := { e.desk with fileName := some name } }

section Composed

variable {e : Executor} {p q : Prepared}

/-- Scripts that look the same, with bundles that do, are both not composed or look the same when
they are. -/
theorem compose_alike
    (hscript : (e.toSources.receive p.script).1.seen = (e.toSources.receive q.script).1.seen)
    (hbundle : e.seenBundle p = e.seenBundle q) :
    (∃ f, e.compose p = .error f ∧ e.compose q = .error f) ∨
      ∃ c d, e.compose p = .ok c ∧ e.compose q = .ok d ∧ c.script.visible = d.script.visible := by
  have hp := compose_spec e p
  have hq := compose_spec e q
  rw [hbundle] at hp
  cases hseen : e.seenBundle q with
  | error f =>
      rw [hseen] at hp hq
      exact .inl ⟨f, hp, hq⟩
  | ok bundle =>
      rw [hseen] at hp hq
      obtain ⟨c, hc, hvisible⟩ := hp
      obtain ⟨d, hd, hvisible'⟩ := hq
      refine .inr ⟨c, d, hc, hd, ?_⟩
      rw [hvisible, hvisible', hscript]

variable {c d : Composed} {name : String} (hc : e.compose p = .ok c) (hd : e.compose q = .ok d)
  (hsession : p.session = q.session) (hvisible : c.script.visible = d.script.visible)
  (hnamed : p.fileName = some name) (hunnamed : q.fileName = none)
include hc hd hsession hvisible hnamed hunnamed

/-- Composed scripts that look the same leave executors that differ in the file name alone. -/
theorem merged_alike : ∃ pool, c.merged = d.merged.told name pool := by
  obtain ⟨pool, hexecutor, -⟩ := compose_executor hc
  obtain ⟨pool', hexecutor', -⟩ := compose_executor hd
  obtain ⟨-, hreferences, -⟩ := Preprocessed.visible_eq_iff.mp hvisible
  refine ⟨pool, ?_⟩
  rw [Composed.merged, Composed.merged, hexecutor, hexecutor', hreferences]
  simp only [ready, told, hnamed, hunnamed, hsession]
  rfl

/-- Composed scripts that look the same are handed over alike, but for the file name. -/
theorem submission_alike (arguments : List String) :
    c.submission arguments = (d.submission arguments).named name := by
  obtain ⟨pool, hmerged⟩ := merged_alike hc hd hsession hvisible hnamed hunnamed
  obtain ⟨-, -, hmarked⟩ := compose_executor hc
  obtain ⟨-, -, hmarked'⟩ := compose_executor hd
  obtain ⟨hcode, -, hnames⟩ := Preprocessed.visible_eq_iff.mp hvisible
  rw [Composed.submission, Composed.submission, hmerged, hmarked, hmarked', hsession]
  simp only [submission, hcode, hnames]
  rfl

end Composed

/-! ## A file and a text -/

/-- Whether the bundle, if it is due, looks the same whether the file of a name or a text was
pre-processed before. -/
def BundleAlike (e : Executor) (t : Trail) (directory name text : String) : Prop :=
  ∀ s, e.session = some s → s.injected = false →
    Sources.bundleAfter (e.processFile t (Path.joinText directory name)) (some directory) =
      Sources.bundleAfter (e.processText t text) (some directory)

section FileAndText

variable {e : Executor} {t : Trail} {s : Session} {directory name : String}
  (hlive : e.liveSession = .ok s)
  (hdirectory : e.fileSystem.currentDirectory t.calls = .ok (some directory))
  (hname : Path.IsName name)
include hdirectory hname

/-- A file is named by its place in the current directory. -/
theorem scriptPath_beside : e.scriptPath t.calls name = .ok (Path.joinText directory name) := by
  rw [scriptPath, Path.isAbsoluteText_of_isName hname, hdirectory]
  rfl

include hlive

theorem prepare_file {h : Handout} (arguments : List String)
    (hanswer : e.preProcessor.ofFile e.fileSystem t.calls (Path.joinText directory name) = .ok h) :
    ∃ p, e.prepare t (.execute name arguments) = some p ∧ p.session = s ∧ p.script = h ∧
      p.fileName = some name ∧ p.arguments = arguments ∧
      e.libraryPath p.directory = e.libraryPath (some directory) ∧
      (s.injected = false → e.seenBundle p =
        Sources.bundleAfter (e.processFile t (Path.joinText directory name)) (some directory)) := by
  have hplace := Sources.libraryPath_beside hname e.toSources directory
  refine ⟨⟨s, h, some (Path.ofString (Path.joinText directory name)).parent.toString, some name,
    arguments, t.call (.processFile (Path.joinText directory name))⟩, ?_, rfl, rfl, rfl, rfl,
    hplace, ?_⟩
  · simp only [prepare, hlive, scriptPath_beside hdirectory hname, hanswer, Path.name_beside hname]
  · intro hinjected
    have hready : (e.toSources.receive h).2.libraryPath
          (some (Path.ofString (Path.joinText directory name)).parent.toString) =
        (e.toSources.receive h).2.libraryPath (some directory) := hplace
    simp only [seenBundle, hinjected, Bool.false_eq_true, if_false, ready, Sources.bundleAfter,
      Sources.processFile, hanswer, Step.ok]
    rw [Sources.load_congr hready]

omit hdirectory hname in
theorem prepare_text {text : String} {h : Handout} (arguments : List String)
    (hanswer : e.preProcessor.ofText t.calls text = .ok h)
    (hstill : e.fileSystem.currentDirectory (.processText text :: t.calls) =
      .ok (some directory)) :
    ∃ q, e.prepare t (.executeText text arguments) = some q ∧ q.session = s ∧ q.script = h ∧
      q.fileName = none ∧ q.arguments = arguments ∧ q.directory = some directory ∧
      (s.injected = false → e.seenBundle q =
        Sources.bundleAfter (e.processText t text) (some directory)) := by
  refine ⟨⟨s, h, some directory, none, arguments, t.call (.processText text)⟩, ?_, rfl, rfl, rfl,
    rfl, rfl, ?_⟩
  · simp only [prepare, hlive, hanswer, hstill]
  · intro hinjected
    simp only [seenBundle, hinjected, Bool.false_eq_true, if_false, ready, Sources.bundleAfter,
      Sources.processText, hanswer, Step.ok]

end FileAndText

/-- How the execution of a file of the current directory and the execution of a text agree. -/
structure Agreement (e : Executor) (t : Trail) (directory name text : String)
    (arguments : List String) (file script : Step Executor (Option ScriptResult)) : Prop where
  /-- The file is pre-processed by its place in the current directory, and next to it lies what lies
  in that directory. -/
  place : e.scriptPath t.calls name = .ok (Path.joinText directory name) ∧
    e.libraryPath (some (Path.ofString (Path.joinText directory name)).parent.toString) =
      e.libraryPath (some directory)
  /-- If pre-processing fails, both fail with it, and nothing else is called or changed. -/
  refused : ∀ f, (e.processText t text).answer = .error f →
    file.answer = .error f ∧ script.answer = .error f ∧ file.state = e ∧ script.state = e ∧
      file.trail.callsSince t = [.processFile (Path.joinText directory name)] ∧
      script.trail.callsSince t = [.processText text]
  /-- Both ask for the bundle at the same path. -/
  looked : probed (file.trail.callsSince t) = probed (script.trail.callsSince t)
  /-- If pre-processing succeeds, the engine is told the name of the file, and that is all by which
  the executors differ that are left. -/
  left : (∃ h, (e.processText t text).answer = .ok h) → BundleAlike e t directory name text →
    (∃ pool, file.state = script.state.told name pool) ∧
      script.state.desk.fileName = e.desk.fileName
  /-- Both fail in the same way before the engine is called, or the engine receives the same but for
  the file name. -/
  handed : (∃ h, (e.processText t text).answer = .ok h) → BundleAlike e t directory name text →
    (∃ f, file.answer = .error f ∧ script.answer = .error f ∧
      received (file.trail.callsSince t) = [] ∧ received (script.trail.callsSince t) = []) ∨
    ∃ sub, received (file.trail.callsSince t) = [sub.named name] ∧
      received (script.trail.callsSince t) = [sub] ∧
      sub.arguments = arguments ∧ sub.desk.fileName = e.desk.fileName ∧
      file.answer = (e.engine.run file.trail.calls.tail (sub.named name)).map some ∧
      script.answer = (e.engine.run script.trail.calls.tail sub).map some
  /-- Both answer the same, unless the engine makes a difference between the two. -/
  answered : BundleAlike e t directory name text →
    (∀ sub, received (script.trail.callsSince t) = [sub] →
      e.engine.run file.trail.calls.tail (sub.named name) =
        e.engine.run script.trail.calls.tail sub) →
    file.answer = script.answer
  /-- A pre-processor that keeps no results has none afterwards that it had not before. -/
  kept : e.preProcessor.Fresh → file.state.pool = e.pool ∧ script.state.pool = e.pool

section Law

variable {e : Executor} {t : Trail} {directory name text : String} {arguments : List String}

theorem pool_of_fresh {op : Operation} {p : Prepared} (hfresh : e.preProcessor.Fresh)
    (h : e.prepare t op = some p) : (e.perform t op).state.pool = e.pool := by
  rw [state_of_prepared h]
  cases hc : e.compose p with
  | error f =>
      have hscript := fresh_of_prepared hfresh h
      simp only [ready, Sources.receive, Pool.receive_fresh hscript]
  | ok c => exact congrArg Sources.pool (declared_of_fresh hfresh h hc).2.2

section Prepared

variable {op op' : Operation} {p q : Prepared} (hp : e.prepare t op = some p)
  (hq : e.prepare t op' = some q) (hsession : p.session = q.session)
  (hnamed : p.fileName = some name) (hunnamed : q.fileName = none)
  (hscript : (e.toSources.receive p.script).1.seen = (e.toSources.receive q.script).1.seen)
  (hbundle : e.seenBundle p = e.seenBundle q)
include hp hq hsession hnamed hunnamed hscript hbundle

/-- Of scripts that look the same, executors are left that differ in the file name alone. -/
theorem left_alike :
    (∃ pool, (e.perform t op).state = ((e.perform t op').state).told name pool) ∧
      (e.perform t op').state.desk.fileName = e.desk.fileName := by
  rw [state_of_prepared hp, state_of_prepared hq]
  rcases compose_alike hscript hbundle with ⟨f, hc, hd⟩ | ⟨c, d, hc, hd, hvisible⟩
  · rw [hc, hd]
    refine ⟨⟨(e.toSources.receive p.script).2.pool, ?_⟩, ?_⟩
    · simp only [ready, told, hnamed, hunnamed, hsession]
      rfl
    · simp only [ready, hunnamed]
      rfl
  · rw [hc, hd]
    obtain ⟨pool, hexecutor, -⟩ := compose_executor hd
    refine ⟨merged_alike hc hd hsession hvisible hnamed hunnamed, ?_⟩
    simp only [Composed.merged, hexecutor, ready, hunnamed]
    rfl

/-- Scripts that look the same end in the same failure, or are handed to the engine alike. -/
theorem handed_alike (harguments : p.arguments = q.arguments) :
    (∃ f, (e.perform t op).answer = .error f ∧ (e.perform t op').answer = .error f ∧
        submitted ⟨e, t, op⟩ = [] ∧ submitted ⟨e, t, op'⟩ = []) ∨
      ∃ sub, submitted ⟨e, t, op⟩ = [sub.named name] ∧ submitted ⟨e, t, op'⟩ = [sub] ∧
        sub.arguments = q.arguments ∧ sub.desk.fileName = e.desk.fileName ∧
        Answered ⟨e, t, op⟩ (sub.named name) ∧ Answered ⟨e, t, op'⟩ sub := by
  rcases compose_alike hscript hbundle with ⟨f, hc, hd⟩ | ⟨c, d, hc, hd, hvisible⟩
  · refine .inl ⟨f, ?_⟩
    obtain ⟨t₁, -, heq⟩ := perform_of_search hp
    obtain ⟨t₂, -, heq'⟩ := perform_of_search hq
    obtain ⟨cs, hmade, hcs⟩ := received_of_prepared hp
    obtain ⟨ds, hmade', hds⟩ := received_of_prepared hq
    rw [submitted_of_made hmade, submitted_of_made hmade', hcs, hds, heq, heq', hc, hd]
    exact ⟨rfl, rfl, rfl, rfl⟩
  · obtain ⟨pool, hexecutor, -⟩ := compose_executor hd
    have hdesk : (d.submission q.arguments).desk.fileName = e.desk.fileName := by
      simp only [Composed.submission, Composed.merged, submission, hexecutor, ready, hunnamed]
      rfl
    obtain ⟨hall, hanswer⟩ := submitted_of_composed hp hc
    obtain ⟨hall', hanswer'⟩ := submitted_of_composed hq hd
    rw [harguments, submission_alike hc hd hsession hvisible hnamed hunnamed] at hall hanswer
    exact .inr ⟨_, hall, hall', rfl, hdesk, hanswer, hanswer'⟩

end Prepared

/-- If neither the file nor the text can be pre-processed, both executions fail with that. -/
theorem agreement_of_error {s : Session} (hlive : e.liveSession = .ok s)
    (hdirectory : e.fileSystem.currentDirectory t.calls = .ok (some directory))
    (hname : Path.IsName name) {f : Failure}
    (hfile : e.preProcessor.ofFile e.fileSystem t.calls (Path.joinText directory name) = .error f)
    (htext : e.preProcessor.ofText t.calls text = .error f) :
    Agreement e t directory name text arguments (e.perform t (.execute name arguments))
      (e.perform t (.executeText text arguments)) := by
  have hpath := scriptPath_beside hdirectory hname
  have hfails : e.ScriptFails t (.execute name arguments) f := .inr ⟨_, hpath, hfile⟩
  obtain ⟨hanswer, hstate, hmade⟩ := perform_of_scriptFails hlive hfails
  have hfails' : e.ScriptFails t (.executeText text arguments) f := htext
  obtain ⟨hanswer', hstate', hmade'⟩ := perform_of_scriptFails hlive hfails'
  have hcalls := hmade.callsSince
  have hcalls' := hmade'.callsSince
  have hprocessed : (e.processText t text).answer = .error f := by
    simp only [Sources.processText, htext]
    rfl
  constructor
  case place => exact ⟨hpath, Sources.libraryPath_beside hname e.toSources directory⟩
  case refused =>
    intro g hg
    rw [hprocessed] at hg
    cases hg
    simp only [scriptCalls, hpath] at hcalls
    exact ⟨hanswer, hanswer', hstate, hstate', hcalls, hcalls'⟩
  case looked => rw [hcalls, hcalls', probed_scriptCalls, probed_scriptCalls]
  case left =>
    rintro ⟨h, hh⟩
    rw [hprocessed] at hh
    cases hh
  case handed =>
    rintro ⟨h, hh⟩
    rw [hprocessed] at hh
    cases hh
  case answered => exact fun _ _ => hanswer.trans hanswer'.symm
  case kept =>
    intro _
    rw [hstate, hstate']
    exact ⟨rfl, rfl⟩

/-- If the file and the text can be pre-processed and look the same then, the two executions
agree. -/
theorem agreement_of_ok {s : Session} (hlive : e.liveSession = .ok s)
    (hdirectory : e.fileSystem.currentDirectory t.calls = .ok (some directory))
    (hstill : e.fileSystem.currentDirectory (.processText text :: t.calls) =
      .ok (some directory))
    (hname : Path.IsName name) {h k : Handout}
    (hfile : e.preProcessor.ofFile e.fileSystem t.calls (Path.joinText directory name) = .ok h)
    (htext : e.preProcessor.ofText t.calls text = .ok k)
    (hseen : (e.toSources.receive h).1.seen = (e.toSources.receive k).1.seen) :
    Agreement e t directory name text arguments (e.perform t (.execute name arguments))
      (e.perform t (.executeText text arguments)) := by
  obtain ⟨p, hp, hps, rfl, hnamed, hpa, hpd, hpb⟩ :=
    prepare_file hlive hdirectory hname arguments hfile
  obtain ⟨q, hq, hqs, rfl, hunnamed, hqa, hqd, hqb⟩ :=
    prepare_text hlive arguments htext hstill
  have hsession : p.session = q.session := hps.trans hqs.symm
  have harguments : p.arguments = q.arguments := hpa.trans hqa.symm
  have hbundle : BundleAlike e t directory name text → e.seenBundle p = e.seenBundle q := by
    intro halike
    cases hinjected : s.injected with
    | true =>
        rw [seenBundle, seenBundle, hps, hqs, hinjected]
        rfl
    | false =>
        have hs := (liveSession_eq_ok_iff.mp hlive).1
        rw [hpb hinjected, hqb hinjected, halike s hs hinjected]
  have hsearch : probed (e.searchCalls p) = probed (e.searchCalls q) := by
    rw [searchCalls, searchCalls, hps, hqs, Sources.lookupCalls_congr hpd, hqd]
    split
    · rfl
    · exact Sources.probed_lookupCalls_any _ _ _ _
  constructor
  case place =>
    exact ⟨scriptPath_beside hdirectory hname,
      Sources.libraryPath_beside hname e.toSources directory⟩
  case refused =>
    intro f hf
    simp only [Sources.processText, htext] at hf
    cases hf
  case looked =>
    obtain ⟨cs, hmade, hcs⟩ := probed_of_prepared hp
    obtain ⟨ds, hmade', hds⟩ := probed_of_prepared hq
    rw [hmade.callsSince, hmade'.callsSince, hcs, hds, hsearch]
  case left =>
    intro _ halike
    exact left_alike hp hq hsession hnamed hunnamed hseen (hbundle halike)
  case handed =>
    intro _ halike
    have hhanded :=
      handed_alike hp hq hsession hnamed hunnamed hseen (hbundle halike) harguments
    rw [hqa] at hhanded
    exact hhanded
  case answered =>
    intro halike hengine
    rcases handed_alike hp hq hsession hnamed hunnamed hseen (hbundle halike) harguments with
      ⟨f, hanswer, hanswer', -⟩ | ⟨sub, -, hsub, -, -, hanswer, hanswer'⟩
    · exact hanswer.trans hanswer'.symm
    · have hsame := congrArg (Except.map some) (hengine sub hsub)
      exact hanswer.trans (hsame.trans hanswer'.symm)
  case kept => exact fun hfresh => ⟨pool_of_fresh hfresh hp, pool_of_fresh hfresh hq⟩

/-- A file of the current directory and a text that are pre-processed alike are executed alike, as
long as that directory is still current once the text is pre-processed. -/
theorem agreement {s : Session} (hsession : e.session = some s) (hphase : s.phase = .started)
    (hdirectory : e.fileSystem.currentDirectory t.calls = .ok (some directory))
    (hstill : e.fileSystem.currentDirectory (.processText text :: t.calls) =
      .ok (some directory))
    (hname : Path.IsName name)
    (halike : (e.processFile t (Path.joinText directory name)).answer.map Handout.seen =
      (e.processText t text).answer.map Handout.seen) :
    Agreement e t directory name text arguments (e.perform t (.execute name arguments))
      (e.perform t (.executeText text arguments)) := by
  have hlive := liveSession_eq_ok_iff.mpr ⟨hsession, hphase⟩
  simp only [Sources.processFile, Sources.processText] at halike
  cases hfile : e.preProcessor.ofFile e.fileSystem t.calls (Path.joinText directory name) with
  | error f =>
      cases htext : e.preProcessor.ofText t.calls text with
      | error g =>
          simp only [hfile, htext, Step.error, Except.map, Except.error.injEq] at halike
          subst halike
          exact agreement_of_error hlive hdirectory hname hfile htext
      | ok k => simp [hfile, htext, Step.error, Step.ok, Except.map] at halike
  | ok h =>
      cases htext : e.preProcessor.ofText t.calls text with
      | error g => simp [hfile, htext, Step.error, Step.ok, Except.map] at halike
      | ok k =>
          simp only [hfile, htext, Step.ok, Except.map, Except.ok.injEq] at halike
          exact agreement_of_ok hlive hdirectory hstill hname hfile htext halike

end Law

/-! ## Samples -/

/-- A pre-processor that hands source over as it is, and keeps what it makes of one source. -/
def keepingOne (kept : String) : PreProcessor where
  kind := "Keeping"
  ofFile fs calls path :=
    (fs.fileText calls path).map fun text =>
      ⟨Preprocessed.plain text, if path = kept then some kept else none⟩
  ofText _ text := .ok ⟨Preprocessed.plain text, if text = kept then some kept else none⟩

/-- An executor with a session, and a file that holds a text. -/
def besideText (text kept : String) : Executor :=
  { sample with
    fileSystem :=
      { sampleTable with files := ("/work/a.csx", text) :: sampleTable.files }.fileSystem "table"
    preProcessor := keepingOne kept
    session := some { Session.new [] [] with phase := .started } }

/-- The file name in the plan that an answer holds. -/
def plannedName? : Except Failure (Option ScriptResult) → Option String
  | .ok (some ⟨.plan plan, _, _, _, _⟩) => plan.fileName
  | _ => none

/-- The engine that plans tells a file from a text that is pre-processed alike.  So does the bundle,
if the text has the result that the pre-processor keeps for it. -/
theorem told_apart_in_sample :
    (((besideText "one();" "").processFile .empty "/work/a.csx").answer.map Handout.content =
        ((besideText "one();" "").processText .empty "one();").answer.map Handout.content ∧
      plannedName? ((besideText "one();" "").perform .empty (.execute "a.csx" [])).answer ≠
        plannedName? ((besideText "one();" "").perform .empty (.executeText "one();" [])).answer) ∧
    let e := besideText "/work/packages/lib.csx" "/work/packages/lib.csx"
    (e.processFile .empty "/work/a.csx").answer.map Handout.content =
        (e.processText .empty "/work/packages/lib.csx").answer.map Handout.content ∧
      (submitted ⟨e, .empty, .execute "a.csx" []⟩).map Submission.code =
        ["lib();\n/work/packages/lib.csx"] ∧
      (submitted ⟨e, .empty, .executeText "/work/packages/lib.csx" []⟩).map Submission.code =
        ["/work/packages/lib.csx\n/work/packages/lib.csx"] := by
  refine ⟨⟨rfl, ?_⟩, rfl, ?_, ?_⟩
  · decide +kernel
  · decide +kernel
  · decide +kernel

/-- A text and a file that holds it, with a bundle that is looked for and found: the engine receives
the same of both but for the file name. -/
theorem agreement_in_sample :
    let e := besideText "one();" ""
    Path.IsName "a.csx" ∧ BundleAlike e .empty "/work" "a.csx" "one();" ∧
      (∃ sub, submitted ⟨e, .empty, .execute "a.csx" ["-v"]⟩ = [sub.named "a.csx"] ∧
        submitted ⟨e, .empty, .executeText "one();" ["-v"]⟩ = [sub] ∧
        sub.code = "lib();\none();" ∧ sub.arguments = ["-v"]) ∧
      ∃ pool, (e.perform .empty (.execute "a.csx" ["-v"])).state =
        (e.perform .empty (.executeText "one();" ["-v"])).state.told "a.csx" pool := by
  have hname : Path.IsName "a.csx" := ⟨by decide, by decide, by decide⟩
  have hbundle : BundleAlike (besideText "one();" "") .empty "/work" "a.csx" "one();" := by
    intro s _ _
    decide +kernel
  have hprocessed : ∃ h,
      ((besideText "one();" "").processText .empty "one();").answer = .ok h := ⟨_, rfl⟩
  have hlaw : Agreement (besideText "one();" "") .empty "/work" "a.csx" "one();" ["-v"] _ _ :=
    agreement rfl rfl rfl rfl hname rfl
  refine ⟨hname, hbundle, ?_, (hlaw.left hprocessed hbundle).1⟩
  rcases hlaw.handed hprocessed hbundle with ⟨f, hanswer, -⟩ | ⟨sub, hfile, htext, harguments, -⟩
  · cases hanswer
  · refine ⟨sub, hfile, htext, ?_, harguments⟩
    have hcode : (submitted ⟨besideText "one();" "", .empty, .executeText "one();" ["-v"]⟩).map
        Submission.code = ["lib();\none();"] := by decide +kernel
    rw [show submitted ⟨besideText "one();" "", .empty, .executeText "one();" ["-v"]⟩ = [sub]
      from htext] at hcode
    exact List.singleton_inj.mp hcode

end Executor

end ScriptHost
