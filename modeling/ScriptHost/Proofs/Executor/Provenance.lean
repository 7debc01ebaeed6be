import ScriptHost.Proofs.Artifact.Spelling
import ScriptHost.Proofs.Executor.Submission

/-!
# Where the host's own artifacts come from

The host hands its own artifacts to every engine, and a script may declare them; nobody else adds
them.  Paths enter the references in four ways, of which two pass a filter, adding paths and
starting a session with some, and two do not, the defaults and the declarations of scripts.  So
whatever was done before, whether a default was removed and is offered again, and however a path is
spelled: a path of the host's own that is there is a default, or was declared since the last reset.
Modules of the host's own are never there.

## Main results

* `own_path_cases` — how a path of the host's own comes to be there after one operation.
* `traced_perform` — where such paths come from, after one operation.
* `own_artifacts` — the law of a whole run.
-/

namespace ScriptHost

open Sequence (OrderedSet)
open Artifact (IsOwn)

/-- Adding modules never lets one of the host's own in. -/
theorem ReferenceSet.mem_modules_addModules {set : ReferenceSet} {modules : List Module}
    {m : Module} :
    m ∈ (set.addModules modules).modules ↔
      m ∈ set.modules ∨ m ∈ modules ∧ Artifact.isReservedModule m.name = false := by
  simp [addModules, OrderedSet.mem_insertAll, addableModules]

theorem Sources.content_revise (src : Sources) (h : Handout) (content : Preprocessed) :
    (src.revise h content).1.content = content := by
  unfold revise Pool.revise
  split <;> rfl

namespace Executor

/-! ## Declarations and restorations -/

/-- Whether a turn executes a script that declares a path, in its own result or in that of the
bundle that is spliced into it. -/
def Declares (x : Turn Executor Operation) (path : String) : Prop :=
  ∃ p c, x.state.prepare x.trail x.operation = some p ∧ x.state.compose p = .ok c ∧
    (path ∈ (x.state.toSources.receive p.script).1.content.references ∨
      ∃ bundle, p.session.injected = false ∧ x.state.lookup p = .ok (some bundle) ∧
        path ∈ ((x.state.ready p).toSources.receive bundle).1.content.references)

/-- Whether a turn resets the executor, and is not refused. -/
def Restores (x : Turn Executor Operation) : Prop :=
  x.operation = .reset ∧ (x.step perform).answer = .ok none

/-- Whether a path was declared in a run, and the executor was not reset since. -/
def DeclaredSince (path : String) (run : List (Turn Executor Operation)) : Prop :=
  ∃ a x b, run = a ++ x :: b ∧ Declares x path ∧ ∀ y ∈ b, ¬ Restores y

theorem DeclaredSince.of_last {path : String} {x : Turn Executor Operation} (h : Declares x path)
    (past : List (Turn Executor Operation)) : DeclaredSince path (past ++ [x]) :=
  ⟨past, x, [], rfl, h, fun _ hy => absurd hy List.not_mem_nil⟩

theorem DeclaredSince.next {path : String} {past : List (Turn Executor Operation)}
    {x : Turn Executor Operation} (h : DeclaredSince path past) (hx : ¬ Restores x) :
    DeclaredSince path (past ++ [x]) := by
  obtain ⟨a, z, b, rfl, hz, hb⟩ := h
  refine ⟨a, z, b ++ [x], by simp, hz, ?_⟩
  intro y hy
  rcases List.mem_append.mp hy with hy | hy
  · exact hb y hy
  · rw [List.mem_singleton.mp hy]
    exact hx

/-- What a composed script declares is declared by the script or by the bundle. -/
theorem mem_references_of_composed {e : Executor} {p : Prepared} {c : Composed} {path : String}
    (hc : e.compose p = .ok c) (h : path ∈ c.script.references) :
    path ∈ (e.toSources.receive p.script).1.content.references ∨
      ∃ bundle, p.session.injected = false ∧ e.lookup p = .ok (some bundle) ∧
        path ∈ ((e.ready p).toSources.receive bundle).1.content.references := by
  cases hinjected : p.session.injected with
  | true =>
      rw [compose_of_injected hinjected] at hc
      cases hc
      exact .inl h
  | false =>
      cases hfound : e.lookup p with
      | error f =>
          rw [compose_of_lookup_error hinjected hfound] at hc
          cases hc
      | ok found =>
          cases found with
          | none =>
              rw [compose_of_no_bundle hinjected hfound] at hc
              cases hc
              exact .inl h
          | some bundle =>
              rw [compose_of_bundle hinjected hfound, Except.ok.injEq] at hc
              subst hc
              rw [Sources.content_revise] at h
              rcases List.mem_append.mp h with hmem | hmem
              · exact .inl hmem
              · exact .inr ⟨bundle, rfl, rfl, hmem⟩

theorem references_of_restores {x : Turn Executor Operation} (h : Restores x) :
    (x.step perform).state.references = x.state.references.reset := by
  obtain ⟨e, t, op⟩ := x
  obtain ⟨hop, hanswer⟩ := h
  have hop' : op = .reset := hop
  subst hop'
  rw [Turn.step, perform, Step.map] at hanswer ⊢
  rcases e.reset_cases t with ⟨-, heq⟩ | ⟨s, -, -, heq⟩ | ⟨s, -, -, heq⟩
  · rw [heq]
    rfl
  · rw [heq] at hanswer
    cases hanswer
  · rw [heq]
    rfl

/-! ## One operation -/

/-- A path of the host's own that is there after a turn is a default if the turn restored those;
otherwise it was there before, or the turn declared it. -/
theorem own_path_cases {x : Turn Executor Operation} {path : String} (hown : IsOwn path)
    (h : path ∈ (x.step perform).state.references.paths) :
    (Restores x ∧ path ∈ x.state.references.defaults) ∨
      ¬ Restores x ∧ (path ∈ x.state.references.paths ∨ Declares x path) := by
  have hreserved := Artifact.isReservedPath_iff.mpr hown
  by_cases hrestores : Restores x
  · rw [references_of_restores hrestores] at h
    refine .inl ⟨hrestores, ?_⟩
    rcases OrderedSet.mem_insertAll.mp h with hmem | hmem
    · cases hmem
    · exact hmem
  · refine .inr ⟨hrestores, ?_⟩
    obtain ⟨e, t, op⟩ := x
    rcases e.environment_cases t op with
      ⟨edit, rfl, -, heq⟩ | ⟨rfl, hanswer, -⟩ | ⟨-, heq | ⟨items, heq⟩ | ⟨p, c, hp, hc, heq⟩⟩
    · rw [Turn.step, heq] at h
      cases edit with
      | addPaths paths => exact .inl ((ReferenceSet.reserved_addPaths hreserved).mp h)
      | removePaths paths => exact .inl (OrderedSet.mem_eraseAll.mp h).1
      | importNamespaces names => exact .inl h
      | removeNamespaces names => exact .inl h
      | addModules modules => exact .inl h
      | removeModules modules => exact .inl h
    · exact absurd ⟨rfl, hanswer⟩ hrestores
    · rw [Turn.step, heq] at h
      exact .inl h
    · rw [Turn.step, heq] at h
      exact .inl ((ReferenceSet.reserved_addPaths hreserved).mp h)
    · rw [Turn.step, heq] at h
      rcases OrderedSet.mem_insertAll.mp h with hmem | hmem
      · exact .inl hmem
      · exact .inr ⟨p, c, hp, hc, mem_references_of_composed hc hmem⟩

/-- A module that is there after an operation was there before, or is none of the host's own. -/
theorem module_cases {e : Executor} {t : Trail} {op : Operation} {m : Module}
    (h : m ∈ (e.perform t op).state.references.modules) :
    m ∈ e.references.modules ∨ Artifact.isReservedModule m.name = false := by
  rcases e.environment_cases t op with
    ⟨edit, rfl, -, heq⟩ | ⟨rfl, -, heq, -⟩ | ⟨-, heq | ⟨items, heq⟩ | ⟨p, c, hp, hc, heq⟩⟩
  · rw [heq] at h
    cases edit with
    | addModules modules =>
        rcases ReferenceSet.mem_modules_addModules.mp h with hmem | ⟨-, hfree⟩
        · exact .inl hmem
        · exact .inr hfree
    | removeModules modules => exact .inl (OrderedSet.mem_eraseAll.mp h).1
    | addPaths paths => exact .inl h
    | removePaths paths => exact .inl h
    | importNamespaces names => exact .inl h
    | removeNamespaces names => exact .inl h
  · rw [heq] at h
    cases h
  · rw [heq] at h
    exact .inl h
  · rw [heq] at h
    exact .inl h
  · rw [heq] at h
    exact .inl h

/-- What is known, after some turns of a run, of the host's own artifacts among the references of an
executor with given defaults. -/
structure Traced (given : List String) (past : List (Turn Executor Operation)) (e : Executor) :
    Prop where
  defaults : e.references.defaults = given
  modules : ∀ m ∈ e.references.modules, Artifact.isReservedModule m.name = false
  paths : ∀ path, IsOwn path → path ∈ e.references.paths →
    path ∈ given ∨ DeclaredSince path past

theorem traced_perform {given : List String} (past : List (Turn Executor Operation))
    (e : Executor) (t : Trail) (op : Operation) (h : Traced given past e) :
    Traced given (past ++ [⟨e, t, op⟩]) (e.perform t op).state := by
  constructor
  case defaults =>
    have hsame : (e.perform t op).state.references.defaults = e.references.defaults := by
      rcases e.environment_cases t op with
        ⟨edit, rfl, -, heq⟩ | ⟨rfl, -, heq, -⟩ | ⟨-, heq | ⟨items, heq⟩ | ⟨p, c, -, -, heq⟩⟩
      · rw [heq]
        cases edit <;> rfl
      · rw [heq]
        rfl
      · rw [heq]
      · rw [heq]
        rfl
      · rw [heq]
        rfl
    exact hsame.trans h.defaults
  case modules =>
    intro m hm
    rcases module_cases hm with hmem | hfree
    · exact h.modules m hmem
    · exact hfree
  case paths =>
    intro path hown hpath
    rcases own_path_cases (x := ⟨e, t, op⟩) hown hpath with
      ⟨-, hdefault⟩ | ⟨hrestores, hmem | hdeclares⟩
    · exact .inl (h.defaults ▸ hdefault)
    · rcases h.paths path hown hmem with hdefault | hsince
      · exact .inl hdefault
      · exact .inr (hsince.next hrestores)
    · exact .inr (.of_last hdeclares past)

theorem traced_new {fs : Option FileSystem} {pp : PreProcessor} {engine : Engine} {file : String}
    {references namespaces : List String} {e : Executor}
    (h : new fs pp engine file references namespaces = .ok e) : Traced references [] e := by
  obtain ⟨folder, -, rfl⟩ := new_eq h
  constructor
  case defaults => rfl
  case modules =>
    intro m hm
    cases hm
  case paths =>
    intro path hown hpath
    rcases OrderedSet.mem_insertAll.mp hpath with hmem | hmem
    · cases hmem
    · exact .inl hmem

/-! ## The law of a run -/

/-- Whether an operation offers paths to be added. -/
def Operation.offersPaths : Operation → Bool
  | .change (.addPaths _) | .start _ _ _ => true
  | _ => false

/-- Offering paths never lets one of the host's own in, and neither removes nor moves one. -/
theorem own_path_of_offer {x : Turn Executor Operation} (h : x.operation.offersPaths = true) :
    x.state.references.paths.toList <+: (x.step perform).state.references.paths.toList ∧
      ∀ path, IsOwn path →
        (path ∈ (x.step perform).state.references.paths ↔ path ∈ x.state.references.paths) := by
  obtain ⟨e, t, op⟩ := x
  have hkeeps : op.dropsPaths = false := by
    cases op with
    | change edit =>
        cases edit with
        | addPaths paths => rfl
        | _ => cases h
    | start paths packs arguments => rfl
    | _ => cases h
  have hfront := e.perform_paths t hkeeps
  refine ⟨hfront, ?_⟩
  intro path hown
  constructor
  · intro hafter
    rcases own_path_cases hown hafter with
      ⟨⟨hreset, -⟩, -⟩ | ⟨-, hmem | ⟨p, c, hp, -⟩⟩
    · have hreset' : op = .reset := hreset
      subst hreset'
      cases h
    · exact hmem
    · rcases (prepare_cases hp).2 with ⟨script, place, hop, -⟩ | ⟨text, hop, -⟩
      · have hop' : op = .execute script p.arguments := hop
        subst hop'
        cases h
      · have hop' : op = .executeText text p.arguments := hop
        subst hop'
        cases h
  · intro hbefore
    exact hfront.subset hbefore

/-- The law of the host's own artifacts in a run that has led to an executor. -/
structure OwnArtifactLaw (defaults : List String) (run : List (Turn Executor Operation))
    (e : Executor) : Prop where
  /-- No module of the host's own is ever there. -/
  modules : ∀ m ∈ e.references.modules,
    Text.fold (Artifact.packageOf m.name) ∉ Artifact.reserved
  /-- A path of the host's own that is there is a default, or was declared since the last reset. -/
  paths : ∀ path, IsOwn path → path ∈ e.references.paths →
    path ∈ defaults ∨ DeclaredSince path run
  /-- Offering paths lets none of the host's own in, removes none and moves none. -/
  offers : ∀ x ∈ run, x.operation.offersPaths = true →
    x.state.references.paths.toList <+: (x.step perform).state.references.paths.toList ∧
      ∀ path, IsOwn path →
        (path ∈ (x.step perform).state.references.paths ↔ path ∈ x.state.references.paths)

/-- At the end of every run of a new executor it is known where the host's own artifacts among its
references come from. -/
theorem own_artifacts {fs : Option FileSystem} {pp : PreProcessor} {engine : Engine} {file : String}
    {references namespaces : List String} {e : Executor}
    (hnew : new fs pp engine file references namespaces = .ok e) (t : Trail)
    (ops : List Operation) :
    OwnArtifactLaw references (turns perform e t ops) (finish perform e t ops).1 := by
  have htraced : Traced references (turns perform e t ops) (finish perform e t ops).1 :=
    past_invariant_finish perform (P := fun past g _ => Traced references past g)
      traced_perform (traced_new hnew) ops
  constructor
  case modules =>
    intro m hm
    have hfree := htraced.modules m hm
    rw [Artifact.isReservedModule, List.contains_eq_mem, decide_eq_false_iff_not] at hfree
    exact hfree
  case paths => exact htraced.paths
  case offers => exact fun x _ h => own_path_of_offer h

/-- A pre-processor for scripts that declare the path that they consist of. -/
def quoting : PreProcessor where
  kind := "QuotingPreProcessor"
  ofFile _ _ _ := .ok ⟨⟨"lib();", [], [], []⟩, none⟩
  ofText _ text := .ok ⟨⟨text, [text], [], []⟩, none⟩

/-- A new executor over the sample folder that has one of the host's own artifacts by default. -/
def owningSample : Executor :=
  { sample with
    preProcessor := quoting
    references := .ofDefaults ["System", Artifact.core "/usr/share/host"] }

/-- Artifacts of the host's own are offered in several spellings, a default is removed and offered
again, and a script declares one. -/
def offeringRun : List Operation :=
  [.change (.addPaths (.list ["C:\\bin\\ScriptCore\\", "Other.dll"])),
    .change (.addModules (.list [⟨"1", "ScriptCore.hosting"⟩, ⟨"2", "json"⟩])),
    .change (.removePaths (.list [Artifact.core "/usr/share/host"])),
    .start (.list [Artifact.core "/usr/share/host", "lib/SCRIPTCORE_CONTRACTS"]) [] [],
    .executeText "vendor/scriptcore/" [], .stop, .reset]

/-- At the end of the sample run, whose reset is refused, only the artifact of the host's own is
there that the script declared. -/
theorem own_artifacts_in_sample :
    new (some (sampleTable.fileSystem "table")) quoting .dryRun "lib.csx"
        ["System", Artifact.core "/usr/share/host"] [] = .ok owningSample ∧
      (finish perform owningSample .empty offeringRun).1.references.paths.toList =
        ["System", "Other.dll", "vendor/scriptcore/"] ∧
      (finish perform owningSample .empty offeringRun).1.references.modules.toList.map Module.name =
        ["json"] ∧
      OwnArtifactLaw ["System", Artifact.core "/usr/share/host"]
        (turns perform owningSample .empty offeringRun)
        (finish perform owningSample .empty offeringRun).1 := by
  have hnew : new (some (sampleTable.fileSystem "table")) quoting .dryRun "lib.csx"
      ["System", Artifact.core "/usr/share/host"] [] = .ok owningSample := rfl
  exact ⟨hnew, by decide +kernel, by decide +kernel, own_artifacts hnew .empty offeringRun⟩

end Executor

end ScriptHost
