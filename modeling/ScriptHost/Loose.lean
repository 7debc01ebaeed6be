import ScriptHost.Config.Basic
import ScriptHost.Engine
import ScriptHost.Json.Marked
import ScriptHost.NamespaceSet

/-!
# Sets, engines and folders that are handed anything

The sets of references and of namespaces take items of any shape, which are kept as marked texts.
A number is the same item in whatever way it is written, and the way in which it entered stays.
A value with parts cannot be an item of the reference set: a list that holds one is taken up to
there.

The folders of a file system may be anything, and only its current directory is looked at.

An engine that writes plans checks that everything it is handed is text, and keeps no record of
what it refuses.

## Main results

* `taking_of_unmarked`, `removeEach_of_unmarked` — items that are texts are taken as they are.
* `dryRun_checked` — an engine that is checked still answers with the plan of what it is handed.
-/

namespace ScriptHost

open Json (alike isKeyed isMarked openMark)

/-- The failure of a value with parts that is looked up. -/
def unkeyed : Failure := .wrongType "unhashable type"

/-- The items of a list before the first one that cannot be looked up, and the failure of it. -/
def keyedItems (items : List String) : List String × Except Failure Unit :=
  (items.takeWhile isKeyed, if items.all isKeyed then .ok () else .error unkeyed)

namespace ReferenceSet

open Sequence (OrderedSet)

/-- The set after a change that is made for one path after the other. -/
def changeEach (change : ReferenceSet → List String → ReferenceSet) (set : ReferenceSet)
    (paths : List String) : ReferenceSet :=
  paths.foldl (fun set p => change set [alike set.paths.toList p]) set

/-- The set after a change that is made for the items of a list, as far as they can be taken. -/
def taking (change : ReferenceSet → List String → ReferenceSet) (set : ReferenceSet)
    (paths : Except Failure (List String)) : ReferenceSet × Except Failure Unit :=
  match paths with
  | .error f => (set, .error f)
  | .ok paths => (changeEach change set (keyedItems paths).1, (keyedItems paths).2)

/-- Whether a path is there. -/
def holds (set : ReferenceSet) (path : String) : Except Failure Bool :=
  if isKeyed path then .ok (set.contains (.path (alike set.paths.toList path)))
  else .error unkeyed

/-- A change that may be made for one path after the other. -/
structure IsStepwise (change : ReferenceSet → List String → ReferenceSet) : Prop where
  nil : ∀ set, change set [] = set
  cons : ∀ set p ps, change set (p :: ps) = change (change set [p]) ps

theorem changeEach_of_unmarked {change : ReferenceSet → List String → ReferenceSet}
    (hchange : IsStepwise change) (set : ReferenceSet) {paths : List String}
    (h : ∀ p ∈ paths, openMark ∉ p.toList) : changeEach change set paths = change set paths := by
  induction paths generalizing set with
  | nil => exact (hchange.nil set).symm
  | cons p ps ih =>
    obtain ⟨hp, hps⟩ := List.forall_mem_cons.mp h
    rw [hchange.cons, ← ih (change set [p]) hps, changeEach, List.foldl_cons,
      Json.alike_of_unmarked _ hp]
    rfl

/-- A change by a list of texts is made for all of them. -/
theorem taking_of_unmarked {change : ReferenceSet → List String → ReferenceSet}
    (hchange : IsStepwise change) (set : ReferenceSet) {paths : List String}
    (h : ∀ p ∈ paths, openMark ∉ p.toList) :
    set.taking change (.ok paths) = (change set paths, .ok ()) := by
  have hkeyed : ∀ p ∈ paths, isKeyed p = true := fun p hp => Json.isKeyed_of_unmarked (h p hp)
  have hall : (paths ++ []).takeWhile isKeyed = paths ++ [] :=
    List.takeWhile_append_of_pos hkeyed
  rw [List.append_nil] at hall
  have htaken : keyedItems paths = (paths, .ok ()) := by
    rw [keyedItems, hall, List.all_eq_true.mpr hkeyed]
    rfl
  rw [taking, htaken, changeEach_of_unmarked hchange set h]

theorem isStepwise_addPaths : IsStepwise addPaths where
  nil _ := rfl
  cons set p ps := by
    have hcut : addable (p :: ps) = addable [p] ++ addable ps := List.filter_append [p] ps
    simp only [addPaths, hcut, OrderedSet.insertAll, List.foldl_append]

theorem isStepwise_merge : IsStepwise merge := ⟨fun _ => rfl, fun _ _ _ => rfl⟩

theorem isStepwise_removePaths : IsStepwise removePaths := ⟨fun _ => rfl, fun _ _ _ => rfl⟩

end ReferenceSet

namespace NamespaceSet

/-- The set without the first occurrence of each name, one after the other. -/
def removeEach (set : NamespaceSet) (names : List String) : NamespaceSet :=
  names.foldl (fun set n => set.remove [alike set.names n]) set

theorem removeEach_of_unmarked (set : NamespaceSet) {names : List String}
    (h : ∀ n ∈ names, openMark ∉ n.toList) : set.removeEach names = set.remove names := by
  induction names generalizing set with
  | nil => rfl
  | cons n ns ih =>
    obtain ⟨hn, hns⟩ := List.forall_mem_cons.mp h
    rw [removeEach, List.foldl_cons, Json.alike_of_unmarked _ hn]
    exact ih (set.remove [n]) hns

/-- Whether a name is there. -/
def holds (set : NamespaceSet) (name : String) : Bool :=
  set.names.contains (alike set.names name)

/-- The namespaces of one execution, each at its first occurrence. -/
def unionOf (set : NamespaceSet) (declared : List String) : Except Failure (List Datum) :=
  match Datum.distinctBy? Datum.key?
      ((set.union declared).map fun n => Datum.ofJson (.ofMarked n)) with
  | some names => .ok names
  | none => .error unkeyed

/-- How a set shows itself. -/
def shown (set : NamespaceSet) : Except Fault String :=
  (Datum.list (set.names.map fun n => .ofJson (.ofMarked n))).display.map fun s =>
    "NamespaceSet(" ++ s ++ ")"

end NamespaceSet

/-! ## Folders -/

namespace FolderSettings

/-- The names of the folders of a file system, and what they are by default. -/
def usualFolders : List (String × String) :=
  [("bin_folder", "bin"), ("dll_cache_folder", ".cache"), ("packages_folder", "packages")]

/-- The folders that named arguments give. -/
def foldersOf (arguments : Sequence.Entries Datum) : List Datum :=
  usualFolders.map fun (name, usual) => (arguments.get? name).getD (.text usual)

/-- The settings that named arguments give, as far as they are looked at. -/
def ofArguments (arguments : Sequence.Entries Datum) : Except Failure FolderSettings :=
  let names := "current_directory" :: usualFolders.map Prod.fst
  if arguments.all fun e => names.contains e.1 then
    match (arguments.get? "current_directory").getD .null with
    | .null => .ok ⟨none, "bin", ".cache", "packages"⟩
    | .text s => .ok ⟨some s, "bin", ".cache", "packages"⟩
    | _ => .error (.wrongType "expected str, bytes or os.PathLike object")
  else .error (.wrongType "unexpected keyword argument")

end FolderSettings

/-! ## Engines -/

/-- The plan of a submission, all of whose parts must be texts. -/
def Submission.checkedPlan (s : Submission) : Except Failure Plan :=
  Plan.ofFields (Datum.ofMembers (Json.unmarked s.plan.toDatum.toJson).members)

namespace Engine

/-- Stands for the arguments of a script if they are no sequence. -/
def noSequence : List String := [String.ofList [Json.closeMark]]

/-- Whether an engine answers with plans. -/
def makesPlans (e : Engine) : Bool := ["DryRunEngine", "CountingEngine"].contains e.kind

/-- What an engine is asked before it takes a submission. -/
def accepts (e : Engine) (s : Submission) : Except Failure Unit :=
  if s.arguments = noSequence then .error (.wrongType "the arguments are no sequence")
  else if e.makesPlans then s.checkedPlan.map fun _ => ()
  else .ok ()

/-- Whether an engine takes a submission. -/
def isTaken (e : Engine) (s : Submission) : Bool := (e.accepts s).isOk

/-- An engine that knows only of the submissions that it takes. -/
def checked (e : Engine) : Engine where
  kind := e.kind
  run calls s :=
    match e.accepts s with
    | .error f => .error f
    | .ok () => e.run (calls.filter fun | .execute s => e.isTaken s | _ => true) s

theorem dryRun_checked {calls : List Call} {s : Submission} (h : dryRun.isTaken s = true) :
    dryRun.checked.run calls s = .ok (.returning (.plan s.plan)) := by
  unfold isTaken at h
  cases ha : dryRun.accepts s with
  | error f => simp [ha, Except.isOk, Except.toBool] at h
  | ok u =>
    simp only [checked, ha]
    rfl

end Engine

end ScriptHost
