import ScriptHost.Text.Blank
import ScriptHost.Text.Case
import ScriptHost.Text.Pieces

/-!
# Artifacts and their names

A reference path leads to an artifact.  Its name is the last part of the path, whichever way
the path is written: with slashes or backslashes, with separators at the end, with blanks
around it, in any case.  Two artifacts are the host's own and are reserved: they are handed to
every engine, and nobody adds them.

## Main results

* `nameChars_no_separator` — no separator is left in a name before case is folded.
* `lastPiece_append_separator` — what stands before a separator does not matter.
-/

namespace ScriptHost.Artifact

/-- The characters between the parts of a reference path. -/
def isSeparator (c : Char) : Bool := c == '/' || c == '\\'

/-- The last part of a path that is not empty, or nothing. -/
def lastPiece (cs : List Char) : List Char :=
  ((Text.pieces isSeparator cs).filter fun p => !p.isEmpty).getLast?.getD []

/-- The name of an artifact before case is folded. -/
def nameChars (path : List Char) : List Char := lastPiece (Text.stripChars path)

/-- The name of the artifact that a path leads to. -/
def name (path : String) : String := Text.fold (String.ofList (nameChars path.toList))

/-- Where the host's own artifact is, by the folder that the packages of the host lie in. -/
def core (home : String) : String := home ++ "/scriptcore"

/-- Where the artifact with the host's contracts is. -/
def contracts (home : String) : String := home ++ "/scriptcore_contracts"

/-- The names of the host's own artifacts. -/
def reserved : List String := ["scriptcore", "scriptcore_contracts"]

/-- Whether a path leads to an artifact of the host's own. -/
def isReservedPath (path : String) : Bool := reserved.contains (name path)

/-- The name of the outermost package of a module. -/
def packageOf (module : String) : String :=
  String.ofList (module.toList.takeWhile fun c => c != '.')

/-- Whether a module is one of the host's own, or inside one. -/
def isReservedModule (module : String) : Bool :=
  reserved.contains (Text.fold (packageOf module))

/-! ## Names and separators -/

theorem lastPiece_no_separator (cs : List Char) : ∀ c ∈ lastPiece cs, isSeparator c = false := by
  intro c hc
  unfold lastPiece at hc
  cases hl : ((Text.pieces isSeparator cs).filter fun p => !p.isEmpty).getLast? with
  | none => simp [hl] at hc
  | some piece =>
    rw [hl, Option.getD_some] at hc
    have hm := List.mem_of_getLast? hl
    exact Text.pieces_no_cut cs piece (List.mem_filter.mp hm).1 c hc

/-- What stands before a separator does not matter, if a part follows it. -/
theorem lastPiece_append_separator (cs ds : List Char) {s : Char} (hs : isSeparator s = true)
    (hd : ∃ p ∈ Text.pieces isSeparator ds, p ≠ []) :
    lastPiece (cs ++ s :: ds) = lastPiece ds := by
  obtain ⟨p, hp, hne⟩ := hd
  unfold lastPiece
  rw [Text.pieces_append_cut cs hs, List.filter_append, List.getLast?_append]
  have hmem : p ∈ (Text.pieces isSeparator ds).filter fun p => !p.isEmpty :=
    List.mem_filter.mpr ⟨hp, by simpa using hne⟩
  cases hl : ((Text.pieces isSeparator ds).filter fun p => !p.isEmpty).getLast? with
  | none => rw [List.getLast?_eq_none_iff] at hl; rw [hl] at hmem; cases hmem
  | some last => rfl

theorem nameChars_no_separator (path : List Char) :
    ∀ c ∈ nameChars path, isSeparator c = false :=
  lastPiece_no_separator _

end ScriptHost.Artifact
