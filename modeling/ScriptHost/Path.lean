import ScriptHost.Text.Pieces

/-!
# Paths

A path is where it begins and the names it goes through.  Two spellings of the same walk are
one path: repeated slashes, a slash at the end and the name `.` say nothing, while `..` is kept,
because where it leads depends on what is on the disk.  Exactly two slashes at the front are a
beginning of their own.

## Main results

* `parts_ofString_name` — a single name is a path of one part.
* `join_of_absolute` — joining an absolute path forgets what stood before it.
-/

namespace ScriptHost

/-- Where a path begins. -/
inductive PathRoot where
  /-- At a directory that the path does not say. -/
  | relative
  /-- At the root of the disk. -/
  | root
  /-- At the root that is written with two slashes. -/
  | doubleRoot
  deriving DecidableEq, Repr

/-- A path: where it begins and the names it goes through. -/
structure Path where
  root : PathRoot
  parts : List String
  deriving DecidableEq, Repr

namespace Path

/-- Whether a piece between slashes is a name that a path goes through. -/
def isStep (piece : List Char) : Bool := !piece.isEmpty && piece != ['.']

/-- The beginning that a text spells. -/
def rootOf : List Char → PathRoot
  | '/' :: '/' :: '/' :: _ => .root
  | '/' :: '/' :: _ => .doubleRoot
  | '/' :: _ => .root
  | _ => .relative

/-- The path that a text spells. -/
def ofString (s : String) : Path :=
  ⟨rootOf s.toList, ((Text.pieces (· == '/') s.toList).filter isStep).map String.ofList⟩

/-- The names of a path with slashes between them. -/
def joined : List String → List Char
  | [] => []
  | [p] => p.toList
  | p :: ps => p.toList ++ '/' :: joined ps

/-- The text of a path; the path without names is written `.`. -/
def toString (p : Path) : String :=
  match p.root with
  | .relative => if p.parts.isEmpty then "." else String.ofList (joined p.parts)
  | .root => String.ofList ('/' :: joined p.parts)
  | .doubleRoot => String.ofList ('/' :: '/' :: joined p.parts)

/-- A path continued by another; an absolute one begins anew. -/
def join (p q : Path) : Path :=
  match q.root with
  | .relative => ⟨p.root, p.parts ++ q.parts⟩
  | _ => q

/-- The last name of a path, empty if it has none. -/
def name (p : Path) : String := p.parts.getLast?.getD ""

/-- The path without its last name. -/
def parent (p : Path) : Path := ⟨p.root, p.parts.dropLast⟩

/-- Whether a text spells an absolute path. -/
def isAbsoluteText (s : String) : Bool := s.toList.head? == some '/'

/-- The text of one text continued by another, as paths. -/
def joinText (s t : String) : String := ((ofString s).join (ofString t)).toString

/-- The text of a text, as a path. -/
def normalText (s : String) : String := (ofString s).toString

theorem join_of_absolute (p : Path) {q : Path} (h : q.root ≠ .relative) : p.join q = q := by
  obtain ⟨start, parts⟩ := q
  cases start with
  | relative => exact absurd rfl h
  | root => rfl
  | doubleRoot => rfl

/-- A single name is a path of one part. -/
theorem parts_ofString_name {s : String} (h : '/' ∉ s.toList) (hne : s.toList ≠ [])
    (hdot : s.toList ≠ ['.']) : ofString s = ⟨.relative, [s]⟩ := by
  have hroot : rootOf s.toList = .relative := by
    unfold rootOf
    split <;> simp_all
  have hempty : s.toList.isEmpty = false := by simpa using hne
  have hstep : isStep s.toList = true := by
    rw [isStep, hempty]
    simpa using hdot
  rw [ofString, hroot, Text.pieces_of_not_mem h, List.filter_cons_of_pos hstep]
  simp

end Path

end ScriptHost
