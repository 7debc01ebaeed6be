import ScriptHost.Datum
import ScriptHost.Json.Parser
import ScriptHost.Json.Printer
import ScriptHost.Text.Pieces

/-!
# Values among texts

Where a list of texts is expected, a caller may hand over a list of anything.  A value that is no
text is then kept as a text: it is written as JSON between two marks, which are code points that
hardly any text holds; a text that does is kept in the same way.  A text that is such a value as a
whole is read back as it; a value inside a longer text is read as it shows itself.

## Main results

* `ofMarked_of_unmarked` — a text without a mark is read back as it is.
-/

namespace ScriptHost.Json

/-- The mark before a value. -/
def openMark : Char := '\ufdd0'

/-- The mark behind a value. -/
def closeMark : Char := '\ufdd1'

/-- A value between marks. -/
def betweenMarks (j : Json) : String := String.ofList (openMark :: j.print.toList ++ [closeMark])

/-- A value as a text. -/
def marked : Json → String
  | text s => if s.toList.contains openMark then betweenMarks (text s) else s
  | j => betweenMarks j

/-- A value as a text, unless it is nothing. -/
def marked? : Json → Option String
  | null => none
  | j => some j.marked

/-- What stands behind an opening mark: a value, and the text that follows it. -/
def afterMark? (cs : List Char) : Option (Json × List Char) :=
  let value := cs.takeWhile fun c => c != closeMark
  match cs.drop value.length with
  | [] => none
  | _ :: rest => (parse? (String.ofList value)).map fun j => (j, rest)

/-- How a value that was read back shows itself; its integers were read, so they can be written. -/
def shownPart (j : Json) : List Char :=
  match (Datum.ofJson j).plain with
  | .ok s => s.toList
  | .error _ => []

/-- A text in which values stand as they show themselves. -/
def plainParts (start : List Char) (parts : List (Json × List Char)) : String :=
  String.ofList (start ++ parts.flatMap fun p => shownPart p.1 ++ p.2)

/-- What a text stands for; one in which a mark stands before no value is itself. -/
def ofMarked (s : String) : Json :=
  if s.toList.contains openMark then
    match Text.pieces (fun c => c == openMark) s.toList with
    | [] => text s
    | start :: rest =>
      match start, rest.mapM afterMark? with
      | _, none => text s
      | [], some [(j, [])] => j
      | _, some parts => text (plainParts start parts)
  else text s

theorem ofMarked_of_unmarked {s : String} (h : openMark ∉ s.toList) : ofMarked s = text s := by
  simp [ofMarked, h]

/-- Whether a text stands for a value that is none. -/
def isMarked (s : String) : Bool := s.toList.head? == some openMark

/-- What decides whether two texts stand for the same value; a value with parts has nothing. -/
def markedKey? (s : String) : Option Datum.Key :=
  if isMarked s then (Datum.ofJson (ofMarked s)).key? else some (.text s)

/-- Whether a text stands for a value that can be looked up. -/
def isKeyed (s : String) : Bool := (markedKey? s).isSome

/-- The first of some texts that stands for the same value as a text, or the text itself. -/
def alike (names : List String) (s : String) : String :=
  if isMarked s then (names.find? fun n => isKeyed n && markedKey? n == markedKey? s).getD s else s

theorem isMarked_of_unmarked {s : String} (h : openMark ∉ s.toList) : isMarked s = false := by
  rw [isMarked, beq_eq_false_iff_ne]
  exact fun hhead => h (List.mem_of_mem_head? hhead)

theorem isKeyed_of_unmarked {s : String} (h : openMark ∉ s.toList) : isKeyed s = true := by
  simp [isKeyed, markedKey?, isMarked_of_unmarked h]

theorem alike_of_unmarked (names : List String) {s : String} (h : openMark ∉ s.toList) :
    alike names s = s := by
  simp [alike, isMarked_of_unmarked h]

mutual

/-- A value in which every text is what it stands for. -/
def unmarked : Json → Json
  | text s => ofMarked s
  | arr items => arr (unmarkedItems items)
  | obj members => obj (unmarkedMembers members)
  | j => j

/-- Items in which every text is what it stands for. -/
def unmarkedItems : List Json → List Json
  | [] => []
  | j :: js => unmarked j :: unmarkedItems js

/-- Members in which every text is what it stands for. -/
def unmarkedMembers : List (String × Json) → List (String × Json)
  | [] => []
  | (name, j) :: ms => (name, unmarked j) :: unmarkedMembers ms

end

end ScriptHost.Json
