import ScriptHost.Console.Block
import ScriptHost.Console.Markup
import ScriptHost.Console.Picture
import ScriptHost.Script.Result

/-!
# Plans and results on the console

A plan is shown as a panel with the file, the arguments, every reference and namespace, and the
first lines of the code with their numbers; a result as a panel with its summary and the value
that was returned.  Labels are markup, and so are the texts behind them on the same row; the
references, the namespaces and the code of a plan are text whatever they hold.  No text keeps the
characters that would move the cursor by themselves.

## Main results

* `exitCode_eq_zero_iff` — a command that ran a script ends with zero just if the script went well.
-/

namespace ScriptHost

open Console (Block)

namespace Console

/-- What a text shows that is no markup. -/
def asText (s : String) : String := String.ofList (still s.toList)

/-- What marked-up text shows when it is printed, with pictures for their names. -/
def shown (markup : String) : Except Failure String := do
  let text ← plainText withPictures markup
  checkStyles markup
  return asText text

/-- A label, and what it is about. -/
def labelled (label text : String) : Except Failure String :=
  shown ("[bold]" ++ label ++ ":[/] " ++ text)

/-- Whether a text with markup can be read. -/
def shows (markup : String) : Except Failure Unit :=
  (plainText withPictures markup).map fun _ => ()

/-- A row that is there only sometimes. -/
def rowIf (isThere : Bool) (row : Except Failure String) : Except Failure (List String) :=
  if isThere then row.map fun s => [s] else .ok []

/-- A label, and texts below it. -/
def listed (label : String) (items : List String) : List String :=
  (label ++ " (" ++ Number.natText items.length ++ "):") :: items.map fun s => "  " ++ asText s

/-! ## Code -/

/-- The distance between the tab stops of code. -/
def codeTabWidth : Nat := 4

/-- The most lines of code that are shown. -/
def mostLines : Nat := 40

/-- A number, right-aligned. -/
def rightAligned (width n : Nat) : List Char :=
  let digits := (Number.natText n).toList
  List.replicate (width - digits.length) ' ' ++ digits

/-- A line of code behind its number; what the panel does not hold is cut off. -/
def codeLine (width number : Nat) (line : List Char) : String :=
  let code := still (withoutTabs List.length codeTabWidth line)
  String.ofList (' ' :: ' ' :: rightAligned width number ++
    ' ' :: cropTo (panelWidth - (width + 3)) (glyphs code))

/-- Lines of code behind their numbers. -/
def codeLines (width : Nat) : Nat → List (List Char) → List String
  | _, [] => []
  | number, line :: lines => codeLine width number line :: codeLines width (number + 1) lines

/-- The code of a plan: the first lines of it, at least one, and how many are left out.  A mark
of the order of bytes in front is no part of it. -/
def codeRows (code : String) : List String :=
  let all := Text.lineChars code.toList
  let first := match all.take mostLines with
    | [] => [[]]
    | ('\ufeff' :: line) :: rest => line :: rest
    | lines => lines
  codeLines (Number.natText first.length).length 1 first ++
    if mostLines < all.length then
      ["  ... (" ++ Number.natText (all.length - mostLines) ++ " more lines)"]
    else []

end Console

open Console

/-- What a plan is shown as. -/
def Plan.panel (p : Plan) : Except Failure Block := do
  let name := p.fileName.getD ""
  let file ← rowIf (!name.isEmpty) (shown ("[bold]File:[/] [script]" ++ name ++ "[/]"))
  let arguments ← rowIf (!p.arguments.isEmpty) (labelled "Args" (" ".intercalate p.arguments))
  return .panel "Execution plan" <|
    file ++ arguments ++ listed "References" p.allReferences ++
      listed "Namespaces" p.allNamespaces ++ "" :: codeRows p.code

namespace ScriptResult

/-- Whether a value was returned. -/
def hasValue : Datum → Bool
  | .null => false
  | _ => true

/-- What a result is shown as; a plan is shown as itself. -/
def panel (r : ScriptResult) : Except Failure Block :=
  match r.value with
  | .plan p => p.panel
  | .datum d => do
    let value ← rowIf (hasValue d) (d.display.mapError .raised >>= labelled "Return value")
    let invalid ← rowIf (!r.invalidNamespaces.isEmpty)
      (shown ("[warning]Invalid namespaces:[/] " ++ ", ".intercalate r.invalidNamespaces))
    return .panel "Result" (asText r.summary :: value ++ invalid)

/-- The number with which a command ends that ran a script. -/
def exitCode (r : ScriptResult) : Nat := if r.isSuccess then 0 else 1

/-- The warning about a script that is not complete. -/
def incompleteWarning : String :=
  "Warning: The engine expects more input; the submission is incomplete"

/-- What is printed about a result. -/
def blocks (r : ScriptResult) : Except Failure (List Block) :=
  r.panel.map fun panel => panel :: if r.isComplete then [] else [.line incompleteWarning]

theorem exitCode_eq_zero_iff (r : ScriptResult) : r.exitCode = 0 ↔ r.isSuccess = true := by
  unfold exitCode
  split <;> simp_all

end ScriptResult

end ScriptHost
