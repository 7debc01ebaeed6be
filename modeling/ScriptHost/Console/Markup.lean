import ScriptHost.Console.Handler
import ScriptHost.Console.Style
import ScriptHost.Failure

/-!
# Markup

Text for the console may hold tags in square brackets.  A tag opens a style, and a tag with a
slash closes the last one that is open under its name, or the last one of all if it has none.
A tag begins with a lower-case letter, a hash, a slash or an at sign; any other bracket is
text.  A backslash before a tag makes it text, two of them are a backslash.

`plainText` is what is left of the tags, `escape` makes text out of everything.  Of any text, marked
up or not, `still` takes away the characters that would move the cursor by themselves.

## Main results

* `plainText_of_no_bracket` — a text without brackets is what is left of it, up to its pictures.
* `still_eq_self_iff` — nothing is taken away of a text just if it is still.
-/

namespace ScriptHost.Console

/-! ## Tags -/

/-- Whether a character may begin a tag. -/
def opensTag (c : Char) : Bool := ('a' ≤ c && c ≤ 'z') || c == '#' || c == '/' || c == '@'

/-- The text up to a closing bracket, unless another bracket opens before it. -/
def upToBracket? : List Char → Option (List Char)
  | [] => none
  | c :: cs =>
    if c = ']' then some [] else if c = '[' then none else (upToBracket? cs).map (c :: ·)

/-- The body of a tag, behind its opening bracket. -/
def tagBody? : List Char → Option (List Char)
  | [] => none
  | c :: cs => if opensTag c then (upToBracket? cs).map (c :: ·) else none

/-- The number of backslashes before the tag with which a text begins, and the tag's body. -/
def tagAt? (cs : List Char) : Option (Nat × List Char) :=
  let slashes := (cs.takeWhile (· == '\\')).length
  match cs.drop slashes with
  | '[' :: rest => (tagBody? rest).map fun body => (slashes, body)
  | _ => none

/-- A tag: its name, and what stands behind an equals sign. -/
structure Tag where
  name : String
  parameters : Option String
  deriving DecidableEq, Repr

namespace Tag

/-- The tag of a body. -/
def ofBody (body : List Char) : Tag :=
  let name := body.takeWhile (· != '=')
  ⟨String.ofList name,
    if name.length = body.length then none else some (String.ofList (body.drop (name.length + 1)))⟩

/-- A tag as it is written. -/
def text (t : Tag) : String :=
  "[" ++ t.name ++ (match t.parameters with | some p => "=" ++ p | none => "") ++ "]"

end Tag

/-- A stretch of marked-up text. -/
inductive Piece where
  | plain (text : List Char)
  | tag (tag : Tag) (position : Nat)
  deriving Repr

/-- Pieces with a plain one in front, unless it is empty. -/
def plainBefore (text : List Char) (rest : List Piece) : List Piece :=
  if text.isEmpty then rest else .plain text :: rest

/-- The pieces of a text at a position, behind plain characters (newest first), of which the
next few have been read already. -/
def piecesFrom (position : Nat) (run : List Char) : Nat → List Char → List Piece
  | _, [] => plainBefore run.reverse []
  | skip + 1, _ :: cs => piecesFrom (position + 1) run skip cs
  | 0, c :: cs =>
    match tagAt? (c :: cs) with
    | none => piecesFrom (position + 1) (c :: run) 0 cs
    | some (slashes, body) =>
      let piece : Piece :=
        if slashes % 2 = 1 then .plain ('[' :: body ++ [']'])
        else .tag (Tag.ofBody body) (position + slashes)
      plainBefore run.reverse <| plainBefore (List.replicate (slashes / 2) '\\') <|
        piece :: piecesFrom (position + 1) [] (slashes + body.length + 1) cs

/-- The pieces of a text. -/
def markupPieces (cs : List Char) : List Piece := piecesFrom 0 [] 0 cs

/-! ## Plain text -/

/-- Takes away the backslash before every opening bracket. -/
def unescape : List Char → List Char
  | [] => []
  | '\\' :: '[' :: cs => '[' :: unescape cs
  | c :: cs => c :: unescape cs

/-- Takes the last open tag of a name off the open ones, which are given newest first. -/
def closeNamed? (name : String) : List Tag → Option (Tag × List Tag)
  | [] => none
  | t :: ts =>
    if t.name = name then some (t, ts)
    else (closeNamed? name ts).map fun (found, rest) => (found, t :: rest)

/-- Whether a tag that is closed can be shown. -/
def checkClosed (t : Tag) : Except Failure Unit :=
  match t.parameters with
  | some p =>
    if t.name.toList.head? == some '@' && !p.isEmpty && !isHandler p then
      .error (.markup (.unreadable p))
    else .ok ()
  | none => .ok ()

/-- The normal form of the name of a tag. -/
def normalName (name : String) : Except Failure String := (normalize name).mapError .raised

/-- The open tag that a closing one with a name, or without, closes; and the other open ones. -/
def closeTag (tags : List Tag) (t : Tag) (name : String) (position : Nat) :
    Except Failure (Tag × List Tag) :=
  if name.isEmpty then
    match tags with
    | last :: rest => .ok (last, rest)
    | [] => .error (.markup (.nothingOpen "[/]" position))
  else
    match normalName name with
    | .error failure => .error failure
    | .ok name =>
      match closeNamed? name tags with
      | some found => .ok found
      | none => .error (.markup (.unmatched t.text position))

/-- The open tags after one more tag at a position. -/
def passTag (tags : List Tag) (t : Tag) (position : Nat) : Except Failure (List Tag) :=
  match t.name.toList with
  | '/' :: name =>
    match closeTag tags t (Text.strip (String.ofList name)) position with
    | .error failure => .error failure
    | .ok (closed, rest) => (checkClosed closed).map fun () => rest
  | _ => (normalName t.name).map fun name => { t with name := name } :: tags

/-- What pieces show, given the tags that are open. -/
def showPieces (pictures : List Char → List Char) (tags : List Tag) :
    List Piece → Except Failure (List Char)
  | [] => .ok []
  | .plain text :: ps =>
    (showPieces pictures tags ps).map fun rest => pictures (unescape text) ++ rest
  | .tag t position :: ps =>
    match passTag tags t position with
    | .error failure => .error failure
    | .ok tags => showPieces pictures tags ps

/-- What marked-up text shows. -/
def plainText (pictures : List Char → List Char) (s : String) : Except Failure String :=
  (showPieces pictures [] (markupPieces s.toList)).map String.ofList

/-- Whether the style that a tag asks for, with what stands behind its equals sign, can be looked
up.  A closing tag asks for none, and neither does one with an at sign. -/
def checkStyle : Piece → Except Failure Unit
  | .tag ⟨name, some parameters⟩ _ =>
    if ['/', '@'].any fun c => name.toList.head? == some c then .ok ()
    else
      match normalName name with
      | .error failure => .error failure
      | .ok name =>
        ((style? (name ++ " " ++ parameters)).map fun _ => ()).mapError .raised
  | _ => .ok ()

/-- Whether the styles of a marked-up text can be looked up, which happens when it is printed. -/
def checkStyles (s : String) : Except Failure Unit := (markupPieces s.toList).forM checkStyle

/-! ## Escaping -/

/-- A text with every tag made text, of which the next few characters have been read already. -/
def escapeFrom : Nat → List Char → List Char
  | _, [] => []
  | skip + 1, _ :: cs => escapeFrom skip cs
  | 0, c :: cs =>
    match tagAt? (c :: cs) with
    | none => c :: escapeFrom 0 cs
    | some (slashes, body) =>
      List.replicate (2 * slashes + 1) '\\' ++ '[' :: body ++
        ']' :: escapeFrom (slashes + body.length + 1) cs

/-- A single backslash at the end of a text, written twice. -/
def guardEnd (cs : List Char) : List Char :=
  match cs.reverse with
  | '\\' :: '\\' :: _ => cs
  | '\\' :: _ => cs ++ ['\\']
  | _ => cs

/-- The markup that shows a text as it stands. -/
def escape (s : String) : String := String.ofList (guardEnd (escapeFrom 0 s.toList))

/-! ## Control codes -/

/-- Whether a character would ring, go back, or begin a new line or page by itself. -/
def isControl (c : Char) : Bool :=
  let n := c.toNat
  n == 7 || n == 8 || (11 ≤ n && n ≤ 13)

/-- A text without the characters that would move the cursor. -/
def still (cs : List Char) : List Char := cs.filter fun c => !isControl c

/-- Whether a text has no characters that would move the cursor. -/
def isStill (cs : List Char) : Bool := cs.all fun c => !isControl c

theorem still_eq_self_iff {cs : List Char} : still cs = cs ↔ isStill cs = true := by
  rw [still, List.filter_eq_self, isStill, List.all_eq_true]

@[simp] theorem still_append (cs ds : List Char) : still (cs ++ ds) = still cs ++ still ds :=
  List.filter_append cs ds

@[simp] theorem isStill_append (cs ds : List Char) :
    isStill (cs ++ ds) = (isStill cs && isStill ds) := List.all_append

theorem isStill_still (cs : List Char) : isStill (still cs) = true := by
  rw [isStill, List.all_eq_true]
  exact fun c hc => (List.mem_filter.mp hc).2

/-- A still text that is part of another one stays part of it. -/
theorem infix_still {cs ds : List Char} (h : cs <:+: ds) (hcs : isStill cs = true) :
    cs <:+: still ds := by
  rw [← still_eq_self_iff.mpr hcs]
  exact h.filter _

/-- Nothing but still texts is part of a text that is still. -/
theorem isStill_of_infix {cs ds : List Char} (h : cs <:+: still ds) : isStill cs = true := by
  rw [isStill, List.all_eq_true]
  exact fun c hc => (List.mem_filter.mp (h.subset hc)).2

/-! ## Text without markup -/

theorem tagAt?_eq_none {cs : List Char} (h : '[' ∉ cs) : tagAt? cs = none := by
  simp only [tagAt?]
  split
  · next rest heq =>
    exact absurd (List.mem_of_mem_drop (heq ▸ List.mem_cons_self : '[' ∈ cs.drop _)) h
  · rfl

theorem piecesFrom_of_no_bracket {cs : List Char} (h : '[' ∉ cs) (position : Nat)
    (run : List Char) : piecesFrom position run 0 cs = plainBefore (run.reverse ++ cs) [] := by
  induction cs generalizing position run with
  | nil => simp [piecesFrom]
  | cons c cs ih =>
    rw [piecesFrom, tagAt?_eq_none h]
    simp [ih fun hm => h (List.mem_cons_of_mem c hm)]

theorem unescape_of_no_bracket {cs : List Char} (h : '[' ∉ cs) : unescape cs = cs := by
  induction cs with
  | nil => rfl
  | cons c cs ih =>
    have hcs : '[' ∉ cs := fun hm => h (List.mem_cons_of_mem c hm)
    rw [unescape]
    · rw [ih hcs]
    · intro ds _ heq
      exact hcs (heq ▸ List.mem_cons_self)

/-- A text without brackets is what is left of it, up to its pictures. -/
theorem plainText_of_no_bracket (pictures : List Char → List Char) {s : String}
    (h : '[' ∉ s.toList) (hnil : pictures [] = []) :
    plainText pictures s = .ok (String.ofList (pictures s.toList)) := by
  rw [plainText, markupPieces, piecesFrom_of_no_bracket h]
  by_cases he : s.toList.isEmpty
  · have : s.toList = [] := by simpa using he
    simp [this, plainBefore, showPieces, hnil, Except.map]
  · simp only [List.reverse_nil, List.nil_append, plainBefore, he]
    simp [showPieces, Except.map, unescape_of_no_bracket h]

end ScriptHost.Console
