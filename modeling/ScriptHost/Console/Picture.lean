import ScriptHost.Console.PictureTable
import ScriptHost.Console.Style

/-!
# Pictures

A name between two colons stands for a picture if there is one of that name, in whatever case
the name is written; `-text` and `-emoji` behind the name ask for the picture as a character or
in colour.  A name holds no blanks.  What is no picture stays as it is, both colons included.

## Main results

* `withPictures_of_no_colon` — a text without colons has no pictures.
-/

namespace ScriptHost.Console

/-- The picture of a name. -/
def picture? (name : String) : Option (List Char) :=
  pictureTables.findSome? fun names => names.lookup name

/-- The name up to the next colon, if no blank comes first. -/
def upToColon? : List Char → Option (List Char)
  | [] => none
  | c :: cs =>
    if c = ':' then some [] else if Text.isBlank c then none else (upToColon? cs).map (c :: ·)

/-- A text without an ending, if it has that ending. -/
def without? (ending : String) (cs : List Char) : Option (List Char) :=
  if ending.toList.isSuffixOf cs then some (cs.take (cs.length - ending.length)) else none

/-- A name without what it says about the form, and the character that asks for that form. -/
def pictureForm (name : List Char) : List Char × List Char :=
  match without? "-emoji" name, without? "-text" name with
  | some base, _ => (base, ['\ufe0f'])
  | none, some base => (base, ['\ufe0e'])
  | none, none => (name, [])

/-- The picture of a name in the form that it asks for. -/
def pictureOf? (name : List Char) : Option (List Char) :=
  let (base, form) := pictureForm name
  (picture? (Text.lower (String.ofList base))).map fun p => p ++ form

/-- A text with pictures for their names, of which the next few characters have been read
already. -/
def picturesFrom : Nat → List Char → List Char
  | _, [] => []
  | skip + 1, _ :: cs => picturesFrom skip cs
  | 0, c :: cs =>
    if c = ':' then
      match upToColon? cs with
      | some name =>
        (pictureOf? name).getD (':' :: name ++ [':']) ++ picturesFrom (name.length + 1) cs
      | none => c :: picturesFrom 0 cs
    else c :: picturesFrom 0 cs

/-- A text with pictures for their names. -/
def withPictures (cs : List Char) : List Char := picturesFrom 0 cs

/-- A text without colons has no pictures. -/
theorem withPictures_of_no_colon {cs : List Char} (h : ':' ∉ cs) : withPictures cs = cs := by
  induction cs with
  | nil => rfl
  | cons c cs ih =>
    have hc : c ≠ ':' := fun e => h (by simp [e])
    simp only [withPictures, picturesFrom, if_neg hc]
    exact congrArg _ (ih fun hm => h (List.mem_cons_of_mem c hm))

end ScriptHost.Console
