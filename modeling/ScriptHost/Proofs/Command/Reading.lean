import ScriptHost.Command.Request

/-!
# Options in front of a command

The options in front of a command say in what manner it is carried out.  One more of them in front
of a command line that asks for something changes the manner of what is asked for, and leaves the
request as it is: neither the command nor its own options and operands are looked at again.

## Main results

* `read_option`, `read_valued_option` — an option in front of other words.
* `ofWords_quiet`, `ofWords_configuration` — a command line behind one more option.
-/

namespace ScriptHost.Command

namespace Arguments

variable {κ : Type} {choices : List (Choice κ)} {word : String} {given : List (Given κ)}

/-- A word that gives options is read by itself, and they stand in front of the others. -/
theorem read_option (hsep : word ≠ "--") (hoptions : givesOptions word = true)
    (hword : readWord choices word = some (given, none)) (anywhere : Bool) (words : List String) :
    read choices anywhere (word :: words) =
      (read choices anywhere words).map fun a => a.withGiven given := by
  rw [read.eq_def]
  simp only [hsep, hoptions, hword, if_true, if_false]

/-- A word that gives options, the last of which waits for its value, is read with the next word. -/
theorem read_valued_option {key : κ} (hsep : word ≠ "--") (hoptions : givesOptions word = true)
    (hword : readWord choices word = some (given, some key)) (anywhere : Bool) (value : String)
    (words : List String) :
    read choices anywhere (word :: value :: words) =
      (read choices anywhere words).map fun a => a.withGiven (given ++ [⟨key, some value⟩]) := by
  rw [read.eq_def]
  simp only [hsep, hoptions, hword, if_true, if_false]

end Arguments

/-! ## Manners -/

/-- A reading whose request, if it has one, is carried out in another manner. -/
def Reading.inManner (change : Manner → Manner) : Reading → Reading
  | .request m r => .request (change m) r
  | reading => reading

variable (change : Manner → Manner)

theorem answerAtOnce?_inManner {key : Key} {reading : Reading}
    (h : answerAtOnce? key = some reading) : reading.inManner change = reading := by
  cases key with
  | help =>
      cases h
      rfl
  | version =>
      cases h
      rfl
  | _ => cases h

/-- What is answered at once is the same in every manner. -/
theorem proceed_inManner (arguments : Option (Arguments Key)) (go : Arguments Key → Reading) :
    (Arguments.proceed arguments go).inManner change =
      Arguments.proceed arguments fun a => (go a).inManner change := by
  cases arguments with
  | none => rfl
  | some a =>
      have hfound : ∀ reading, (a.given.findSome? fun g => answerAtOnce? g.key) = some reading →
          reading.inManner change = reading := by
        intro reading hreading
        obtain ⟨g, -, hanswer⟩ := List.exists_of_findSome?_eq_some hreading
        exact answerAtOnce?_inManner change hanswer
      simp only [Arguments.proceed]
      cases h : a.given.findSome? fun g => answerAtOnce? g.key with
      | none => rfl
      | some reading => exact hfound reading h

theorem grammar_read_inManner (g : Grammar) (m : Manner) (words : List String) :
    (g.read m words).inManner change = g.read (change m) words := by
  rw [Grammar.read, proceed_inManner, Grammar.read]
  congr 1
  funext a
  cases g.request? a with
  | none => rfl
  | some r => rfl

theorem readAmong_inManner (grammars : List (String × Grammar)) (m : Manner)
    (words : List String) :
    (readAmong grammars m words).inManner change = readAmong grammars (change m) words := by
  cases words with
  | nil => rfl
  | cons name words =>
      simp only [readAmong]
      cases grammars.lookup name with
      | none => rfl
      | some g => exact grammar_read_inManner change g m words

/-- A command is read in the same way in every manner. -/
theorem readCommand_inManner (m : Manner) (words : List String) :
    (readCommand m words).inManner change = readCommand (change m) words := by
  unfold readCommand
  split
  · rw [proceed_inManner]
    congr 1
    funext a
    exact readAmong_inManner change _ m a.operands
  · exact readAmong_inManner change _ m words

/-! ## One more option -/

/-- The manner of the options in front of a command. -/
def Manner.ofOptions (a : Arguments Key) : Manner :=
  ⟨a.has .quiet, a.has .debug, a.last? .configuration⟩

/-- Options in front of a command line that are not answered at once change the manner of what it
asks for, if it has any words of its own. -/
theorem ofWords_behind {front words : List String} {given : List (Given Key)}
    (hwords : words ≠ [])
    (hread : Arguments.read mannerChoices false (front ++ words) =
      (Arguments.read mannerChoices false words).map fun a => a.withGiven given)
    (hlater : given.findSome? (fun g => answerAtOnce? g.key) = none)
    (hmanner : ∀ a, Manner.ofOptions (a.withGiven given) = change (Manner.ofOptions a)) :
    Reading.ofWords (front ++ words) = (Reading.ofWords words).inManner change := by
  have hempty : words.isEmpty = false := by simpa using hwords
  have hempty' : (front ++ words).isEmpty = false := by simp [hwords]
  rw [Reading.ofWords, hempty', Reading.ofWords, hempty, hread]
  simp only [Bool.false_eq_true, if_false]
  rw [proceed_inManner]
  cases Arguments.read mannerChoices false words with
  | none => rfl
  | some a =>
      have hfound : ((a.withGiven given).given.findSome? fun g => answerAtOnce? g.key) =
          a.given.findSome? fun g => answerAtOnce? g.key := by
        rw [Arguments.withGiven, List.findSome?_append, hlater]
        rfl
      have hgo : readCommand (Manner.ofOptions (a.withGiven given)) a.operands =
          (readCommand (Manner.ofOptions a) a.operands).inManner change := by
        rw [hmanner, readCommand_inManner]
      simp only [Option.map_some, Arguments.proceed, hfound]
      exact congrArg _ hgo

/-- The same manner, but quiet. -/
def Manner.hushed (m : Manner) : Manner := { m with isQuiet := true }

/-- The same manner with a configuration file, unless it has one. -/
def Manner.withConfiguration (file : String) (m : Manner) : Manner :=
  { m with configuration := m.configuration.or (some file) }

/-- A command line behind `--quiet` asks for the same, to be done quietly. -/
theorem ofWords_quiet {words : List String} (h : words ≠ []) :
    Reading.ofWords ("--quiet" :: words) = (Reading.ofWords words).inManner Manner.hushed := by
  have hword : readWord mannerChoices "--quiet" = some ([⟨.quiet, none⟩], none) := by
    decide
  have hread : Arguments.read mannerChoices false (["--quiet"] ++ words) =
      (Arguments.read mannerChoices false words).map fun a => a.withGiven [⟨.quiet, none⟩] :=
    Arguments.read_option (by decide) (by decide) hword false words
  exact ofWords_behind Manner.hushed h hread rfl fun a => rfl

/-- A command line behind `--config` asks for the same, with the file unless it names another. -/
theorem ofWords_configuration {words : List String} (h : words ≠ []) (file : String) :
    Reading.ofWords ("--config" :: file :: words) =
      (Reading.ofWords words).inManner (Manner.withConfiguration file) := by
  have hword : readWord mannerChoices "--config" = some ([], some .configuration) := by
    decide
  have hread : Arguments.read mannerChoices false (["--config", file] ++ words) =
      (Arguments.read mannerChoices false words).map fun a =>
        a.withGiven [⟨.configuration, some file⟩] :=
    Arguments.read_valued_option (by decide) (by decide) hword false file words
  refine ofWords_behind (Manner.withConfiguration file) h hread rfl ?_
  intro a
  have hlast : (a.withGiven [⟨.configuration, some file⟩]).last? .configuration =
      (a.last? .configuration).or (some file) := by
    have hvalues : (a.withGiven [⟨.configuration, some file⟩]).values .configuration =
        file :: a.values .configuration := rfl
    rw [Arguments.last?, hvalues, List.getLast?_cons, Arguments.last?]
    cases (a.values .configuration).getLast? with
    | none => rfl
    | some last => rfl
  change Manner.ofOptions (a.withGiven [⟨.configuration, some file⟩]) = _
  rw [Manner.ofOptions, hlast]
  rfl

end ScriptHost.Command
