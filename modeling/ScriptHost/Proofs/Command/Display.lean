import ScriptHost.Proofs.Command.Lookup
import ScriptHost.Proofs.Command.Showing
import ScriptHost.Proofs.Console.Escaping

/-!
# Texts as they are shown

What a person, an engine or a configuration says is put into markup at several places, and there it
is shown as it stands just if it is taken for nothing but text: no tag may begin in it, no backslash
of it may be taken away, no name in it may give way to a picture, and nothing in it may move the
cursor.  A value that was returned must be able to show itself in the first place.  The references,
the namespaces and the code of a plan and the summary of a result are no markup, and error messages
are escaped, so these can always be shown; of them too nothing is shown that would move the cursor.

## Main results

* `ScriptResult.blocks_iff` — when a result is shown with all its texts as they stand.
* `refuse_eq` — an error message can always be told.
* `display_law` — which texts commands show as they stand.
-/

namespace ScriptHost

open Console

/-! ## Texts at their places -/

/-- A text at a place. -/
structure Console.Placed where
  place : Place
  text : String

namespace Console.Placed

/-- What is shown of a text at its place. -/
def display (t : Placed) : Except Failure String := shown (t.place.markup t.text)

/-- The row of a text at its place, with the text as it stands. -/
def row (t : Placed) : String := t.place.front ++ t.text

/-- Whether a text is shown as it stands at its place. -/
def IsKept (t : Placed) : Prop := t.place.Keeps t.text

/-- A text at a place, if it is there. -/
def onlyIf (isThere : Bool) (place : Place) (text : String) : List Placed :=
  if isThere then [⟨place, text⟩] else []

theorem rowIf_eq (isThere : Bool) (place : Place) (text : String) :
    rowIf isThere (shown (place.markup text)) = (onlyIf isThere place text).mapM display := by
  cases isThere with
  | false => rfl
  | true =>
      change (shown (place.markup text)).map _ = _
      rw [onlyIf, if_pos rfl, List.mapM_cons, List.mapM_nil, display]
      cases shown (place.markup text) with
      | error f => rfl
      | ok row => rfl

end Console.Placed

theorem mapM_eq_ok_map_iff {ε α β : Type} {f : α → Except ε β} {g : α → β} {l : List α} :
    l.mapM f = .ok (l.map g) ↔ ∀ a ∈ l, f a = .ok (g a) := by
  induction l with
  | nil => simp [pure, Except.pure]
  | cons a l ih =>
      rw [List.mapM_cons, List.map_cons, List.forall_mem_cons, ← ih]
      cases f a with
      | error e => simp [bind, Except.bind]
      | ok b =>
          cases l.mapM f with
          | error e => simp [bind, Except.bind]
          | ok bs => simp [bind, Except.bind, pure, Except.pure]

theorem mapM_error {ε α β : Type} {f : α → Except ε β} {l : List α} {a : α} (ha : a ∈ l)
    {e : ε} (h : f a = .error e) : ∃ e, l.mapM f = .error e := by
  induction l with
  | nil => cases ha
  | cons b l ih =>
      rw [List.mapM_cons]
      cases hb : f b with
      | error e => exact ⟨e, rfl⟩
      | ok c =>
          rcases List.mem_cons.mp ha with rfl | ha
          · rw [h] at hb
            cases hb
          · obtain ⟨e, he⟩ := ih ha
            exact ⟨e, by rw [he]; rfl⟩

/-- The texts of a plan that are put into markup. -/
def Plan.placed (p : Plan) : List Placed :=
  Placed.onlyIf (!(p.fileName.getD "").isEmpty) .file (p.fileName.getD "") ++
    Placed.onlyIf (!p.arguments.isEmpty) .arguments (" ".intercalate p.arguments)

/-- The rows of a plan that are no markup. -/
def Plan.rows (p : Plan) : List String :=
  listed "References" p.allReferences ++ listed "Namespaces" p.allNamespaces ++
    "" :: codeRows p.code

/-- The panel of a plan holds its texts as they are shown, and the rows that are no markup. -/
theorem Plan.panel_eq (p : Plan) :
    p.panel = (p.placed.mapM Placed.display).map fun shown =>
      .panel "Execution plan" (shown ++ p.rows) := by
  let name := p.fileName.getD ""
  have hpanel : p.panel = (do
      let file ← rowIf (!name.isEmpty) (shown (Place.file.markup name))
      let arguments ← rowIf (!p.arguments.isEmpty)
        (shown (Place.arguments.markup (" ".intercalate p.arguments)))
      return .panel "Execution plan" (file ++ arguments ++ listed "References" p.allReferences ++
        listed "Namespaces" p.allNamespaces ++ "" :: codeRows p.code)) := rfl
  rw [hpanel, Plan.placed, List.mapM_append, ← Placed.rowIf_eq, ← Placed.rowIf_eq]
  cases rowIf (!name.isEmpty) (shown (Place.file.markup name)) with
  | error f => rfl
  | ok file =>
      cases rowIf (!p.arguments.isEmpty)
          (shown (Place.arguments.markup (" ".intercalate p.arguments))) with
      | error f => rfl
      | ok arguments =>
          change Except.ok _ = Except.ok _
          rw [Plan.rows]
          simp only [List.append_assoc]

namespace ScriptResult

/-- The texts of a result that are put into markup, if its value can show itself. -/
def placed (r : ScriptResult) : Except Failure (List Placed) :=
  match r.value with
  | .plan p => .ok p.placed
  | .datum d => (d.display.mapError .raised).map fun value =>
    Placed.onlyIf (hasValue d) .value value ++
      Placed.onlyIf (!r.invalidNamespaces.isEmpty) .namespaces
        (", ".intercalate r.invalidNamespaces)

/-- The panel of a result around the rows with these texts. -/
def frame (r : ScriptResult) (rows : List String) : Block :=
  match r.value with
  | .plan p => .panel "Execution plan" (rows ++ p.rows)
  | .datum _ => .panel "Result" (asText r.summary :: rows)

/-- What is printed about a result around these rows. -/
def framed (r : ScriptResult) (rows : List String) : List Block :=
  r.frame rows :: if r.isComplete then [] else [.line incompleteWarning]

/-- What is printed about a result if these texts of it are shown as they stand. -/
def verbatim (r : ScriptResult) (texts : List Placed) : List Block :=
  r.framed (texts.map Placed.row)

/-- A value that cannot show itself was returned. -/
theorem hasValue_of_error {d : Datum} {f : Fault} (h : d.display = .error f) :
    hasValue d = true := by
  cases d with
  | null => cases h
  | _ => rfl

theorem panel_eq (r : ScriptResult) :
    r.panel = r.placed >>= fun texts => (texts.mapM Placed.display).map r.frame := by
  unfold panel placed frame
  cases r.value with
  | plan p => exact p.panel_eq
  | datum d =>
      dsimp only
      cases hdisplay : d.display with
      | error f =>
          rw [hasValue_of_error hdisplay]
          rfl
      | ok value =>
          change (rowIf (hasValue d) (shown (Place.value.markup value)) >>= _) =
            (List.mapM Placed.display _).map _
          rw [List.mapM_append, ← Placed.rowIf_eq, ← Placed.rowIf_eq]
          cases rowIf (hasValue d) (shown (Place.value.markup value)) with
          | error f => rfl
          | ok row =>
              change (rowIf _ (shown (Place.namespaces.markup _)) >>= fun invalid => pure _) = _
              cases rowIf (!r.invalidNamespaces.isEmpty)
                  (shown (Place.namespaces.markup (", ".intercalate r.invalidNamespaces))) with
              | error f => rfl
              | ok invalid => rfl

/-- What is printed about a result whose value can show itself. -/
theorem blocks_eq {r : ScriptResult} {texts : List Placed} (h : r.placed = .ok texts) :
    r.blocks = (texts.mapM Placed.display).map r.framed := by
  rw [blocks, panel_eq, h]
  change ((texts.mapM Placed.display).map r.frame).map _ = _
  cases texts.mapM Placed.display with
  | error f => rfl
  | ok rows => rfl

/-- A result whose value cannot show itself is not shown at all. -/
theorem blocks_of_unplaced {r : ScriptResult} {f : Failure} (h : r.placed = .error f) :
    r.blocks = .error f := by
  rw [blocks, panel_eq, h]
  rfl

theorem framed_injective (r : ScriptResult) : Function.Injective r.framed := by
  intro rows others h
  have hframe : r.frame rows = r.frame others := (List.cons.inj h).1
  unfold frame at hframe
  split at hframe
  · exact List.append_cancel_right (Block.panel.inj hframe).2
  · exact (List.cons.inj (Block.panel.inj hframe).2).2

/-- A result is shown with all its texts as they stand just if they are taken for nothing but text
and nothing in them moves the cursor. -/
theorem blocks_iff {r : ScriptResult} {texts : List Placed} (h : r.placed = .ok texts) :
    r.blocks = .ok (r.verbatim texts) ↔ ∀ t ∈ texts, t.IsKept := by
  have hrows : r.blocks = .ok (r.verbatim texts) ↔
      texts.mapM Placed.display = .ok (texts.map Placed.row) := by
    rw [blocks_eq h, verbatim]
    cases texts.mapM Placed.display with
    | error f => simp [Except.map]
    | ok rows => simp [Except.map, r.framed_injective.eq_iff]
  rw [hrows, mapM_eq_ok_map_iff]
  exact forall₂_congr fun t _ => t.place.shown_iff t.text

/-- A result with a text that cannot be shown is not shown at all. -/
theorem blocks_of_error {r : ScriptResult} {texts : List Placed} (hplaced : r.placed = .ok texts)
    {t : Placed} (ht : t ∈ texts) {f : Failure} (h : t.display = .error f) :
    ∃ f, r.blocks = .error f := by
  obtain ⟨first, hfirst⟩ := mapM_error ht h
  exact ⟨first, by rw [blocks_eq hplaced, hfirst]; rfl⟩

end ScriptResult

namespace Command

/-! ## Error messages -/

/-- Whether a text can be told in front of an error message. -/
def IsErrorLabel (label : String) : Prop :=
  ∃ front, ' ' :: label.toList = front ++ [' '] ∧ IsPlain front

/-- An error message can always be told, behind what is said in front of it. -/
theorem refuse_eq (d : Disk) {label : String} (hlabel : IsErrorLabel label) (f : Failure) :
    ∃ rest, Outcome.refuse d label f = ⟨1, [.line ("Error: " ++ label ++ rest)], none, d⟩ ∧
      (IsRestored f.message.toList → rest = f.message) := by
  obtain ⟨front, hfront, hplain⟩ := hlabel
  have hs : ("[error]Error:[/] " ++ label ++ escape f.message).toList =
      heading ('e' :: "rror".toList) "Error:".toList
        (front ++ ' ' :: (escape f.message).toList) := by
    rw [List.append_cons, ← hfront]
    simp [heading, String.toList_append]
  obtain ⟨rest, hshown, hverbatim⟩ := shown_escaped error_isStyle (by decide)
    (by decide) hplain f.message hs
  have htext : String.ofList ("Error:".toList ++ front ++ ' ' :: rest) =
      "Error: " ++ label ++ String.ofList rest := by
    rw [← String.toList_inj, String.toList_ofList, List.append_assoc, List.append_cons front,
      ← hfront]
    simp [String.toList_append]
  refine ⟨String.ofList rest, ?_, ?_⟩
  · rw [Outcome.refuse, Outcome.say, hshown, htext]
  · intro h
    rw [← String.toList_inj, String.toList_ofList, hverbatim h]

/-! ## The law of what is shown -/

/-- The codes that would move the cursor are left out of everything that is shown. -/
theorem isStill_of_shown {markup row : String} (h : shown markup = .ok row) :
    isStill row.toList = true := by
  obtain ⟨text, -, h⟩ := exists_of_bind_ok h
  obtain ⟨-, -, h⟩ := exists_of_bind_ok h
  obtain rfl : asText text = row := Except.ok.inj h
  rw [asText, String.toList_ofList]
  exact isStill_still text.toList

/-- The law of the texts that commands show. -/
structure DisplayLaw (w : Surroundings) (d : Disk) : Prop where
  /-- At every place a text is shown as it stands just if it is taken for nothing but text there and
  nothing in it moves the cursor. -/
  place : ∀ (p : Place) (text : String),
    shown (p.markup text) = .ok (p.front ++ text) ↔ p.Keeps text
  /-- Nothing that is shown moves the cursor, whatever is put into it. -/
  still : ∀ markup row, shown markup = .ok row → isStill row.toList = true
  /-- If it is not, it is no part of what is shown, if anything is. -/
  part : ∀ (p : Place) (text : String),
    (∃ row, shown (p.markup text) = .ok row ∧ text.toList <:+: row.toList) ↔ p.Keeps text
  /-- A text in which a closing tag comes first is not shown behind a label. -/
  stray : ∀ (p : Place) (text : String), p.isWithin = false → ClosesFirst text →
    ∃ f, shown (p.markup text) = .error f
  /-- The result of an execution is printed with its texts as they stand just if they are taken so:
  the name and the arguments of a script, or the value and the namespaces. -/
  result : ∀ words m x d' r texts, Reading.ofWords words = .request m (.execute x) →
    m.isQuiet = false → (runScript w d m x).task = .ok (d', r) → r.placed = .ok texts →
    (run w d words = ⟨r.exitCode, r.verbatim texts, none, d'⟩ ↔ ∀ t ∈ texts, t.IsKept)
  /-- If one of them cannot be shown, the failure comes out of the command. -/
  unshown : ∀ words m x d' r texts t f, Reading.ofWords words = .request m (.execute x) →
    m.isQuiet = false → (runScript w d m x).task = .ok (d', r) → r.placed = .ok texts →
    t ∈ texts → t.display = .error f → ∃ f, run w d words = .raise d' f
  /-- So does the failure of a value that cannot show itself. -/
  valueless : ∀ words m x d' r f, Reading.ofWords words = .request m (.execute x) →
    m.isQuiet = false → (runScript w d m x).task = .ok (d', r) → r.placed = .error f →
    run w d words = .raise d' f
  /-- Everything else about a result is printed as text, whatever it is. -/
  rest : ∀ words m x d' r, Reading.ofWords words = .request m (.execute x) →
    m.isQuiet = false → (runScript w d m x).task = .ok (d', r) →
    (run w d words).raised = none → ∃ rows, (run w d words).printed = r.framed rows
  /-- A configuration is shown with its values as they stand just if nothing of its card is lost and
  nothing in it moves the cursor. -/
  card : ∀ words m own c, Reading.ofWords words = .request m (.showConfiguration own) →
    Configuration.load w.environment d own = .ok c →
    (run w d words = .done d [.card cardTitle (cardText c)] ↔
      isKept (cardParts c) = true ∧ isStill (cardText c).toList = true)
  /-- What was wrong with a configuration is shown as it stands just if it is taken so. -/
  loading : ∀ words m own f, Reading.ofWords words = .request m (.showConfiguration own) →
    Configuration.load w.environment d own = .error f → isConfigurationFault f = true →
    (run w d words = ⟨1, [.line (Place.loading.front ++ f.message)], none, d⟩ ↔
      Place.loading.Keeps f.message)
  /-- The path of a library is told as it stands just if it is taken so. -/
  library : ∀ words m directory c e path isThere,
    Reading.ofWords words = .request m (.library directory) →
    configuration w d m.configuration = .ok c → executor w d c = .ok e →
    toldPath c d directory = .ok path → d.isFile path = .ok isThere →
    (run w d words = ⟨0, [.line ((Place.library isThere).front ++ path)], none, d⟩ ↔
      (Place.library isThere).Keeps path)
  /-- An error message of any other command can always be told. -/
  refused : ∀ label f, IsErrorLabel label →
    ∃ rest, Outcome.refuse d label f = ⟨1, [.line ("Error: " ++ label ++ rest)], none, d⟩ ∧
      (IsRestored f.message.toList → rest = f.message)

theorem run_loudly {w : Surroundings} {d d' : Disk} {words : List String} {m : Manner}
    {x : Execution} {r : ScriptResult} (hwords : Reading.ofWords words = .request m (.execute x))
    (hloud : m.isQuiet = false) (hrun : (runScript w d m x).task = .ok (d', r)) :
    run w d words =
      match r.blocks with
      | .ok blocks => ⟨r.exitCode, blocks, none, d'⟩
      | .error f => .raise d' f := by
  rw [run, hwords]
  exact execute_loudly hloud hrun

theorem say_iff (d : Disk) (exit : Nat) {markup text : String} :
    Outcome.say d exit markup = ⟨exit, [.line text], none, d⟩ ↔ shown markup = .ok text := by
  unfold Outcome.say
  cases shown markup with
  | error f => simp [Outcome.raise]
  | ok row => simp

/-- All commands obey the law. -/
theorem display_law (w : Surroundings) (d : Disk) : DisplayLaw w d := by
  constructor
  case place => exact fun p text => p.shown_iff text
  case still => exact fun markup row h => isStill_of_shown h
  case part => exact fun p text => p.displays_iff text
  case stray =>
    rintro p text hwithin ⟨before, name, rest, rfl, hbefore, hlast, hname⟩
    exact Place.shown_of_stray hwithin hbefore hlast hname rest
  case result =>
    intro words m x d' r texts hwords hloud hrun hplaced
    rw [run_loudly hwords hloud hrun, ← ScriptResult.blocks_iff hplaced]
    cases r.blocks with
    | error f => simp [Outcome.raise]
    | ok blocks => simp
  case unshown =>
    intro words m x d' r texts t f hwords hloud hrun hplaced ht hf
    obtain ⟨first, hfirst⟩ := ScriptResult.blocks_of_error hplaced ht hf
    exact ⟨first, by rw [run_loudly hwords hloud hrun, hfirst]⟩
  case valueless =>
    intro words m x d' r f hwords hloud hrun hplaced
    rw [run_loudly hwords hloud hrun, ScriptResult.blocks_of_unplaced hplaced]
  case rest =>
    intro words m x d' r hwords hloud hrun
    rw [run_loudly hwords hloud hrun]
    cases hplaced : r.placed with
    | error f =>
        rw [ScriptResult.blocks_of_unplaced hplaced]
        intro h
        cases h
    | ok texts =>
        rw [ScriptResult.blocks_eq hplaced]
        cases texts.mapM Placed.display with
        | error f =>
            intro h
            cases h
        | ok rows => exact fun _ => ⟨rows, rfl⟩
  case card =>
    intro words m own c hwords hload
    rw [run_showing hwords hload, ← shown_describe_iff]
    cases shown (describe c) with
    | error f => simp [Outcome.raise, Outcome.done]
    | ok text => simp [Outcome.done]
  case loading =>
    intro words m own f hwords hload hfault
    rw [run_unloaded hwords hload, if_pos hfault, ← Place.loading.shown_iff, ← say_iff d 1]
    rfl
  case library =>
    intro words m directory c e path isThere hwords hconfiguration hexecutor htold hfile
    have hshow : showLibrary w d m directory = .ok (.say d 0 (libraryReport path isThere)) := by
      rw [showLibrary_eq hconfiguration hexecutor, htold]
      change tell d path = _
      rw [tell, hfile]
      rfl
    rw [run, hwords, ← (Place.library isThere).shown_iff, ← libraryReport_eq, ← say_iff d 0]
    change (showLibrary w d m directory).outcome = _ ↔ _
    rw [hshow]
    rfl
  case refused => exact fun label f hlabel => refuse_eq d hlabel f

/-- In the sample the path of the library of a directory with brackets in its name is not told as it
stands, and whatever is told does not hold it. -/
theorem path_unkept_in_sample :
    Reading.ofWords ["library", "src/[net8]"] =
        .request sampleManner (.library (some "src/[net8]")) ∧
      toldPath sampleConfiguration sampleDisk (some "src/[net8]") =
        .ok "/work/src/[net8]/packages/ScriptLibraries.csx" ∧
      run sampleSurroundings sampleDisk ["library", "src/[net8]"] ≠
        ⟨0, [.line "No script library at: /work/src/[net8]/packages/ScriptLibraries.csx"], none,
          sampleDisk⟩ ∧
      ¬ ∃ row, shown ((Place.library false).markup
          "/work/src/[net8]/packages/ScriptLibraries.csx") = .ok row ∧
        "/work/src/[net8]/packages/ScriptLibraries.csx".toList <:+: row.toList := by
  have hwords : Reading.ofWords ["library", "src/[net8]"] =
      .request sampleManner (.library (some "src/[net8]")) := by decide
  obtain ⟨e, hexecutor⟩ : ∃ e, executor sampleSurroundings sampleDisk sampleConfiguration = .ok e :=
    exists_of_toOption (by decide +kernel)
  have htold : toldPath sampleConfiguration sampleDisk (some "src/[net8]") =
      .ok "/work/src/[net8]/packages/ScriptLibraries.csx" := eq_ok_of_toOption (by decide +kernel)
  have hfile : sampleDisk.isFile "/work/src/[net8]/packages/ScriptLibraries.csx" = .ok false :=
    eq_ok_of_toOption (by decide +kernel)
  have hunkept : ¬ (Place.library false).Keeps
      "/work/src/[net8]/packages/ScriptLibraries.csx" := by
    unfold Place.Keeps
    decide +kernel
  have hlaw := display_law sampleSurroundings sampleDisk
  have htells :=
    hlaw.library _ _ _ _ _ _ _ hwords configuration_sample hexecutor htold hfile
  exact ⟨hwords, htold, fun h => hunkept (htells.mp h),
    fun h => hunkept ((hlaw.part _ _).mp h)⟩

end Command

end ScriptHost
