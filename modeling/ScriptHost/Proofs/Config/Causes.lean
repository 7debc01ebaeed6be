import ScriptHost.Proofs.Config.Chosen
import ScriptHost.Proofs.Config.Sections
import ScriptHost.Proofs.Disk.Looking

/-!
# Why a configuration is not loaded

The file that is asked for may be missing, or a path too long to be looked at.  The chosen file may
be a directory, or hold what is no document; its document may give no sections; and what it gives,
with what the environment sets, may be refused.  There are no other causes.

What is given is refused for its values, unless a directive in it is: a setting cannot be decoded,
or fields are invalid.

## Main results

* `load_eq_error_iff` — the causes for which a configuration is not loaded.
* `documentOf_of_undecodable` — bytes that are no text keep a document from being read.
* `isBadValue_or_misdirected` — what is given is refused for a value, or for a directive.
-/

namespace ScriptHost

/-! ## Documents -/

namespace Configuration

open Schema (Fields)

/-- The document that a file holds. -/
def documentOf (content : List UInt8) : Except Failure Datum :=
  let (cs, fault?) := Text.readPieces content
  Yaml.read (Yaml.Source.ofChars (Text.plainNewlineChars cs) (fault?.map Failure.undecodable))

/-- The sections in a file are those of its document. -/
theorem sectionsIn_of_look {d : Disk} {path : String} {content : List UInt8}
    (h : d.look path = .ok (some (.file content))) :
    sectionsIn d path = documentOf content >>= sectionsOf := by
  rw [sectionsIn, Disk.contentOf_of_file h, documentOf]
  simp only [bind, Except.bind]

theorem sectionsIn_of_directory {d : Disk} {path : String}
    (h : d.look path = .ok (some .directory)) :
    sectionsIn d path = .error (.disk .isDirectory (Path.normalText path)) := by
  rw [sectionsIn, Disk.contentOf_of_directory h]
  rfl

/-- Bytes that are no text, or a character that may stand in no document, keep a document from being
read if they lie in its first steps. -/
theorem read_of_upTo {cs : List Char} {step : Nat} (h : step ≤ 1) (f : Failure) :
    Yaml.read (Yaml.Source.upTo cs step f) = .error f := by
  rw [Yaml.Source.upTo, if_pos h]
  rfl

theorem length_plainNewlineChars_le (cs : List Char) :
    (Text.plainNewlineChars cs).length ≤ cs.length := by
  fun_induction Text.plainNewlineChars cs with
  | case1 => exact Nat.le_refl _
  | case2 cs ih =>
      simp only [List.length_cons]
      omega
  | case3 cs _ ih => exact Nat.succ_le_succ ih
  | case4 c cs _ _ ih => exact Nat.succ_le_succ ih

theorem documentOf_of_undecodable {content : List UInt8} {cs : List Char} {fault : Text.Utf8Fault}
    (h : Text.readPieces content = (cs, some fault))
    (hfirst : cs.length < 2 * Yaml.Source.stepLength) :
    documentOf content = .error (.undecodable fault) := by
  have hlast : (Text.plainNewlineChars cs).length / Yaml.Source.stepLength ≤ 1 := by
    have hle := length_plainNewlineChars_le cs
    have hlt : (Text.plainNewlineChars cs).length / Yaml.Source.stepLength < 2 :=
      Nat.div_lt_of_lt_mul (by omega)
    omega
  have hsource : Yaml.Source.ofChars (Text.plainNewlineChars cs) (some (.undecodable fault)) =
      .upTo (Text.plainNewlineChars cs)
        ((Text.plainNewlineChars cs).length / Yaml.Source.stepLength) (.undecodable fault) := by
    unfold Yaml.Source.ofChars
    dsimp only
    split
    · next heq _ => cases heq
    · next heq _ =>
      cases heq
      rfl
    · next heq _ => cases heq
    · next heq _ =>
      cases heq
      rw [if_pos (.inl hlast)]
  rw [documentOf, h]
  dsimp only [Option.map_some]
  rw [hsource]
  exact read_of_upTo hlast _

/-! ## Shapes -/

/-- Whether a document gives sections: it counts as nothing, or is a mapping whose keys are
texts. -/
def IsNamed (document : Datum) : Prop :=
  document.isTruthy = true →
    ∃ entries, document = .dict entries ∧ ∀ e ∈ entries, e.1.text?.isSome = true

theorem isSome_named?_iff (entries : List (Datum × Datum)) :
    (named? entries).isSome = true ↔ ∀ e ∈ entries, e.1.text?.isSome = true := by
  rw [named?]
  induction entries with
  | nil => simp
  | cons e entries ih =>
      rw [List.forall_mem_cons, ← ih, List.mapM_cons]
      cases e.1.text? with
      | none => simp
      | some name =>
          cases entries.mapM fun e => e.1.text?.map fun name => (name, e.2) with
          | none => simp
          | some rest => simp

theorem sectionsOf_of_named {document : Datum} (h : IsNamed document) :
    ∃ given, sectionsOf document = .ok given := by
  unfold sectionsOf
  cases htruthy : document.isTruthy with
  | false => exact ⟨[], rfl⟩
  | true =>
      obtain ⟨entries, rfl, htexts⟩ := h htruthy
      obtain ⟨given, hgiven⟩ := Option.isSome_iff_exists.mp ((isSome_named?_iff entries).mpr htexts)
      exact ⟨given, by simp [hgiven]⟩

/-- A document that gives no sections has a wrong type. -/
theorem sectionsOf_of_unnamed {document : Datum} (h : ¬ IsNamed document) :
    ∃ detail, sectionsOf document = .error (.wrongType detail) := by
  rw [IsNamed, Classical.not_imp] at h
  obtain ⟨htruthy, hentries⟩ := h
  unfold sectionsOf
  rw [htruthy, Bool.not_true, if_neg Bool.false_ne_true]
  split
  · next entries =>
    split
    · next given hgiven =>
      have htexts := (isSome_named?_iff entries).mp (Option.isSome_iff_exists.mpr ⟨given, hgiven⟩)
      exact absurd ⟨entries, rfl, htexts⟩ hentries
    · exact ⟨_, rfl⟩
  · exact ⟨_, rfl⟩

/-! ## Values -/

theorem sectionValue_error {source : SettingSource} {k : Convention}
    {vars : Sequence.Entries (Option String)} {shape : SectionShape} {f : Failure}
    (h : Environment.sectionValue source k vars shape = .error f) :
    f = .undecodableSetting source shape.name := by
  unfold Environment.sectionValue at h
  grind

/-- A setting of the environment is refused only if it cannot be decoded. -/
theorem sectionsOf_error {source : SettingSource} {k : Convention}
    {vars : Sequence.Entries (Option String)} {shapes : List SectionShape} {f : Failure}
    (h : Environment.sectionsOf source k vars shapes = .error f) :
    ∃ shape ∈ shapes, f = .undecodableSetting source shape.name := by
  induction shapes with
  | nil => cases h
  | cons shape shapes ih =>
      rw [Environment.sectionsOf] at h
      split at h
      · next f' hvalue =>
        cases h
        exact ⟨shape, List.mem_cons_self, sectionValue_error hvalue⟩
      · split at h
        · next f' hrest =>
          cases h
          obtain ⟨other, hother, rfl⟩ := ih hrest
          exact ⟨other, List.mem_cons_of_mem shape hother, rfl⟩
        · split at h
          · cases h
          · cases h

theorem ofSections_error {sections : Fields} {f : Failure} (h : ofSections sections = .error f) :
    ∃ issues, f = .invalid model issues := by
  unfold ofSections at h
  dsimp only at h
  generalize Schema.Checked.field _ _ = checked at h
  cases checked with
  | ok c => cases h
  | error issues =>
      cases h
      exact ⟨issues, rfl⟩

/-! ### Directives -/

theorem isBadValue_of_secretSection {k : Convention} {d : Disk} {folders : List String}
    {shape : SectionShape} {f : Failure} (h : k.secretSection d folders shape = .error f) :
    f.isBadValue = true := by
  unfold Convention.secretSection at h
  split at h
  · cases h
    rfl
  · cases h
  · split at h
    · cases h
      rfl
    · cases h
    · cases h
    · cases h

theorem isBadValue_of_secretSections {k : Convention} {d : Disk} {folders : List String}
    {shapes : List SectionShape} {f : Failure}
    (h : k.secretSections d folders shapes = .error f) : f.isBadValue = true := by
  induction shapes with
  | nil => cases h
  | cons shape shapes ih =>
      have hlater : ∀ {g : List (String × Datum) → List (String × Datum)}, (do
          return g (← k.secretSections d folders shapes)) = .error f → f.isBadValue = true := by
        intro g h
        rcases or_of_bind_error h with hrest | ⟨rest, -, h⟩
        · exact ih hrest
        · cases h
      rw [Convention.secretSections] at h
      dsimp only at h
      split at h
      · exact hlater h
      · rcases or_of_bind_error h with hvalue | ⟨value, -, h⟩
        · exact isBadValue_of_secretSection hvalue
        · exact hlater h

/-- Whether a failure is about the type of a directive's value, or about a beginning that is no
text. -/
def IsDirectiveFault (f : Failure) : Prop :=
  (∃ detail, f = .wrongType detail) ∨ f = .unusableSetting .environment folderShape.name

theorem isDirectiveFault_badMark (d : Datum) : IsDirectiveFault (Convention.badMark d) := by
  unfold Convention.badMark
  split
  · exact .inl ⟨_, rfl⟩
  · exact .inl ⟨_, rfl⟩
  · exact .inl ⟨_, rfl⟩
  · exact .inl ⟨_, rfl⟩
  · exact .inl ⟨_, rfl⟩
  · exact .inr rfl

theorem isDirectiveFault_of_cutsOf {d : Datum} {f : Failure}
    (h : Convention.cutsOf d = .error f) : IsDirectiveFault f := by
  unfold Convention.cutsOf at h
  split at h
  · cases h
  · cases h
  · split at h
    · cases h
      exact .inl ⟨_, rfl⟩
    · cases h

theorem isDirectiveFault_of_pathsOf {d : Datum} {f : Failure}
    (h : Convention.pathsOf d = .error f) : IsDirectiveFault f := by
  unfold Convention.pathsOf at h
  dsimp only at h
  split at h
  case h_1 => cases h
  case h_2 => cases h
  case h_7 =>
      cases h
      exact .inl ⟨_, rfl⟩
  -- the others name several paths, each of which is a text
  all_goals
    split at h
    · cases h
    · cases h
      exact .inl ⟨_, rfl⟩

theorem isDirectiveFault_of_obey {k : Convention} {name : String} {value : Datum} {f : Failure}
    (h : k.obey name value = some (.error f)) : IsDirectiveFault f := by
  unfold Convention.obey at h
  split at h
  · cases h
  · cases h
  · cases h
    exact isDirectiveFault_badMark _
  · cases h
  · cases h
  · exact isDirectiveFault_of_cutsOf (error_of_map (Option.some.inj h))
  · cases h
  · cases h
  · cases h
  · exact isDirectiveFault_of_pathsOf (error_of_map (Option.some.inj h))
  · exact isDirectiveFault_of_pathsOf (error_of_map (Option.some.inj h))
  · cases h
    exact .inl ⟨_, rfl⟩
  · split at h
    · cases h
    · cases h

/-- What is given is refused for a directive only on account of the value of one. -/
theorem isDirectiveFault_of_ofGiven {k : Convention} {given : List (String × Datum)} {f : Failure}
    (h : k.ofGiven given = .error f) : IsDirectiveFault f := by
  induction given generalizing k with
  | nil => cases h
  | cons g given ih =>
      obtain ⟨name, value⟩ := g
      rw [Convention.ofGiven] at h
      split at h
      · exact ih h
      · next f' hobey =>
        cases h
        exact isDirectiveFault_of_obey hobey
      · exact ih (error_of_map h)

/-- A folder of secrets is refused if it is a file, or if its path is too long. -/
theorem secretFolders_error {d : Disk} {paths : List String} {f : Failure}
    (h : Convention.secretFolders d paths = .error f) :
    f.isBadValue = true ∨ ∃ path ∈ paths, f = .disk .nameTooLong (Path.normalText path) := by
  induction paths with
  | nil => cases h
  | cons path paths ih =>
      rw [Convention.secretFolders] at h
      rcases or_of_bind_error h with hlater | ⟨later, -, h⟩
      · rcases ih hlater with hbad | ⟨other, hother, rfl⟩
        · exact .inl hbad
        · exact .inr ⟨other, List.mem_cons_of_mem path hother, rfl⟩
      · rcases or_of_bind_error h with hlook | ⟨node?, -, h⟩
        · exact .inr ⟨path, List.mem_cons_self, Disk.look_error hlook⟩
        · rcases node? with _ | (_ | _)
          · cases h
          · cases h
            exact .inl rfl
          · cases h

/-- A file of variables is refused if it is no text, or if its path is too long. -/
theorem fileVariables_error {k : Convention} {env : Environment} {d : Disk} {paths : List String}
    {f : Failure} (h : k.fileVariables env d paths = .error f) :
    f.isBadValue = true ∨ ∃ path ∈ paths, f = .disk .nameTooLong (Path.normalText path) := by
  induction paths with
  | nil => cases h
  | cons path paths ih =>
      have hlater : ∀ given, (do
          return Sequence.Entries.putAll given (← k.fileVariables env d paths)) = .error f →
            f.isBadValue = true ∨
              ∃ other ∈ path :: paths, f = .disk .nameTooLong (Path.normalText other) := by
        intro given h
        rcases or_of_bind_error h with hrest | ⟨rest, -, h⟩
        · rcases ih hrest with hbad | ⟨other, hother, rfl⟩
          · exact .inl hbad
          · exact .inr ⟨other, List.mem_cons_of_mem path hother, rfl⟩
        · cases h
      rw [Convention.fileVariables] at h
      rcases or_of_bind_error h with hfile | ⟨isFile, hfile, h⟩
      · exact .inr ⟨path, List.mem_cons_self, Disk.look_error (error_of_map hfile)⟩
      · cases isFile with
        | false => exact hlater [] h
        | true =>
            rcases or_of_bind_error h with htext | ⟨text, -, h⟩
            · exact .inl (Disk.isBadValue_of_textOf hfile htext)
            · exact hlater _ h

/-- Whether a directive is refused on account of more than its value: that has a wrong type, or
names a path that is too long. -/
inductive Misdirected (given : List (String × Datum)) : Failure → Prop where
  | wrongType {detail : String} (h : Convention.usual.ofGiven given = .error (.wrongType detail)) :
      Misdirected given (.wrongType detail)
  | tooLong {k : Convention} {rest : List (String × Datum)} {path : String}
      (h : Convention.usual.ofGiven given = .ok (k, rest)) (hpath : path ∈ k.files ++ k.folders) :
      Misdirected given (.disk .nameTooLong (Path.normalText path))

/-- Without directives none is refused. -/
theorem not_misdirected {given : List (String × Datum)} (h : IsUndirected given) (f : Failure) :
    ¬ Misdirected given f := by
  have husual := ofGiven_of_undirected h
  intro hmis
  cases hmis with
  | wrongType hdirective =>
      rw [husual] at hdirective
      cases hdirective
  | tooLong hk hpath =>
      rw [husual] at hk
      cases hk
      cases hpath

/-- What is given is refused for a value, or for a directive. -/
theorem isBadValue_or_misdirected {env : Environment} {d : Disk} {given : List (String × Datum)}
    {f : Failure} (h : make env d given = .error f) :
    f.isBadValue = true ∨ Misdirected given f := by
  rcases or_of_bind_error h with hgiven | ⟨⟨k, rest⟩, hgiven, h⟩
  · rcases isDirectiveFault_of_ofGiven hgiven with ⟨detail, rfl⟩ | rfl
    · exact .inr (.wrongType hgiven)
    · exact .inl rfl
  have hpath : ∀ {paths : List String}, (∀ path ∈ paths, path ∈ k.files ++ k.folders) →
      (f.isBadValue = true ∨ ∃ path ∈ paths, f = .disk .nameTooLong (Path.normalText path)) →
      f.isBadValue = true ∨ Misdirected given f := by
    rintro paths hpaths (hbad | ⟨path, hpath, rfl⟩)
    · exact .inl hbad
    · exact .inr (.tooLong hgiven (hpaths path hpath))
  rcases or_of_bind_error h with hfiles | ⟨files, -, h⟩
  · exact hpath (fun _ => List.mem_append_left _) (fileVariables_error hfiles)
  rcases or_of_bind_error h with henv | ⟨environment, -, h⟩
  · obtain ⟨shape, -, rfl⟩ := sectionsOf_error henv
    exact .inl rfl
  rcases or_of_bind_error h with hfromFiles | ⟨fromFiles, -, h⟩
  · obtain ⟨shape, -, rfl⟩ := sectionsOf_error hfromFiles
    exact .inl rfl
  rcases or_of_bind_error h with hfolders | ⟨folders, -, h⟩
  · exact hpath (fun _ => List.mem_append_right _) (secretFolders_error hfolders)
  rcases or_of_bind_error h with hsecrets | ⟨secrets, -, h⟩
  · exact .inl (isBadValue_of_secretSections hsecrets)
  · obtain ⟨issues, rfl⟩ := ofSections_error h
    exact .inl rfl

/-! ## Causes -/

/-- The usual files can always be looked at. -/
theorem firstOf_usualNames (d : Disk) : ∃ chosen, firstOf d usualNames = .ok chosen := by
  have hfirst : ∀ paths, (∀ path ∈ paths, ∃ node?, d.look path = .ok node?) →
      ∃ chosen, firstOf d paths = .ok chosen := by
    intro paths hlook
    induction paths with
    | nil => exact ⟨none, rfl⟩
    | cons path paths ih =>
        obtain ⟨hpath, hpaths⟩ := List.forall_mem_cons.mp hlook
        obtain ⟨node?, hnode⟩ := hpath
        rw [firstOf, Disk.exists_of_look hnode]
        cases node? with
        | none => exact ih hpaths
        | some node => exact ⟨some path, rfl⟩
  have hshort : ∀ name ∈ usualNames, (Path.ofString name).parts = [name] ∧
      (Path.ofString name).toString.utf8ByteSize ≤ Disk.longestPath ∧
      name.utf8ByteSize ≤ Disk.longestName := by decide +kernel
  refine hfirst usualNames fun name hname => ?_
  obtain ⟨hpath, hlength, hsize⟩ := hshort name hname
  exact Disk.look_of_short hpath hlength hsize

/-- Whether the chosen file holds some bytes. -/
def IsChosen (d : Disk) (asked : Option String) (content : List UInt8) : Prop :=
  ∃ file, source d asked = .ok (some file) ∧ d.look file = .ok (some (.file content))

/-- Why a configuration is not loaded, by the failure that says so. -/
inductive Cause (env : Environment) (d : Disk) (asked : Option String) : Failure → Prop where
  /-- The file that is asked for is missing. -/
  | missing {path : String} (hasked : asked = some path) (hne : path ≠ "")
      (hgone : d.look path = .ok none) :
      Cause env d asked (.missingConfiguration (Path.normalText path))
  /-- The path that is asked for is too long. -/
  | tooLong {path : String} {f : Failure} (hasked : asked = some path) (hne : path ≠ "")
      (hlook : d.look path = .error f) : Cause env d asked f
  /-- The chosen file is a directory. -/
  | directory {file : String} (hsource : source d asked = .ok (some file))
      (hlook : d.look file = .ok (some .directory)) :
      Cause env d asked (.disk .isDirectory (Path.normalText file))
  /-- The chosen file holds no document. -/
  | document {content : List UInt8} {f : Failure} (hchosen : IsChosen d asked content)
      (hread : documentOf content = .error f) : Cause env d asked f
  /-- Its document gives no sections. -/
  | shape {content : List UInt8} {document : Datum} {f : Failure}
      (hchosen : IsChosen d asked content) (hread : documentOf content = .ok document)
      (hsections : sectionsOf document = .error f) : Cause env d asked f
  /-- What is given is refused. -/
  | values {given : List (String × Datum)} {f : Failure} (hgiven : givenBy d asked = .ok given)
      (hmake : make env d given = .error f) : Cause env d asked f

section Causes

variable {env : Environment} {d : Disk} {asked : Option String} {f : Failure}

theorem givenBy_of_chosen {content : List UInt8} (h : IsChosen d asked content) :
    givenBy d asked = documentOf content >>= sectionsOf := by
  obtain ⟨file, hsource, hlook⟩ := h
  rw [givenBy_of_source hsource, sectionsIn_of_look hlook]

/-- A chosen file is there. -/
theorem exists_of_source {file : String} (h : source d asked = .ok (some file)) :
    ∃ node, d.look file = .ok (some node) := by
  have hthere : d.exists_ file = .ok true := by
    by_cases hunasked : IsUnasked asked
    · rw [source_unasked hunasked] at h
      rcases firstOf_eq_ok h with ⟨hnone, -⟩ | ⟨_, path, _, -, hfile, hthere, -⟩
      · cases hnone
      · cases hfile
        exact hthere
    · rw [IsUnasked, not_or] at hunasked
      obtain ⟨path, rfl⟩ := Option.ne_none_iff_exists'.mp hunasked.1
      have hne : path ≠ "" := fun heq => hunasked.2 (congrArg some heq)
      rw [source_asked hne] at h
      split at h
      · cases h
      · next hthere =>
        cases h
        exact hthere
      · cases h
  obtain ⟨node?, hlook, hsome⟩ := exists_of_map_ok hthere
  obtain ⟨node, rfl⟩ := Option.isSome_iff_exists.mp hsome
  exact ⟨node, hlook⟩

theorem cause_of_source_error (h : source d asked = .error f) : Cause env d asked f := by
  by_cases hunasked : IsUnasked asked
  · obtain ⟨chosen, hchosen⟩ := firstOf_usualNames d
    rw [source_unasked hunasked, hchosen] at h
    cases h
  · rw [IsUnasked, not_or] at hunasked
    obtain ⟨path, rfl⟩ := Option.ne_none_iff_exists'.mp hunasked.1
    have hne : path ≠ "" := fun heq => hunasked.2 (congrArg some heq)
    rw [source_asked hne] at h
    split at h
    · next f' hexists =>
      cases h
      exact .tooLong rfl hne (error_of_map hexists)
    · cases h
    · next hgone =>
      cases h
      obtain ⟨node?, hlook, hnone⟩ := exists_of_map_ok hgone
      obtain rfl : node? = none := by simpa using hnone
      exact .missing rfl hne hlook

/-- A configuration is not loaded for one of these causes, and for no others. -/
theorem load_eq_error_iff : load env d asked = .error f ↔ Cause env d asked f := by
  rw [load_eq]
  constructor
  · intro h
    rcases or_of_bind_error h with hgiven | ⟨given, hgiven, hmake⟩
    · rcases or_of_bind_error hgiven with hsource | ⟨chosen, hsource, h⟩
      · exact cause_of_source_error hsource
      · cases chosen with
        | none => cases h
        | some file =>
            obtain ⟨node, hlook⟩ := exists_of_source hsource
            cases node with
            | directory =>
                rw [givenBy_of_source hsource, sectionsIn_of_directory hlook] at hgiven
                cases hgiven
                exact .directory hsource hlook
            | file content =>
                have hchosen : IsChosen d asked content := ⟨file, hsource, hlook⟩
                rw [givenBy_of_chosen hchosen] at hgiven
                rcases or_of_bind_error hgiven with hread | ⟨document, hread, hsections⟩
                · exact .document hchosen hread
                · exact .shape hchosen hread hsections
    · exact .values hgiven hmake
  · intro h
    cases h with
    | missing hasked hne hgone =>
        rw [hasked, givenBy, source_asked hne, Disk.exists_of_look hgone]
        rfl
    | tooLong hasked hne hlook =>
        rw [hasked, givenBy, source_asked hne, Disk.exists_, hlook]
        rfl
    | directory hsource hlook =>
        rw [givenBy_of_source hsource, sectionsIn_of_directory hlook]
        rfl
    | document hchosen hread =>
        rw [givenBy_of_chosen hchosen, hread]
        rfl
    | shape hchosen hread hsections =>
        rw [givenBy_of_chosen hchosen, hread]
        change (sectionsOf _ >>= _) = _
        rw [hsections]
        rfl
    | values hgiven hmake =>
        rw [hgiven]
        exact hmake

end Causes

end Configuration

end ScriptHost
