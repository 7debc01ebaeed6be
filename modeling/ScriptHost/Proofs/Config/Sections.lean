import ScriptHost.Config.Merge
import ScriptHost.Proofs.Config.Variables

/-!
# Given sections over those of the environment

Sections that are given, by a file or by a caller, are laid over those of the environment, and the
result is read section by section.  A field of a section is the given one if it is given, whatever
its value, and else that of the environment.

## Main results

* `make_of_sections` — without directives a configuration is read from the merged sections.
* `fieldOf_merge` — a field of a merged section.
* `ofSections_eq_ok_iff` — when sections are read, and as what.
* `ofSections_of_stray` — a name that is no section is reported.
-/

namespace ScriptHost

open Schema (Checked Fields)
open Sequence (Entries)

namespace Configuration

/-! ## Merging -/

/-- The given section of a name in lower case: of several that spell it in some case, the first. -/
def givenSection (given : List (String × Datum)) (name : String) : Option Datum :=
  (given.find? fun g => Text.lower g.1 = name).map Prod.snd

/-- Whether nothing given is a directive. -/
def IsUndirected (given : List (String × Datum)) : Prop :=
  ∀ g ∈ given, Convention.usual.obey g.1 g.2 = none

theorem ofGiven_of_undirected {given : List (String × Datum)} (h : IsUndirected given) :
    Convention.usual.ofGiven given = .ok (.usual, given) := by
  induction given with
  | nil => rfl
  | cons g given ih =>
      obtain ⟨name, value⟩ := g
      have hrest := ih fun g hg => h g (List.mem_cons_of_mem _ hg)
      rw [Convention.ofGiven, h _ List.mem_cons_self]
      dsimp only
      rw [hrest]
      rfl

/-- Without directives a configuration is read from what is given over the environment. -/
theorem make_of_sections {env : Environment} (d : Disk) {given environment : List (String × Datum)}
    (hgiven : IsUndirected given) (henv : env.sections .usual = .ok environment) :
    make env d given = ofSections ((merge (namedSections given) environment).map fun e =>
      (Datum.text e.1, e.2)) := by
  have hfiles : Environment.sectionsOf .variableFile .usual [] sectionShapes = .ok [] := rfl
  unfold make
  rw [ofGiven_of_undirected hgiven]
  simp only [bind, Except.bind]
  have hnoFiles : Convention.usual.fileVariables env d Convention.usual.files = .ok [] := rfl
  have hnoFolders : Convention.secretFolders d Convention.usual.folders = .ok [] := rfl
  rw [hnoFiles]
  dsimp only
  rw [henv]
  dsimp only
  rw [hfiles]
  dsimp only
  rw [hnoFolders]
  dsimp only
  rw [Convention.secretSections_nil]
  dsimp only
  rw [merge_nil, merge_nil]
  have hstray : ∀ sections,
      behindStray (Convention.usual.strayVariables []) sections = sections := by
    intro sections
    exact List.filter_eq_self.mpr fun s _ => rfl
  rw [hstray]

/-- If a configuration is made without directives, what the environment sets can be read. -/
theorem sections_of_make {env : Environment} {d : Disk} {given : List (String × Datum)}
    {c : Configuration} (hgiven : IsUndirected given) (h : make env d given = .ok c) :
    ∃ environment, env.sections .usual = .ok environment := by
  obtain ⟨⟨k, sections⟩, hk, h⟩ := exists_of_bind_ok h
  obtain ⟨inFiles, -, h⟩ := exists_of_bind_ok h
  obtain ⟨environment, henvironment, -⟩ := exists_of_bind_ok h
  cases (ofGiven_of_undirected hgiven).symm.trans hk
  exact ⟨environment, henvironment⟩

/-! ### Names of sections -/

theorem names_nodup : (sectionShapes.map SectionShape.name).Nodup := by decide

theorem lower_name {shape : SectionShape} (h : shape ∈ sectionShapes) :
    Text.lower shape.name = shape.name := by
  have hall : ∀ name ∈ sectionShapes.map SectionShape.name, Text.lower name = name := by
    decide +kernel
  exact hall shape.name (List.mem_map.mpr ⟨shape, h, rfl⟩)

section Environment

variable {env : Environment} {environment : List (String × Datum)}
  (henv : env.sections .usual = .ok environment)

include henv

/-- The environment sets sections only. -/
theorem names_environment :
    ∀ name ∈ Entries.names environment, name ∈ sectionShapes.map SectionShape.name := by
  rw [(Environment.sectionsOf_eq_ok henv).1]
  exact fun name hname => Entries.mem_names_chosen hname

/-- What the environment sets is what it sets in each of the sections. -/
theorem get?_environment {shape : SectionShape} (hshape : shape ∈ sectionShapes) :
    Environment.sectionValue .environment .usual env.lookedUp shape =
      .ok (Entries.get? environment shape.name) := by
  obtain ⟨hset, hall⟩ := Environment.sectionsOf_eq_ok henv
  rw [hset, Entries.get?_chosen _ names_nodup hshape]
  exact hall shape hshape

end Environment

/-- The given section counts under the name of the section. -/
theorem get?_namedSections (given : List (String × Datum)) {shape : SectionShape}
    (h : shape ∈ sectionShapes) :
    Entries.get? (namedSections given) shape.name = givenSection given shape.name := by
  -- the sections stand in front, and what stands behind them has other names
  have hknown := Entries.get?_chosen (fun s => givenSection given s.name) names_nodup h
  have hothers : Entries.get?
      (given.filter fun g => !sectionShapes.any fun s => s.name = Text.lower g.1) shape.name =
        none := by
    cases hget : Entries.get?
        (given.filter fun g => !sectionShapes.any fun s => s.name = Text.lower g.1) shape.name with
    | none => rfl
    | some d =>
        obtain ⟨g, hg, hname⟩ := List.mem_map.mp (Entries.mem_names_of_get? hget)
        have hunknown := (List.mem_filter.mp hg).2
        rw [hname, lower_name h, Bool.not_eq_true', List.any_eq_false] at hunknown
        exact absurd (decide_eq_true rfl) (hunknown shape h)
  have hsplit : namedSections given =
      Entries.chosen SectionShape.name (fun s => givenSection given s.name) sectionShapes ++
        given.filter fun g => !sectionShapes.any fun s => s.name = Text.lower g.1 := by
    unfold namedSections givenSection Entries.chosen
    simp only [Option.map_map]
    rfl
  rw [hsplit, Entries.get?_append, hknown, hothers, Option.or_none]

/-! ### Merged sections -/

/-- A given value over what others have under its name. -/
def laidOverIn (others : List (String × Datum)) (name : String) (mine : Datum) : Datum :=
  (Entries.get? others name).elim mine (laidOver mine)

theorem get?_laidOverIn (given others : List (String × Datum)) (name : String) :
    Entries.get? (given.map fun g => (g.1, laidOverIn others g.1 g.2)) name =
      (Entries.get? given name).map (laidOverIn others name) := by
  induction given with
  | nil => rfl
  | cons g given ih =>
      obtain ⟨n, v⟩ := g
      rw [List.map_cons, Entries.get?, Entries.get?]
      split
      · next heq =>
        subst heq
        rfl
      · exact ih

theorem get?_filter_unnamed (given others : List (String × Datum)) {name : String}
    (h : Entries.get? given name = none) :
    Entries.get? (others.filter fun e => !given.any fun g => g.1 = e.1) name =
      Entries.get? others name := by
  have hnot : (given.any fun g => g.1 = name) = false := by
    rw [List.any_eq_false]
    intro g hg hname
    rw [Entries.get?_eq_find?, Option.map_eq_none_iff, List.find?_eq_none] at h
    exact h g hg hname
  induction others with
  | nil => rfl
  | cons e others ih =>
      obtain ⟨n, v⟩ := e
      by_cases heq : n = name
      · subst heq
        rw [List.filter_cons_of_pos (by rw [hnot]; rfl), Entries.get?, Entries.get?, if_pos rfl,
          if_pos rfl]
      · rw [List.filter_cons]
        split
        · rw [Entries.get?, Entries.get?, if_neg heq, if_neg heq]
          exact ih
        · rw [Entries.get?, if_neg heq]
          exact ih

theorem merge_eq (given others : List (String × Datum)) :
    merge given others = (given.map fun g => (g.1, laidOverIn others g.1 g.2)) ++
      others.filter fun e => !given.any fun g => g.1 = e.1 := by
  unfold merge
  dsimp only
  congr 1
  apply List.map_congr_left
  intro g _
  unfold laidOverIn
  cases Entries.get? others g.1 with
  | none => rfl
  | some theirs => rfl

theorem get?_merge (given others : List (String × Datum)) (name : String) :
    Entries.get? (merge given others) name =
      match Entries.get? given name with
      | some mine => some (laidOverIn others name mine)
      | none => Entries.get? others name := by
  rw [merge_eq, Entries.get?_append, get?_laidOverIn]
  cases h : Entries.get? given name with
  | some mine => rfl
  | none =>
      rw [Option.map_none, Option.none_or]
      exact get?_filter_unnamed given others h

/-- A field of a merged section is the given one, or else that of the other section. -/
theorem fieldOf_merge {given others : List (String × Datum)} {name : String}
    (hgiven : Datum.IsSection (Entries.get? given name))
    (hothers : Datum.IsSection (Entries.get? others name)) :
    Datum.IsSection (Entries.get? (merge given others) name) ∧
      ∀ field, Datum.fieldOf field (Entries.get? (merge given others) name) =
        (Datum.fieldOf field (Entries.get? given name)).or
          (Datum.fieldOf field (Entries.get? others name)) := by
  rw [get?_merge]
  rcases hgiven with hgiven | ⟨mine, hgiven⟩
  · rw [hgiven]
    exact ⟨hothers, fun field => rfl⟩
  · rw [hgiven]
    dsimp only
    rcases hothers with hothers | ⟨theirs, hothers⟩
    · have hover : laidOverIn others name (.dict mine) = .dict mine := by
        rw [laidOverIn, hothers, Option.elim_none]
      rw [hover, hothers]
      exact ⟨.inr ⟨mine, rfl⟩, fun field => Option.or_none.symm⟩
    · have hover : laidOverIn others name (.dict mine) = .dict (mine ++ theirs) := by
        rw [laidOverIn, hothers, Option.elim_some, laidOver]
      rw [hover, hothers]
      exact ⟨.inr ⟨mine ++ theirs, rfl⟩, fun field => entry?_over field mine theirs⟩

/-! ## Reading -/

/-- The fields of a section that may be missing. -/
def fieldsOf : Option Datum → Fields
  | some (.dict fields) => fields
  | _ => []

theorem entry?_fieldsOf (name : String) {value : Option Datum} (h : Datum.IsSection value) :
    Datum.entry? name (fieldsOf value) = Datum.fieldOf name value := by
  rcases h with rfl | ⟨fields, rfl⟩
  · rfl
  · rfl

/-- A section that is missing or a mapping is read from its fields. -/
theorem sectionOf_eq_ok_iff {α : Type} {shape : SectionShape} {read : Fields → Checked α}
    {sections : Fields} (h : Datum.IsSection (Datum.entry? shape.name sections)) {a : α} :
    sectionOf shape read sections = .ok a ↔
      read (fieldsOf (Datum.entry? shape.name sections)) = .ok a := by
  unfold sectionOf
  rcases h with hnone | ⟨fields, hfields⟩
  · rw [hnone]
    exact Iff.rfl
  · rw [hfields]
    dsimp only
    rw [Schema.section_, fieldsOf, Checked.within]
    cases read fields with
    | ok b => exact Iff.rfl
    | error issues => exact ⟨nofun, nofun⟩

theorem unknownNames_eq_ok_iff (named : List (String × Datum)) :
    unknownNames named = .ok () ↔
      ∀ e ∈ named, ∃ shape ∈ sectionShapes, shape.name = e.1 := by
  unfold unknownNames
  dsimp only
  split
  · next hempty =>
    rw [List.isEmpty_iff, List.filter_eq_nil_iff] at hempty
    refine ⟨fun _ e he => ?_, fun _ => rfl⟩
    simpa using hempty e he
  · next hsome =>
    refine ⟨nofun, fun hall => absurd ?_ hsome⟩
    rw [List.isEmpty_iff, List.filter_eq_nil_iff]
    intro e he
    simpa using hall e he

/-- Sections are read if each of them is, and if there are no others. -/
theorem ofSections_eq_ok_iff {sections : Fields} {c : Configuration} :
    ofSections sections = .ok c ↔
      sectionOf folderShape FolderSettings.ofFields sections = .ok c.folders ∧
      sectionOf libraryShape LibrarySettings.ofFields sections = .ok c.library ∧
      sectionOf executionShape ExecutionSettings.ofFields sections = .ok c.execution ∧
      sectionOf loggingShape LoggingSettings.ofFields sections = .ok c.logging ∧
      unknownNames (sections.filterMap fun e => e.1.text?.map fun name => (name, e.2)) =
        .ok () := by
  have hmap : ∀ checked : Checked Configuration,
      checked.mapError (Failure.invalid model) = .ok c ↔ checked = .ok c := by
    intro checked
    cases checked with
    | ok b => simp [Except.mapError]
    | error issues => simp [Except.mapError]
  unfold ofSections
  dsimp only
  rw [hmap]
  constructor
  · intro h
    obtain ⟨_, _, h₄, hnames, hc⟩ := Checked.field_eq_ok_iff.mp h
    obtain ⟨_, logging, h₃, hlogging, hmake₄⟩ := Checked.field_eq_ok_iff.mp h₄
    obtain ⟨_, execution, h₂, hexecution, hmake₃⟩ := Checked.field_eq_ok_iff.mp h₃
    obtain ⟨_, library, h₁, hlibrary, hmake₂⟩ := Checked.field_eq_ok_iff.mp h₂
    obtain ⟨_, folders, h₀, hfolders, hmake₁⟩ := Checked.field_eq_ok_iff.mp h₁
    cases h₀
    subst hmake₁ hmake₂ hmake₃ hmake₄ hc
    exact ⟨hfolders, hlibrary, hexecution, hlogging, hnames⟩
  · rintro ⟨hfolders, hlibrary, hexecution, hlogging, hnames⟩
    rw [hfolders, hlibrary, hexecution, hlogging, hnames]
    rfl

/-! ## Names that are no sections -/

/-- Whether a given name is that of a section in some case. -/
def IsKnown (name : String) : Prop := ∃ shape ∈ sectionShapes, shape.name = Text.lower name

theorem isKnown_of_name {shape : SectionShape} (h : shape ∈ sectionShapes) :
    IsKnown shape.name := ⟨shape, h, (lower_name h).symm⟩

/-- A given name that is no section is among those that are read. -/
theorem mem_merge_of_unknown {given environment : List (String × Datum)}
    (henv : ∀ name ∈ Entries.names environment, name ∈ sectionShapes.map SectionShape.name)
    {g : String × Datum} (hg : g ∈ given) (hunknown : ¬ IsKnown g.1) :
    g ∈ merge (namedSections given) environment := by
  have hother : g ∈ namedSections given := by
    apply List.mem_append_right
    rw [List.mem_filter, Bool.not_eq_true', List.any_eq_false]
    refine ⟨hg, fun shape hshape hname => hunknown ⟨shape, hshape, of_decide_eq_true hname⟩⟩
  have hnone : Entries.get? environment g.1 = none := by
    cases hget : Entries.get? environment g.1 with
    | none => rfl
    | some d =>
        obtain ⟨shape, hshape, hname⟩ := List.mem_map.mp (henv _ (Entries.mem_names_of_get? hget))
        exact absurd (hname ▸ isKnown_of_name hshape) hunknown
  rw [merge_eq]
  apply List.mem_append_left
  refine List.mem_map.mpr ⟨g, hother, ?_⟩
  rw [laidOverIn, hnone, Option.elim_none]

/-- What is read is a section, or a given name that is none. -/
theorem known_of_mem_merge {given environment : List (String × Datum)}
    (henv : ∀ name ∈ Entries.names environment, name ∈ sectionShapes.map SectionShape.name)
    (hgiven : ∀ g ∈ given, IsKnown g.1) {e : String × Datum}
    (he : e ∈ merge (namedSections given) environment) :
    ∃ shape ∈ sectionShapes, shape.name = e.1 := by
  rw [merge_eq] at he
  rcases List.mem_append.mp he with hmine | htheirs
  · obtain ⟨g, hg, rfl⟩ := List.mem_map.mp hmine
    rcases List.mem_append.mp hg with hknown | hother
    · obtain ⟨shape, hshape, hmap⟩ := List.mem_filterMap.mp hknown
      obtain ⟨_, -, rfl⟩ := Option.map_eq_some_iff.mp hmap
      exact ⟨shape, hshape, rfl⟩
    · obtain ⟨hin, hunknown⟩ := List.mem_filter.mp hother
      obtain ⟨shape, hshape, hname⟩ := hgiven g hin
      rw [Bool.not_eq_true', List.any_eq_false] at hunknown
      exact absurd (decide_eq_true hname) (hunknown shape hshape)
  · have hin := (List.mem_filter.mp htheirs).1
    exact List.mem_map.mp (henv e.1 (List.mem_map.mpr ⟨e, hin, rfl⟩))

theorem filterMap_texts (sections : List (String × Datum)) :
    (sections.map fun e => (Datum.text e.1, e.2)).filterMap
      (fun e => e.1.text?.map fun name => (name, e.2)) = sections := by
  rw [List.filterMap_map]
  exact List.filterMap_some

/-- The issues of the last field of a model are among those of the model. -/
theorem field_of_error {α β : Type} (model : Checked (α → β)) (more : List Schema.Issue) :
    ∃ issues, model.field (.error more) = .error issues ∧ ∀ issue ∈ more, issue ∈ issues := by
  cases model with
  | ok make => exact ⟨more, rfl, fun _ h => h⟩
  | error issues => exact ⟨issues ++ more, rfl, fun _ h => List.mem_append_right _ h⟩

/-- A name that is no section is reported. -/
theorem ofSections_of_stray {sections : List (String × Datum)} {e : String × Datum}
    (he : e ∈ sections) (hunknown : ∀ shape ∈ sectionShapes, shape.name ≠ e.1)
    (hreadable : Text.isBroken e.1 = false) :
    ∃ issues, ofSections (sections.map fun e => (Datum.text e.1, e.2)) =
        .error (.invalid model issues) ∧
      ⟨[.field e.1], .unknownField, Checked.givenOf e.2⟩ ∈ issues := by
  have hnames : ∃ more, unknownNames sections = .error more ∧
      ⟨[.field e.1], .unknownField, Checked.givenOf e.2⟩ ∈ more := by
    have hstray : e ∈ sections.filter fun e =>
        !sectionShapes.any fun shape => shape.name == e.1 := by
      rw [List.mem_filter, Bool.not_eq_true', List.any_eq_false]
      exact ⟨he, fun shape hshape hname => hunknown shape hshape (eq_of_beq hname)⟩
    unfold unknownNames
    dsimp only
    split
    · next hempty =>
      rw [List.isEmpty_iff.mp hempty] at hstray
      exact absurd hstray List.not_mem_nil
    · refine ⟨_, rfl, List.mem_map.mpr ⟨e, hstray, ?_⟩⟩
      rw [hreadable]
      rfl
  obtain ⟨more, hmore, hin⟩ := hnames
  unfold ofSections
  dsimp only
  rw [filterMap_texts, hmore]
  obtain ⟨issues, hissues, hkept⟩ := field_of_error _ more
  exact ⟨issues, by rw [hissues]; rfl, hkept _ hin⟩

end Configuration

end ScriptHost
