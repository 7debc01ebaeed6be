import Mathlib.Data.List.TakeWhile
import ScriptHost.Plugin.Catalogue

/-!
# What a dotted path leads to

A dotted path names a member of a module, around its first colon or, without a colon, around its
last point.  The modules on the way are looked up from the outermost one on, and all but the last
have to be packages.  The code of each is run on the way.  So a path leads to a target, or it fails:
it names nothing, the way breaks off at a module, or the last module has no such member.  That is a
path that cannot be imported, for one cause, unless the code of a module raised something else.

A module that is named by where it stands, with a point in front, is a case of its own.  There is
nothing that it could be relative to, and the failure is not that of an import.

## Main results

* `names_iff` — how a path is split.
* `resolve_eq_ok_iff` — a path leads to its target.
* `resolve_eq_error_iff` — a path that leads nowhere fails on the way or is relative.
* `CodeRaises.module` — what is no failure of an import is raised by the code of a module.
-/

namespace ScriptHost.Plugin

/-! ## Splitting a path -/

/-- A path names a member of a module: around its first colon or, if it has none, around its last
point.  Neither of the two is empty. -/
def Names (path owner member : String) : Prop :=
  owner ≠ "" ∧ member ≠ "" ∧
    ((path = owner ++ ":" ++ member ∧ ':' ∉ owner.toList) ∨
      (path = owner ++ "." ++ member ∧ ':' ∉ path.toList ∧ '.' ∉ member.toList))

/-- The pieces of a text between its points make up the text. -/
theorem dotted_pieces (cs : List Char) : dotted (Text.pieces (fun c => c == '.') cs) = cs := by
  induction cs with
  | nil => rfl
  | cons c cs ih =>
      cases hpieces : Text.pieces (fun c => c == '.') cs with
      | nil => exact absurd hpieces (Text.pieces_ne_nil cs)
      | cons piece rest =>
          rw [hpieces] at ih
          rw [Text.pieces, hpieces]
          split
          · next hc =>
            rw [dotted, ih, beq_iff_eq.mp hc]
            · rfl
            · exact List.cons_ne_nil piece rest
          · cases rest with
            | nil =>
                change piece = cs at ih
                rw [dotted, ih]
            | cons r rs =>
                rw [dotted] at ih ⊢
                rw [List.cons_append, ih]
                · exact List.cons_ne_nil r rs
                · exact List.cons_ne_nil r rs

/-- A path with a colon is split around the first one. -/
theorem splitPath_colon {owner : String} (h : ':' ∉ owner.toList) (member : String) :
    splitPath (owner ++ ":" ++ member) = (owner, member) := by
  have hother : ∀ c ∈ owner.toList, (c != ':') = true := by
    intro c hc
    rw [bne_iff_ne]
    rintro rfl
    exact h hc
  have hchars : (owner ++ ":" ++ member).toList = owner.toList ++ ':' :: member.toList := by simp
  have hcolon : (owner.toList ++ ':' :: member.toList).contains ':' = true := by simp
  simp only [splitPath, hchars, hcolon, if_true]
  rw [List.takeWhile_append_of_pos hother, List.dropWhile_append_of_pos hother]
  simp

/-- A path without a colon is split around its last point. -/
theorem splitPath_point {owner member : String} (hcolon : ':' ∉ (owner ++ "." ++ member).toList)
    (hpoint : '.' ∉ member.toList) : splitPath (owner ++ "." ++ member) = (owner, member) := by
  have hchars : (owner ++ "." ++ member).toList = owner.toList ++ '.' :: member.toList := by simp
  rw [hchars] at hcolon
  have hnone : (owner.toList ++ '.' :: member.toList).contains ':' = false := by
    rw [List.contains_eq_mem]
    exact decide_eq_false hcolon
  have hpieces : Text.pieces (fun c => c == '.') (owner.toList ++ '.' :: member.toList) =
      Text.pieces (fun c => c == '.') owner.toList ++ [member.toList] := by
    rw [Text.pieces_append_cut owner.toList, Text.pieces_of_not_mem hpoint]
    rfl
  simp only [splitPath, hchars, hnone, hpieces]
  simp [dotted_pieces]

/-- A path with neither names no module. -/
theorem splitPath_plain {path : String} (hcolon : ':' ∉ path.toList) (hpoint : '.' ∉ path.toList) :
    splitPath path = ("", path) := by
  have hnone : path.toList.contains ':' = false := by
    rw [List.contains_eq_mem]
    exact decide_eq_false hcolon
  simp only [splitPath, hnone, Text.pieces_of_not_mem hpoint]
  simp [dotted]

theorem exists_first {path : String} (h : ':' ∈ path.toList) :
    ∃ before after, path = before ++ ":" ++ after ∧ ':' ∉ before.toList := by
  obtain ⟨before, after, hcut, hnone⟩ := List.eq_append_cons_of_mem h
  refine ⟨String.ofList before, String.ofList after, ?_, by rwa [String.toList_ofList]⟩
  rw [← String.toList_inj, hcut]
  simp

theorem exists_last {path : String} (h : '.' ∈ path.toList) :
    ∃ before after, path = before ++ "." ++ after ∧ '.' ∉ after.toList := by
  obtain ⟨after, before, hcut, hnone⟩ := List.eq_append_cons_of_mem (List.mem_reverse.mpr h)
  refine ⟨String.ofList before.reverse, String.ofList after.reverse, ?_, ?_⟩
  · rw [← String.toList_inj, ← List.reverse_reverse path.toList, hcut]
    simp
  · rwa [String.toList_ofList, List.mem_reverse]

/-- What a path names is what it is split into, unless one of the two parts is empty. -/
theorem names_iff {path owner member : String} :
    Names path owner member ↔ splitPath path = (owner, member) ∧ owner ≠ "" ∧ member ≠ "" := by
  constructor
  · rintro ⟨howner, hmember, ⟨rfl, hcolon⟩ | ⟨rfl, hcolon, hpoint⟩⟩
    · exact ⟨splitPath_colon hcolon member, howner, hmember⟩
    · exact ⟨splitPath_point hcolon hpoint, howner, hmember⟩
  · rintro ⟨hsplit, howner, hmember⟩
    refine ⟨howner, hmember, ?_⟩
    by_cases hcolon : ':' ∈ path.toList
    · obtain ⟨before, after, rfl, hbefore⟩ := exists_first hcolon
      rw [splitPath_colon hbefore after] at hsplit
      obtain ⟨rfl, rfl⟩ := Prod.mk.inj hsplit
      exact .inl ⟨rfl, hbefore⟩
    · by_cases hpoint : '.' ∈ path.toList
      · obtain ⟨before, after, rfl, hafter⟩ := exists_last hpoint
        rw [splitPath_point hcolon hafter] at hsplit
        obtain ⟨rfl, rfl⟩ := Prod.mk.inj hsplit
        exact .inr ⟨rfl, hcolon, hafter⟩
      · rw [splitPath_plain hcolon hpoint] at hsplit
        exact absurd (Prod.mk.inj hsplit).1.symm howner

/-! ## The way to a module -/

section Way

variable {c : Catalogue}

/-- A module is there, and its code raises nothing. -/
def Runs (c : Catalogue) (m : ModuleEntry) : Prop := c.module? m.name = some m ∧ m.fault = none

/-- Modules that can be passed through: packages that are there and whose code raises nothing. -/
def Way (c : Catalogue) (ps : List ModuleEntry) : Prop := ∀ p ∈ ps, p.isPackage = true ∧ Runs c p

/-- A way of names leads to a module. -/
def Reaches (c : Catalogue) (names : List String) (m : ModuleEntry) : Prop :=
  ∃ ps, names = ps.map ModuleEntry.name ++ [m.name] ∧ Way c ps ∧ Runs c m

/-- A way of names breaks off: a module is missing, or comes behind one that is no package, or its
code raises something. -/
inductive Breaks (c : Catalogue) (names : List String) : Failure → Prop
  | missing (ps : List ModuleEntry) {name : String} {inner : List String} :
    names = ps.map ModuleEntry.name ++ name :: inner → Way c ps → c.module? name = none →
    Breaks c names (.imports (.noModule name none))
  | behind (ps : List ModuleEntry) {m : ModuleEntry} {name : String} {inner : List String} :
    names = ps.map ModuleEntry.name ++ m.name :: name :: inner → Way c ps → Runs c m →
    m.isPackage = false → Breaks c names (.imports (.noModule name (some m.name)))
  | raised (ps : List ModuleEntry) {m : ModuleEntry} {inner : List String} {f : Failure} :
    names = ps.map ModuleEntry.name ++ m.name :: inner → Way c ps →
    c.module? m.name = some m → m.fault = some f → Breaks c names f

/-- Modules are looked for inside a package, or nowhere yet. -/
def IsOpen (outer : Option ModuleEntry) : Prop := ∀ m, outer = some m → m.isPackage = true

theorem isOpen_none : IsOpen none := nofun

theorem findModule_of_runs {outer : Option ModuleEntry} (h : IsOpen outer) {m : ModuleEntry}
    (hm : Runs c m) (names : List String) :
    findModule c outer (m.name :: names) = findModule c (some m) names := by
  obtain ⟨hthere, hquiet⟩ := hm
  cases outer with
  | none => simp [findModule, hthere, hquiet]
  | some o => simp [findModule, hthere, hquiet, h o rfl]

theorem findModule_of_fault {outer : Option ModuleEntry} (h : IsOpen outer) {m : ModuleEntry}
    {f : Failure} (hm : c.module? m.name = some m) (hfault : m.fault = some f)
    (names : List String) : findModule c outer (m.name :: names) = .error f := by
  cases outer with
  | none => simp [findModule, hm, hfault]
  | some o => simp [findModule, hm, hfault, h o rfl]

theorem findModule_of_none {outer : Option ModuleEntry} (h : IsOpen outer) {name : String}
    (hm : c.module? name = none) (names : List String) :
    findModule c outer (name :: names) = .error (.imports (.noModule name none)) := by
  cases outer with
  | none => simp [findModule, hm]
  | some o => simp [findModule, hm, h o rfl]

theorem findModule_of_plain {m : ModuleEntry} (h : m.isPackage = false) (name : String)
    (names : List String) :
    findModule c (some m) (name :: names) =
      .error (.imports (.noModule name (some m.name))) := by
  simp [findModule, h]

/-- Packages that are there are passed through. -/
theorem findModule_way {outer : Option ModuleEntry} (h : IsOpen outer) {ps : List ModuleEntry}
    (hway : Way c ps) (names : List String) :
    ∃ inner, IsOpen inner ∧
      findModule c outer (ps.map ModuleEntry.name ++ names) = findModule c inner names := by
  induction ps generalizing outer with
  | nil => exact ⟨outer, h, rfl⟩
  | cons p ps ih =>
      obtain ⟨hpackage, hp⟩ := hway p List.mem_cons_self
      have hopen : IsOpen (some p) := by
        intro m hm
        cases hm
        exact hpackage
      obtain ⟨inner, hinner, heq⟩ := ih hopen fun q hq => hway q (List.mem_cons_of_mem p hq)
      refine ⟨inner, hinner, ?_⟩
      rw [List.map_cons, List.cons_append, findModule_of_runs h hp, heq]

theorem findModule_of_reaches {names : List String} {m : ModuleEntry} (h : Reaches c names m) :
    findModule c none names = .ok (some m) := by
  obtain ⟨ps, rfl, hway, hm⟩ := h
  obtain ⟨inner, hinner, heq⟩ := findModule_way isOpen_none hway [m.name]
  rw [heq, findModule_of_runs hinner hm]
  rfl

theorem findModule_of_breaks {names : List String} {f : Failure} (h : Breaks c names f) :
    findModule c none names = .error f := by
  cases h with
  | @missing ps name inner hnames hway hnone =>
      obtain ⟨last, hlast, heq⟩ := findModule_way isOpen_none hway (name :: inner)
      rw [hnames, heq, findModule_of_none hlast hnone]
  | @behind ps m name inner hnames hway hm hplain =>
      obtain ⟨last, hlast, heq⟩ := findModule_way isOpen_none hway (m.name :: name :: inner)
      rw [hnames, heq, findModule_of_runs hlast hm, findModule_of_plain hplain]
  | @raised ps m inner f hnames hway hm hfault =>
      obtain ⟨last, hlast, heq⟩ := findModule_way isOpen_none hway (m.name :: inner)
      rw [hnames, heq, findModule_of_fault hlast hm hfault]

theorem Reaches.cons {p m : ModuleEntry} (hp : p.isPackage = true ∧ Runs c p)
    {names : List String} (h : Reaches c names m) : Reaches c (p.name :: names) m := by
  obtain ⟨ps, rfl, hway, hm⟩ := h
  exact ⟨p :: ps, rfl, List.forall_mem_cons.mpr ⟨hp, hway⟩, hm⟩

theorem Breaks.cons {p : ModuleEntry} (hp : p.isPackage = true ∧ Runs c p)
    {names : List String} {f : Failure} (h : Breaks c names f) : Breaks c (p.name :: names) f := by
  cases h with
  | missing ps hnames hway hnone =>
      rw [hnames]
      exact .missing (p :: ps) rfl (List.forall_mem_cons.mpr ⟨hp, hway⟩) hnone
  | behind ps hnames hway hm hplain =>
      rw [hnames]
      exact .behind (p :: ps) rfl (List.forall_mem_cons.mpr ⟨hp, hway⟩) hm hplain
  | raised ps hnames hway hm hfault =>
      rw [hnames]
      exact .raised (p :: ps) rfl (List.forall_mem_cons.mpr ⟨hp, hway⟩) hm hfault

/-- The module of a name has it. -/
theorem Catalogue.name_of_module? {name : String} {m : ModuleEntry}
    (h : c.module? name = some m) : m.name = name := by
  simpa using List.find?_some h

/-- A way that has a beginning leads to a module or breaks off. -/
theorem reaches_or_breaks {names : List String} (h : names ≠ []) :
    (∃ m, Reaches c names m) ∨ ∃ f, Breaks c names f := by
  induction names with
  | nil => exact absurd rfl h
  | cons name names ih =>
      cases hm : c.module? name with
      | none => exact .inr ⟨_, .missing [] rfl nofun hm⟩
      | some m =>
          obtain rfl := Catalogue.name_of_module? hm
          cases hfault : m.fault with
          | some f => exact .inr ⟨f, .raised [] rfl nofun hm hfault⟩
          | none =>
              cases names with
              | nil => exact .inl ⟨m, [], rfl, nofun, hm, hfault⟩
              | cons inner rest =>
                  cases hpackage : m.isPackage with
                  | false => exact .inr ⟨_, .behind [] rfl nofun ⟨hm, hfault⟩ hpackage⟩
                  | true =>
                      rcases ih (List.cons_ne_nil inner rest) with ⟨n, hreaches⟩ | ⟨f, hbreaks⟩
                      · exact .inl ⟨n, hreaches.cons ⟨hpackage, hm, hfault⟩⟩
                      · exact .inr ⟨f, hbreaks.cons ⟨hpackage, hm, hfault⟩⟩

end Way

/-! ## The end of a path -/

section Resolve

variable {c : Catalogue} {path : String}

/-- Whether a module is named by where it stands. -/
def IsRelative (owner : String) : Prop := owner.toList.head? = some '.'

/-- A path leads to a target. -/
inductive Leads (c : Catalogue) (path : String) : Target → Prop
  | intro {owner member : String} {m : ModuleEntry} {target : Target} :
    Names path owner member → ¬ IsRelative owner → Reaches c (moduleChain owner) m →
    m.member? member = .ok (some target) → Leads c path target

/-- A path that is not relative fails to lead anywhere. -/
inductive Fails (c : Catalogue) (path : String) : Failure → Prop
  | malformed : (∀ owner member, ¬ Names path owner member) →
    Fails c path (.imports (.malformed path))
  | broken {owner member : String} {f : Failure} :
    Names path owner member → ¬ IsRelative owner → Breaks c (moduleChain owner) f →
    Fails c path f
  | unanswered {owner member : String} {m : ModuleEntry} {f : Failure} :
    Names path owner member → ¬ IsRelative owner → Reaches c (moduleChain owner) m →
    m.member? member = .error f → Fails c path f
  | noMember {owner member : String} {m : ModuleEntry} :
    Names path owner member → ¬ IsRelative owner → Reaches c (moduleChain owner) m →
    m.member? member = .ok none → Fails c path (.imports (.noMember owner member))

/-- A path cannot be imported, for a cause. -/
def Unimportable (c : Catalogue) (path : String) (cause : ImportFault) : Prop :=
  Fails c path (.imports cause)

/-- The code of a module on the way raises something that is not the failure of an import. -/
def CodeRaises (c : Catalogue) (path : String) (f : Failure) : Prop :=
  Fails c path f ∧ ∀ cause, f ≠ .imports cause

/-- What is raised on the way comes from the code of a module: of one that cannot be passed through,
or of the last one, when it is asked for the member. -/
theorem CodeRaises.module {f : Failure} (h : CodeRaises c path f) :
    ∃ owner member m, Names path owner member ∧ c.module? m.name = some m ∧
      (m.fault = some f ∨ m.answer member = .error f) := by
  obtain ⟨hfails, hother⟩ := h
  cases hfails with
  | malformed => exact absurd rfl (hother _)
  | @broken owner member f hnames habsolute hbreaks =>
      cases hbreaks with
      | missing => exact absurd rfl (hother _)
      | behind => exact absurd rfl (hother _)
      | @raised ps m inner f hchain hway hm hfault =>
          exact ⟨owner, member, m, hnames, hm, .inl hfault⟩
  | @unanswered owner member m f hnames habsolute hreaches hmember =>
      obtain ⟨ps, -, -, hm, -⟩ := hreaches
      refine ⟨owner, member, m, hnames, hm, .inr ?_⟩
      unfold ModuleEntry.member? at hmember
      split at hmember
      · cases hmember
      · exact hmember
  | noMember => exact absurd rfl (hother _)

/-- What an import answers that has nothing to be relative to. -/
def relativeFault (owner : String) : Failure :=
  .wrongType ("the 'package' argument is required to perform a relative import for " ++
    Text.literal owner)

/-- A path names a module by where it stands, and fails so. -/
inductive Relative (path : String) : Failure → Prop
  | intro {owner member : String} : Names path owner member → IsRelative owner →
    Relative path (relativeFault owner)

/-- Whether a path names a module by where it stands. -/
def IsRelativePath (path : String) : Prop :=
  ∃ owner member, Names path owner member ∧ IsRelative owner

theorem Relative.isRelativePath {f : Failure} (h : Relative path f) : IsRelativePath path := by
  obtain ⟨hnames, hrelative⟩ := h
  exact ⟨_, _, hnames, hrelative⟩

/-- A path that names something is resolved by what it names. -/
theorem resolve_of_names {owner member : String} (h : Names path owner member) :
    resolve c path = match importModule c owner with
      | .error f => .error f
      | .ok found =>
        match (found.map fun m => m.member? member).getD (.ok none) with
        | .error f => .error f
        | .ok (some target) => .ok target
        | .ok none => .error (.imports (.noMember owner member)) := by
  obtain ⟨hsplit, howner, hmember⟩ := names_iff.mp h
  have hparts : ¬ (owner.isEmpty || member.isEmpty) = true := by
    simp [String.isEmpty_iff, howner, hmember]
  simp only [resolve, hsplit]
  exact if_neg hparts

theorem resolve_of_no_names (h : ∀ owner member, ¬ Names path owner member) :
    resolve c path = .error (.imports (.malformed path)) := by
  refine resolve_malformed c ?_
  rw [String.isEmpty_iff, String.isEmpty_iff]
  by_contra hparts
  rw [not_or] at hparts
  exact h _ _ (names_iff.mpr ⟨rfl, hparts.1, hparts.2⟩)

theorem importModule_of_relative {owner : String} (h : IsRelative owner) :
    importModule c owner = .error (relativeFault owner) := if_pos h

theorem importModule_of_absolute {owner : String} (h : ¬ IsRelative owner) :
    importModule c owner = findModule c none (moduleChain owner) := if_neg h

theorem resolve_of_leads {target : Target} (h : Leads c path target) :
    resolve c path = .ok target := by
  obtain ⟨hnames, habsolute, hreaches, hmember⟩ := h
  rw [resolve_of_names hnames, importModule_of_absolute habsolute, findModule_of_reaches hreaches]
  simp [hmember]

theorem resolve_of_fails {f : Failure} (h : Fails c path f) : resolve c path = .error f := by
  cases h with
  | malformed hnone => exact resolve_of_no_names hnone
  | broken hnames habsolute hbreaks =>
      rw [resolve_of_names hnames, importModule_of_absolute habsolute, findModule_of_breaks hbreaks]
  | unanswered hnames habsolute hreaches hmember =>
      rw [resolve_of_names hnames, importModule_of_absolute habsolute,
        findModule_of_reaches hreaches]
      simp [hmember]
  | noMember hnames habsolute hreaches hmember =>
      rw [resolve_of_names hnames, importModule_of_absolute habsolute,
        findModule_of_reaches hreaches]
      simp [hmember]

theorem resolve_of_relative {f : Failure} (h : Relative path f) : resolve c path = .error f := by
  obtain ⟨hnames, hrelative⟩ := h
  rw [resolve_of_names hnames, importModule_of_relative hrelative]

theorem moduleChain_ne_nil (name : String) : moduleChain name ≠ [] := by
  have hpieces : Text.pieces (fun c => c == '.') name.toList ≠ [] :=
    Text.pieces_ne_nil name.toList
  simp [moduleChain, hpieces]

/-- There is nothing else that a path can come to. -/
theorem resolve_cases (c : Catalogue) (path : String) :
    (∃ target, Leads c path target) ∨ (∃ f, Fails c path f) ∨ ∃ f, Relative path f := by
  by_cases hnames : ∃ owner member, Names path owner member
  · obtain ⟨owner, member, hnames⟩ := hnames
    by_cases hrelative : IsRelative owner
    · exact .inr (.inr ⟨_, hnames, hrelative⟩)
    · rcases reaches_or_breaks (c := c) (moduleChain_ne_nil owner) with ⟨m, hm⟩ | ⟨f, hbreaks⟩
      · cases hmember : m.member? member with
        | error f => exact .inr (.inl ⟨f, .unanswered hnames hrelative hm hmember⟩)
        | ok found =>
            cases found with
            | some target => exact .inl ⟨target, hnames, hrelative, hm, hmember⟩
            | none => exact .inr (.inl ⟨_, .noMember hnames hrelative hm hmember⟩)
      · exact .inr (.inl ⟨f, .broken hnames hrelative hbreaks⟩)
  · refine .inr (.inl ⟨_, .malformed ?_⟩)
    intro owner member h
    exact hnames ⟨owner, member, h⟩

/-- A path leads to what it resolves to. -/
theorem resolve_eq_ok_iff {target : Target} :
    resolve c path = .ok target ↔ Leads c path target := by
  refine ⟨?_, resolve_of_leads⟩
  intro h
  rcases resolve_cases c path with ⟨found, hleads⟩ | ⟨f, hfails⟩ | ⟨f, hrelative⟩
  · rw [resolve_of_leads hleads] at h
    cases h
    exact hleads
  · rw [resolve_of_fails hfails] at h
    cases h
  · rw [resolve_of_relative hrelative] at h
    cases h

/-- A path that resolves to nothing fails to lead anywhere, or is relative. -/
theorem resolve_eq_error_iff {f : Failure} :
    resolve c path = .error f ↔ Fails c path f ∨ Relative path f := by
  constructor
  · intro h
    rcases resolve_cases c path with ⟨found, hleads⟩ | ⟨g, hfails⟩ | ⟨g, hrelative⟩
    · rw [resolve_of_leads hleads] at h
      cases h
    · rw [resolve_of_fails hfails] at h
      cases h
      exact .inl hfails
    · rw [resolve_of_relative hrelative] at h
      cases h
      exact .inr hrelative
  · rintro (hfails | hrelative)
    · exact resolve_of_fails hfails
    · exact resolve_of_relative hrelative

end Resolve

end ScriptHost.Plugin
