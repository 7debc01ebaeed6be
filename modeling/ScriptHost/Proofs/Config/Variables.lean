import ScriptHost.Config.Environment
import ScriptHost.Proofs.Sequence.Entries

/-!
# What the environment sets

By the usual convention a field of a section is set by a variable of its own, or by the object that
the variable of the section holds.  The names of variables count in any case, and so do the names in
an object; of several variables of one name the last one counts, and so does of several spellings in
an object.  The variable of a field wins over the object, unless the object spells the name of the
field as it is and further on in another way.

## Main results

* `get?_ownFields` — the fields that have variables of their own.
* `get?_namedFields` — a field of an object.
* `sectionValue_spec` — what the environment sets in a section, field by field.
* `sectionsOf_eq_ok` — which sections the environment sets.
-/

namespace ScriptHost

open Sequence (Entries)

/-! ## Fields of sections -/

namespace Datum

/-- Whether a section is missing or a mapping. -/
def IsSection (value : Option Datum) : Prop :=
  value = none ∨ ∃ entries, value = some (.dict entries)

/-- The field of a name in a section that may be missing. -/
def fieldOf (name : String) : Option Datum → Option Datum
  | some (.dict fields) => entry? name fields
  | _ => none

theorem entry?_texts (name : String) (entries : Entries Datum) :
    entry? name (entries.map fun e => (text e.1, e.2)) = Entries.get? entries name := by
  induction entries with
  | nil => rfl
  | cons e entries ih =>
      obtain ⟨n, v⟩ := e
      rw [List.map_cons, entry?, Entries.get?, ih]

end Datum

/-! ## Cutting names -/

namespace Convention

theorem mem_splitFrom {delimiter piece : List Char} {skip : Nat} {cs p : List Char}
    (h : p ∈ splitFrom delimiter piece none skip cs) : ∀ c ∈ p, c ∈ piece ∨ c ∈ cs := by
  induction cs generalizing piece skip with
  | nil =>
      intro c hc
      rw [splitFrom, List.mem_singleton] at h
      rw [h] at hc
      exact .inl (List.mem_reverse.mp hc)
  | cons d cs ih =>
      intro c hc
      cases skip with
      | succ skip =>
          rw [splitFrom] at h
          rcases ih h c hc with hpiece | hrest
          · exact .inl hpiece
          · exact .inr (List.mem_cons_of_mem d hrest)
      | zero =>
          rw [splitFrom] at h
          split at h
          · rcases List.mem_cons.mp h with rfl | hlater
            · exact .inl (List.mem_reverse.mp hc)
            · rcases ih hlater c hc with hnone | hrest
              · cases hnone
              · exact .inr (List.mem_cons_of_mem d hrest)
          · rcases ih h c hc with hpiece | hrest
            · rcases List.mem_cons.mp hpiece with rfl | hpiece
              · exact .inr List.mem_cons_self
              · exact .inl hpiece
            · exact .inr (List.mem_cons_of_mem d hrest)

/-- The first piece of a text is all of it, or the delimiter follows it. -/
theorem splitFrom_head (delimiter piece cs : List Char) :
    splitFrom delimiter piece none 0 cs = [piece.reverse ++ cs] ∨
      ∃ first rest, splitFrom delimiter piece none 0 cs = first :: rest ∧
        first ++ delimiter <+: piece.reverse ++ cs := by
  induction cs generalizing piece with
  | nil => exact .inl (by rw [splitFrom, List.append_nil])
  | cons c cs ih =>
      rw [splitFrom]
      split
      · next hcut =>
        right
        have hprefix : delimiter <+: c :: cs := by simpa using hcut
        exact ⟨piece.reverse, _, rfl, (List.prefix_append_right_inj _).mpr hprefix⟩
      · have hmove : (c :: piece).reverse ++ cs = piece.reverse ++ c :: cs := by simp
        rw [← hmove]
        exact ih (c :: piece)

theorem splitAtMost_head {delimiter s field : String} {names : List String}
    (h : splitAtMost delimiter none s = field :: names) :
    (names = [] ∧ field = s) ∨ (field ++ delimiter).toList <+: s.toList := by
  rw [splitAtMost] at h
  rcases splitFrom_head delimiter.toList [] s.toList with hwhole | ⟨first, rest, hfirst, hprefix⟩
  · rw [hwhole, List.map_singleton] at h
    left
    obtain ⟨hfield, hnames⟩ := List.cons.inj h
    refine ⟨hnames.symm, ?_⟩
    rw [← hfield, List.reverse_nil, List.nil_append, String.ofList_toList]
  · rw [hfirst, List.map_cons] at h
    right
    obtain ⟨hfield, -⟩ := List.cons.inj h
    rw [← hfield, String.toList_append, String.toList_ofList]
    exact hprefix

theorem mem_splitAtMost {delimiter s field : String} {names : List String}
    (h : splitAtMost delimiter none s = field :: names) : ∀ c ∈ field.toList, c ∈ s.toList := by
  intro c hc
  have hfield : field ∈ splitAtMost delimiter none s := h ▸ List.mem_cons_self
  rw [splitAtMost] at hfield
  obtain ⟨piece, hpiece, rfl⟩ := List.mem_map.mp hfield
  rw [String.toList_ofList] at hc
  rcases mem_splitFrom hpiece c hc with hnone | hin
  · cases hnone
  · exact hin

end Convention

/-! ## The names of variables -/

namespace SectionShape

/-- The name of the variable of a section, in lower case. -/
def variableName (shape : SectionShape) : String := Convention.usual.nameOf shape.name

/-- The name of the variable of a field, in lower case. -/
def fieldVariable (shape : SectionShape) (field : String) : String :=
  shape.variableName ++ "__" ++ field

/-- Whether the name of a variable in lower case goes on below a field. -/
def IsBelow (shape : SectionShape) (field name : String) : Prop :=
  (shape.fieldVariable field ++ "__").toList <+: name.toList

/-- A field whose name is of ASCII in lower case and is not cut. -/
structure HasField (shape : SectionShape) (field : String × Bool) : Prop where
  mem : field ∈ shape.fields
  lower : Text.lower field.1 = field.1
  ascii : ∀ c ∈ field.1.toList, c.toNat < 0x80
  whole : Convention.splitAtMost "__" none field.1 = [field.1]
  isList : Environment.isListField .usual shape field.1 = field.2

theorem hasField_of_mem {shape : SectionShape} (hshape : shape ∈ sectionShapes)
    {field : String × Bool} (h : field ∈ shape.fields) : shape.HasField field := by
  have hall : ∀ shape ∈ sectionShapes, ∀ field ∈ shape.fields,
      Text.lower field.1 = field.1 ∧
        (field.1.toList.all fun c => decide (c.toNat < 0x80)) = true ∧
          Convention.splitAtMost "__" none field.1 = [field.1] ∧
            Environment.isListField .usual shape field.1 = field.2 := by
    decide +kernel
  obtain ⟨hlower, hascii, hwhole, hlist⟩ := hall shape hshape field h
  rw [List.all_eq_true] at hascii
  exact ⟨h, hlower, fun c hc => of_decide_eq_true (hascii c hc), hwhole, hlist⟩

end SectionShape

namespace Environment

/-- The value of a variable by its name in lower case: of several that have it in some case, that
of the last one. -/
def lookup? (env : Environment) (name : String) : Option String :=
  (env.reverse.find? fun v => Text.lower v.1 = name).map Prod.snd

/-- The variables by their names in lower case. -/
def lookedUp (env : Environment) : Entries (Option String) :=
  named .usual (env.map fun v => (v.1, some v.2))

theorem lookedUp_eq_ofList (env : Environment) :
    lookedUp env = Entries.ofList (env.map fun v => (Text.lower v.1, some v.2)) := by
  have hall : (env.map fun v => (v.1, some v.2)).filter
      (fun v => !(Convention.usual.skipsEmpty && v.2 == some "")) =
        env.map fun v => (v.1, some v.2) := List.filter_eq_self.mpr fun v _ => rfl
  rw [lookedUp, named, hall, List.map_map]
  rfl

theorem get?_lookedUp (env : Environment) (name : String) :
    Entries.get? (lookedUp env) name = (lookup? env name).map some := by
  rw [lookedUp_eq_ofList, Entries.get?_ofList, ← List.map_reverse, Entries.get?_eq_find?,
    List.find?_map, lookup?, Option.map_map, Option.map_map]
  rfl

theorem join_get?_lookedUp (env : Environment) (name : String) :
    (Entries.get? (lookedUp env) name).join = lookup? env name := by
  rw [get?_lookedUp]
  cases lookup? env name with
  | none => rfl
  | some text => rfl

theorem exists_of_mem_lookedUp {env : Environment} {name : String}
    (h : name ∈ Entries.names (lookedUp env)) : ∃ v ∈ env, name = Text.lower v.1 := by
  rw [lookedUp_eq_ofList] at h
  obtain ⟨e, he, rfl⟩ := List.mem_map.mp h
  obtain ⟨v, hv, hsame⟩ := List.mem_map.mp (Entries.mem_of_mem_ofList he)
  exact ⟨v, hv, congrArg Prod.fst hsame.symm⟩

theorem isLow_lookedUp (env : Environment) : Entries.IsLow (lookedUp env) := by
  intro name hname
  obtain ⟨v, -, rfl⟩ := exists_of_mem_lookedUp hname
  exact Text.isLow_lower v.1

theorem nodup_lookedUp (env : Environment) : (Entries.names (lookedUp env)).Nodup := by
  rw [lookedUp_eq_ofList]
  exact Entries.nodup_names_ofList _

theorem behind?_eq_some {beginning name tail : String} (h : behind? beginning name = some tail) :
    name = beginning ++ tail := by
  unfold behind? at h
  split at h
  · next hprefix =>
    obtain ⟨rest, hrest⟩ := List.isPrefixOf_iff_prefix.mp hprefix
    rw [← hrest, List.drop_left] at h
    cases h
    rw [← String.toList_inj, String.toList_append, String.toList_ofList, hrest]
  · cases h

theorem behind?_append (beginning tail : String) :
    behind? beginning (beginning ++ tail) = some tail := by
  unfold behind?
  rw [String.toList_append, if_pos (List.isPrefixOf_iff_prefix.mpr (List.prefix_append _ _)),
    List.drop_left, String.ofList_toList]

/-! ## Variables of fields -/

section Own

variable {shape : SectionShape}

/-- What one variable does to the fields: nothing, or it writes the field that its name leads to. -/
theorem ownFields_cons {name : String} {text : Option String} {rest : Entries (Option String)}
    {set own : Entries Datum}
    (h : ownFields .usual "__" shape ((name, text) :: rest) set = some own) :
    ∃ next, ownFields .usual "__" shape rest next = some own ∧
      (next = set ∨ ∃ tail field names value, name = shape.variableName ++ "__" ++ tail ∧
        Convention.splitAtMost "__" none tail = field :: names ∧
          next = Entries.put set field value) := by
  rw [ownFields] at h
  split at h
  · exact ⟨set, h, .inl rfl⟩
  · next tail hbehind =>
    have hname := behind?_eq_some hbehind
    split at h
    · exact ⟨set, h, .inl rfl⟩
    · next field names hsplit =>
      split at h
      · cases h
      · next value hvalue =>
        refine ⟨_, h, ?_⟩
        split
        · exact .inr ⟨tail, field, names, _, hname, hsplit, rfl⟩
        · exact .inl rfl

/-- The variable of a field that is not set yet sets it, if its value can be decoded. -/
theorem ownFields_field {field : String × Bool} (hfield : shape.HasField field)
    {text : Option String} {rest : Entries (Option String)} {set : Entries Datum}
    (hfresh : Entries.get? set field.1 = none) :
    ownFields .usual "__" shape ((shape.fieldVariable field.1, text) :: rest) set =
      (leafValue .usual field.2 text).bind fun value =>
        ownFields .usual "__" shape rest (Entries.put set field.1 value) := by
  have hbehind : behind? (Convention.usual.nameOf shape.name ++ "__")
      (shape.fieldVariable field.1) = some field.1 := behind?_append _ _
  have hsplit : Convention.splitAtMost "__" Convention.usual.cuts field.1 = [field.1] :=
    hfield.whole
  rw [ownFields, hbehind]
  simp only [hsplit, List.isEmpty_nil, Bool.true_and, hfield.isList]
  cases leafValue .usual field.2 text with
  | none => rfl
  | some value =>
      have hwritable : writable set field.1 (nestedValue value []) = true := by
        unfold writable
        rw [hfresh]
      dsimp only
      rw [hwritable, Bool.or_true, if_pos rfl]
      rfl

/-- The field that a variable writes is not one whose own variable has another name, unless the
name goes on below that field. -/
theorem ne_of_splitAtMost {field : String × Bool} {name tail first : String} {names : List String}
    (hname : name = shape.variableName ++ "__" ++ tail)
    (hsplit : Convention.splitAtMost "__" none tail = first :: names)
    (hother : name ≠ shape.fieldVariable field.1) (hbelow : ¬ shape.IsBelow field.1 name) :
    field.1 ≠ first := by
  intro heq
  rcases Convention.splitAtMost_head hsplit with ⟨-, hwhole⟩ | hprefix
  · have htail : tail = field.1 := hwhole.symm.trans heq.symm
    exact hother (hname.trans (congrArg _ htail))
  · apply hbelow
    have hfront : (shape.fieldVariable field.1 ++ "__").toList =
        (shape.variableName ++ "__").toList ++ (first ++ "__").toList := by
      rw [heq, ← String.toList_append, ← String.append_assoc, SectionShape.fieldVariable]
    have hwhole : name.toList = (shape.variableName ++ "__").toList ++ tail.toList := by
      rw [hname, ← String.toList_append]
    rw [SectionShape.IsBelow, hfront, hwhole]
    exact (List.prefix_append_right_inj _).mpr hprefix

theorem get?_ownFields_of_not_mem {field : String × Bool} {vars : Entries (Option String)}
    {set own : Entries Datum} (h : ownFields .usual "__" shape vars set = some own)
    (hnot : shape.fieldVariable field.1 ∉ Entries.names vars)
    (hbelow : ∀ name ∈ Entries.names vars, ¬ shape.IsBelow field.1 name) :
    Entries.get? own field.1 = Entries.get? set field.1 := by
  induction vars generalizing set with
  | nil =>
      cases h
      rfl
  | cons v vars ih =>
      obtain ⟨name, text⟩ := v
      obtain ⟨next, hnext, hstep⟩ := ownFields_cons h
      have hrest := ih hnext (fun hmem => hnot (List.mem_cons_of_mem name hmem))
        fun other hother => hbelow other (List.mem_cons_of_mem name hother)
      rw [hrest]
      rcases hstep with rfl | ⟨tail, first, names, value, hname, hsplit, rfl⟩
      · rfl
      · have hother : name ≠ shape.fieldVariable field.1 := by
          rintro rfl
          exact hnot List.mem_cons_self
        exact Entries.get?_put_of_ne set value
          (ne_of_splitAtMost hname hsplit hother (hbelow name List.mem_cons_self))

/-- A field has the value of its own variable, if no variable is named below it. -/
theorem get?_ownFields {field : String × Bool} (hfield : shape.HasField field)
    {vars : Entries (Option String)} {set own : Entries Datum}
    (h : ownFields .usual "__" shape vars set = some own) (hnodup : (Entries.names vars).Nodup)
    (hbelow : ∀ name ∈ Entries.names vars, ¬ shape.IsBelow field.1 name)
    (hfresh : Entries.get? set field.1 = none) :
    Entries.get? own field.1 =
      (Entries.get? vars (shape.fieldVariable field.1)).bind (leafValue .usual field.2) := by
  induction vars generalizing set with
  | nil =>
      cases h
      exact hfresh
  | cons v vars ih =>
      obtain ⟨name, text⟩ := v
      rw [Entries.names, List.map_cons, List.nodup_cons] at hnodup
      have hless : ∀ other ∈ Entries.names vars, ¬ shape.IsBelow field.1 other :=
        fun other hother => hbelow other (List.mem_cons_of_mem name hother)
      by_cases hname : name = shape.fieldVariable field.1
      · subst hname
        rw [ownFields_field hfield hfresh] at h
        obtain ⟨value, hvalue, hrest⟩ := Option.bind_eq_some_iff.mp h
        -- the name comes once only, so nothing behind it writes the field again
        rw [get?_ownFields_of_not_mem hrest hnodup.1 hless, Entries.get?_put_self, Entries.get?,
          if_pos rfl, Option.bind_some, hvalue]
      -- another variable may write other fields, but this one is still unset behind it
      · obtain ⟨next, hnext, hstep⟩ := ownFields_cons h
        have hfresh' : Entries.get? next field.1 = none := by
          rcases hstep with rfl | ⟨tail, first, names, value, htail, hsplit, rfl⟩
          · exact hfresh
          · have hne := ne_of_splitAtMost htail hsplit hname (hbelow name List.mem_cons_self)
            rw [Entries.get?_put_of_ne set value hne]
            exact hfresh
        rw [ih hnext hnodup.2 hless hfresh', Entries.get?, if_neg hname]

/-- Fields that have variables of their own are named once, in lower case if the variables are. -/
theorem ownFields_names {vars : Entries (Option String)} {set own : Entries Datum}
    (h : ownFields .usual "__" shape vars set = some own) (hvars : Entries.IsLow vars)
    (hset : Entries.IsLow set ∧ (Entries.names set).Nodup) :
    Entries.IsLow own ∧ (Entries.names own).Nodup := by
  induction vars generalizing set with
  | nil =>
      cases h
      exact hset
  | cons v vars ih =>
      obtain ⟨name, text⟩ := v
      obtain ⟨next, hnext, hstep⟩ := ownFields_cons h
      have hless : Entries.IsLow vars := fun other hother =>
        hvars other (List.mem_cons_of_mem name hother)
      refine ih hnext hless ?_
      rcases hstep with rfl | ⟨tail, first, names, value, hname, hsplit, rfl⟩
      · exact hset
      · have hlow : ∀ c ∈ first.toList, Text.IsLow c := by
          intro c hc
          apply hvars name List.mem_cons_self
          rw [hname, String.toList_append]
          exact List.mem_append_right _ (Convention.mem_splitAtMost hsplit c hc)
        exact ⟨hset.1.put hlow value, Entries.nodup_names_put hset.2 first value⟩

end Own

/-! ## Fields of objects -/

/-- The value of a field in an object: of several that spell its name in some case, the last. -/
def inObject (members : Entries Datum) (field : String) : Option Datum :=
  (Entries.spelled members field).getLast?.map Prod.snd

theorem inObject_eq_find? (members : Entries Datum) (field : String) :
    inObject members field =
      (members.reverse.find? fun m => Text.lower m.1 = field).map Prod.snd := by
  rw [inObject, Entries.spelled, List.getLast?_eq_head?_reverse, ← List.filter_reverse,
    List.head?_filter]

/-- The name of the field that a member is for. -/
def memberName (shape : SectionShape) (name : String) : String :=
  ((shape.fields.find? fun f => f.1 = Text.lower name).map Prod.fst).getD name

/-- A member is for a field just if it spells its name in some case. -/
theorem memberName_eq_iff {shape : SectionShape} {field : String × Bool}
    (hfield : shape.HasField field) (name : String) :
    memberName shape name = field.1 ↔ Text.lower name = field.1 := by
  unfold memberName
  cases hfind : shape.fields.find? fun f => f.1 = Text.lower name with
  | some f =>
      have hf : f.1 = Text.lower name := by simpa using List.find?_some hfind
      rw [Option.map_some, Option.getD_some, hf]
  | none =>
      have hunknown : ∀ f ∈ shape.fields, f.1 ≠ Text.lower name := by
        intro f hf
        simpa using List.find?_eq_none.mp hfind f hf
      have hne : Text.lower name ≠ field.1 := fun heq => hunknown field hfield.mem heq.symm
      rw [Option.map_none, Option.getD_none]
      constructor
      · intro heq
        exact absurd (by rw [heq, hfield.lower]) hne
      · exact fun heq => absurd heq hne

theorem get?_namedFields {shape : SectionShape} {field : String × Bool}
    (hfield : shape.HasField field) (members : Entries Datum) :
    Entries.get? (namedFields .usual shape members) field.1 = inObject members field.1 := by
  have hfields : namedFields .usual shape members =
      Entries.ofList (members.map fun m => (memberName shape m.1, m.2)) := rfl
  rw [hfields, Entries.get?_ofList, ← List.map_reverse, Entries.get?_eq_find?, List.find?_map,
    inObject_eq_find?, Option.map_map]
  simp only [Function.comp_def, memberName_eq_iff hfield]

/-! ## Sections -/

/-- The members of a JSON object as fields. -/
def membersOf (members : List (String × Json)) : Entries Datum :=
  members.map fun m => (m.1, Datum.ofJson m.2)

/-- What the variable of a field sets, if it is there and can be decoded. -/
def ownSetting (env : Environment) (shape : SectionShape) (field : String × Bool) : Option Datum :=
  (lookup? env (shape.fieldVariable field.1)).bind fun text => leafValue .usual field.2 (some text)

theorem ownSetting_of_some {env : Environment} {shape : SectionShape} {field : String × Bool}
    {text : String} (h : lookup? env (shape.fieldVariable field.1) = some text) :
    ownSetting env shape field = leafValue .usual field.2 (some text) := by
  rw [ownSetting, h, Option.bind_some]

theorem ownSetting_of_none {env : Environment} {shape : SectionShape} {field : String × Bool}
    (h : lookup? env (shape.fieldVariable field.1) = none) : ownSetting env shape field = none := by
  rw [ownSetting, h, Option.bind_none]

/-- What the environment sets a field to: the value of its own variable if the variable of the
section is not set.  If that one holds an object, the variable of the field wins over it, unless
the object spells the name of the field once more behind the place where it spells it as it is.  If
it holds no object, nothing is set. -/
def setting (env : Environment) (shape : SectionShape) (field : String × Bool) : Option Datum :=
  match (lookup? env shape.variableName).bind Json.parse? with
  | none => ownSetting env shape field
  | some (.obj members) =>
    if Entries.isRespelled (membersOf members) field.1 then inObject (membersOf members) field.1
    else (ownSetting env shape field).or (inObject (membersOf members) field.1)
  | some _ => none

/-! ## What a section holds -/

section Spec

variable {env : Environment} {shape : SectionShape} (hshape : shape ∈ sectionShapes)
  (hbelow : ∀ field ∈ shape.fields, ∀ v ∈ env, ¬ shape.IsBelow field.1 (Text.lower v.1))

/-- The names of the fields that have variables of their own. -/
theorem own_names {own : Entries Datum}
    (h : ownFields .usual "__" shape (lookedUp env) [] = some own) :
    Entries.IsLow own ∧ (Entries.names own).Nodup :=
  ownFields_names h (isLow_lookedUp env)
    ⟨fun _ hnone => absurd hnone List.not_mem_nil, List.nodup_nil⟩

include hshape

theorem fieldOf_named {field : String × Bool} (hfield : field ∈ shape.fields)
    (members : Entries Datum) :
    Datum.fieldOf field.1 (some (.fields (namedFields .usual shape members))) =
      inObject members field.1 := by
  rw [← get?_namedFields (SectionShape.hasField_of_mem hshape hfield)]
  exact Datum.entry?_texts field.1 _

include hbelow

theorem ownFields_spec {own : Entries Datum}
    (h : ownFields .usual "__" shape (lookedUp env) [] = some own) {field : String × Bool}
    (hfield : field ∈ shape.fields) : Entries.get? own field.1 = ownSetting env shape field := by
  have hnone : ∀ name ∈ Entries.names (lookedUp env), ¬ shape.IsBelow field.1 name := by
    intro name hname
    obtain ⟨v, hv, rfl⟩ := exists_of_mem_lookedUp hname
    exact hbelow field hfield v hv
  rw [get?_ownFields (SectionShape.hasField_of_mem hshape hfield) h (nodup_lookedUp env) hnone rfl,
    get?_lookedUp, ownSetting]
  cases lookup? env (shape.fieldVariable field.1) with
  | none => rfl
  | some text => rfl

/-- The fields that have variables of their own, written over an object: what a field is then. -/
theorem inObject_putAll {own : Entries Datum}
    (h : ownFields .usual "__" shape (lookedUp env) [] = some own) {field : String × Bool}
    (hfield : field ∈ shape.fields) (members : Entries Datum) :
    inObject (Entries.putAll members own) field.1 =
      if Entries.isRespelled members field.1 then inObject members field.1
      else (ownSetting env shape field).or (inObject members field.1) := by
  obtain ⟨hlow, hnodup⟩ := own_names h
  have hregular := SectionShape.hasField_of_mem hshape hfield
  rw [← ownFields_spec hshape hbelow h hfield]
  exact Entries.getLast?_spelled_putAll hregular.lower hregular.ascii members hlow hnodup

/-- The fields that have variables of their own, without an object. -/
theorem inObject_own {own : Entries Datum}
    (h : ownFields .usual "__" shape (lookedUp env) [] = some own) {field : String × Bool}
    (hfield : field ∈ shape.fields) : inObject own field.1 = ownSetting env shape field := by
  obtain ⟨hlow, hnodup⟩ := own_names h
  have hregular := SectionShape.hasField_of_mem hshape hfield
  rw [← ownFields_spec hshape hbelow h hfield]
  exact Entries.getLast?_spelled_of_low hregular.lower hregular.ascii hlow hnodup

/-- What the environment sets in a section, field by field, if the variable of the section holds an
object or nothing and no variable is named below a field. -/
theorem sectionValue_spec
    (hobject : ∀ text, lookup? env shape.variableName = some text →
      (∃ members, Json.parse? text = some (.obj members)) ∨ Json.parse? text = some .null)
    {value : Option Datum}
    (h : sectionValue .environment .usual (lookedUp env) shape = .ok value) :
    Datum.IsSection value ∧
      ∀ field ∈ shape.fields, Datum.fieldOf field.1 value = setting env shape field := by
  have hlookup : (Entries.get? (lookedUp env) (Convention.usual.nameOf shape.name)).join =
      lookup? env shape.variableName := join_get?_lookedUp env _
  have hdelimiter : Convention.usual.delimiter = some "__" := rfl
  have habsent : ∀ text : String, Convention.usual.absent ≠ some text := nofun
  unfold sectionValue at h
  simp only [hlookup, hdelimiter] at h
  cases htext : lookup? env shape.variableName with
  | none =>
      rw [htext] at h
      have hsetting : ∀ field, setting env shape field = ownSetting env shape field := by
        intro field
        rw [setting, htext]
        rfl
      dsimp only at h
      split at h
      · cases h
      · next hown =>
        cases h
        refine ⟨.inl rfl, fun field hfield => ?_⟩
        rw [hsetting, ← ownFields_spec hshape hbelow hown hfield]
        rfl
      · next own hsome hown =>
        cases h
        refine ⟨.inr ⟨_, rfl⟩, fun field hfield => ?_⟩
        rw [hsetting, fieldOf_named hshape hfield, inObject_own hshape hbelow hown hfield]
  | some text =>
      rw [htext] at h
      simp only [habsent, if_false] at h
      rcases hobject text htext with ⟨members, hparse⟩ | hparse
      · have hsetting : ∀ field, setting env shape field =
            if Entries.isRespelled (membersOf members) field.1
            then inObject (membersOf members) field.1
            else (ownSetting env shape field).or (inObject (membersOf members) field.1) := by
          intro field
          rw [setting, htext, Option.bind_some, hparse]
        rw [hparse] at h
        dsimp only at h
        split at h
        · cases h
        · next own hown =>
          cases h
          refine ⟨.inr ⟨_, rfl⟩, fun field hfield => ?_⟩
          rw [hsetting, fieldOf_named hshape hfield]
          exact inObject_putAll hshape hbelow hown hfield (membersOf members)
      · have hsetting : ∀ field, setting env shape field = none := by
          intro field
          rw [setting, htext, Option.bind_some, hparse]
        rw [hparse] at h
        cases h
        exact ⟨.inl rfl, fun field _ => (hsetting field).symm⟩

end Spec

/-! ## All sections -/

/-- What variables set in a section, if that can be decoded. -/
def valueIn (source : SettingSource) (k : Convention) (vars : Entries (Option String))
    (shape : SectionShape) : Option Datum := (sectionValue source k vars shape).toOption.join

/-- What variables set is what they set in each of the sections. -/
theorem sectionsOf_eq_ok {source : SettingSource} {k : Convention}
    {vars : Entries (Option String)} {shapes : List SectionShape} {set : List (String × Datum)}
    (h : sectionsOf source k vars shapes = .ok set) :
    set = Entries.chosen SectionShape.name (valueIn source k vars) shapes ∧
      ∀ shape ∈ shapes, sectionValue source k vars shape = .ok (valueIn source k vars shape) := by
  induction shapes generalizing set with
  | nil =>
      cases h
      exact ⟨rfl, fun _ hnone => absurd hnone List.not_mem_nil⟩
  | cons shape shapes ih =>
      rw [sectionsOf] at h
      split at h
      · cases h
      · next value hvalue =>
        have hin : valueIn source k vars shape = value := by
          rw [valueIn, hvalue]
          rfl
        split at h
        · cases h
        · next rest hrest =>
          obtain ⟨hset, hall⟩ := ih hrest
          refine ⟨?_, List.forall_mem_cons.mpr ⟨hvalue.trans (congrArg _ hin.symm), hall⟩⟩
          rw [Entries.chosen]
          split at h
          · cases h
            rw [List.filterMap_cons_none (by rw [hin, Option.map_none])]
            exact hset
          · cases h
            rw [List.filterMap_cons_some (by rw [hin, Option.map_some])]
            exact congrArg _ hset

end Environment

end ScriptHost
