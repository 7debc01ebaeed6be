import ScriptHost.Config.File

/-!
# The file that a configuration is read from

A path that is asked for is the one file that counts; without one, or with an empty one, the first
of the usual names that is there.  What a configuration is made of is what that file holds, over
the environment.

## Main results

* `load_eq` — a configuration is made of what the chosen file gives.
* `asked_of_givenBy`, `unasked_of_givenBy` — which file is chosen.
* `sectionsIn_of_lone` — what a file with one section gives.
-/

namespace ScriptHost

/-! ## Documents with one section -/

namespace Yaml

/-- A mapping with one text for a key stands for the mapping of that text. -/
theorem valueAs_lone {name : String} {n : Node} {d : Datum} (h : valueAs n.tag n = .ok d) :
    valueAs .mapping (.mapping .mapping [(.scalar .text name, n)]) =
      .ok (.dict [(.text name, d)]) := by
  have hkey : valueAs .text (.scalar .text name) = .ok (.text name) := by
    rw [valueAs]
    rfl
  have hparts : partsOf [(.scalar .text name, n)] = (.ok [], .ok [(.text name, d)]) := by
    have htag : keyTag (Node.scalar .text name).tag = .text := rfl
    have hplain : (Node.scalar .text name).tag ≠ .merge := by
      intro heq
      cases heq
    simp only [partsOf, htag, if_neg hplain]
    rw [hkey, h]
    rfl
  have hwell : mergesWell [(.scalar .text name, n)] = true := by
    rw [mergesWell, mergesWell]
    rfl
  rw [valueAs, entriesOf, if_pos hwell, hparts]
  rfl

/-- Whether a document is one section with one field, whose value is a text. -/
def isLone (section_ field value : String) : Except Failure (Option Node) → Bool
  | .ok (some (.mapping .mapping
      [(.scalar .text s, .mapping .mapping [(.scalar .text f, .scalar .text v)])])) =>
    s == section_ && f == field && v == value
  | _ => false

theorem read_of_lone {source : Source} {section_ field value : String}
    (h : isLone section_ field value (document? (tokens source)) = true) :
    read source = .ok (.fields [(section_, .fields [(field, .text value)])]) := by
  have htext : valueAs (Node.scalar .text value).tag (.scalar .text value) = .ok (.text value) := by
    rw [valueAs]
    rfl
  have hfields : valueAs (Node.mapping .mapping [(.scalar .text field, .scalar .text value)]).tag
      (.mapping .mapping [(.scalar .text field, .scalar .text value)]) =
        .ok (.dict [(.text field, .text value)]) := valueAs_lone htext
  unfold isLone at h
  split at h
  · next hdocument =>
    simp only [Bool.and_eq_true, beq_iff_eq] at h
    obtain ⟨⟨rfl, rfl⟩, rfl⟩ := h
    rw [read, hdocument]
    change valueOf _ = _
    rw [valueOf]
    change Except.mapError Prod.snd (valueAs .mapping _) = _
    rw [valueAs_lone hfields]
    rfl
  · cases h

end Yaml

namespace Configuration

/-! ## The chosen file -/

/-- What the chosen file gives; nothing if there is none. -/
def givenBy (d : Disk) (path : Option String) : Except Failure (List (String × Datum)) := do
  match ← source d path with
  | none => return []
  | some path => sectionsIn d path

/-- A configuration is made of what the chosen file gives. -/
theorem load_eq (env : Environment) (d : Disk) (path : Option String) :
    load env d path = (do make env d (← givenBy d path)) := by
  unfold load givenBy
  cases source d path with
  | error f => rfl
  | ok chosen =>
      cases chosen with
      | none => rfl
      | some path => rfl

section Choice

variable {d : Disk}

theorem givenBy_of_source {path : Option String} {file : String}
    (h : source d path = .ok (some file)) : givenBy d path = sectionsIn d file := by
  rw [givenBy, h]
  rfl

theorem source_asked {path : String} (hne : path ≠ "") :
    source d (some path) =
      match d.exists_ path with
      | .error f => .error f
      | .ok true => .ok (some path)
      | .ok false => .error (.missingConfiguration (Path.normalText path)) := by
  unfold source
  split
  · next heq => cases heq
  · next heq =>
    cases heq
    exact absurd rfl hne
  · next heq =>
    cases heq
    rfl

/-- A file that is asked for and is there is the chosen one. -/
theorem givenBy_asked {path : String} (hne : path ≠ "") (h : d.exists_ path = .ok true) :
    givenBy d (some path) = sectionsIn d path := by
  apply givenBy_of_source
  rw [source_asked hne, h]

/-- A file that is asked for gives something only if it is there. -/
theorem asked_of_givenBy {path : String} {given : List (String × Datum)} (hne : path ≠ "")
    (h : givenBy d (some path) = .ok given) :
    d.exists_ path = .ok true ∧ sectionsIn d path = .ok given := by
  cases hexists : d.exists_ path with
  | error f =>
      rw [givenBy, source_asked hne, hexists] at h
      cases h
  | ok isThere =>
      cases isThere with
      | false =>
          rw [givenBy, source_asked hne, hexists] at h
          cases h
      | true =>
          rw [givenBy_asked hne hexists] at h
          exact ⟨rfl, h⟩

/-- Nothing is asked for without a path, and by an empty one. -/
def IsUnasked (path : Option String) : Prop := path = none ∨ path = some ""

theorem source_unasked {path : Option String} (h : IsUnasked path) :
    source d path = firstOf d usualNames := by
  rcases h with rfl | rfl
  · rfl
  · rfl

/-- The first file of several that is there, with none of those before it. -/
theorem firstOf_eq_ok {paths : List String} {chosen : Option String}
    (h : firstOf d paths = .ok chosen) :
    (chosen = none ∧ ∀ path ∈ paths, d.exists_ path = .ok false) ∨
      ∃ before path after, paths = before ++ path :: after ∧ chosen = some path ∧
        d.exists_ path = .ok true ∧ ∀ earlier ∈ before, d.exists_ earlier = .ok false := by
  induction paths with
  | nil =>
      cases h
      exact .inl ⟨rfl, fun _ hnone => absurd hnone List.not_mem_nil⟩
  | cons path paths ih =>
      rw [firstOf] at h
      split at h
      · cases h
      · next hthere =>
        cases h
        exact .inr ⟨[], path, paths, rfl, rfl, hthere, fun _ hnone => absurd hnone List.not_mem_nil⟩
      · next hgone =>
        rcases ih h with ⟨hchosen, hnone⟩ | ⟨before, other, after, rfl, hchosen, hthere, hbefore⟩
        · exact .inl ⟨hchosen, List.forall_mem_cons.mpr ⟨hgone, hnone⟩⟩
        · exact .inr ⟨path :: before, other, after, rfl, hchosen, hthere,
            List.forall_mem_cons.mpr ⟨hgone, hbefore⟩⟩

/-- Unless a file is asked for, the first of the usual ones that is there gives everything. -/
theorem unasked_of_givenBy {path : Option String} {given : List (String × Datum)}
    (hpath : IsUnasked path) (h : givenBy d path = .ok given) :
    (given = [] ∧ ∀ name ∈ usualNames, d.exists_ name = .ok false) ∨
      ∃ before name after, usualNames = before ++ name :: after ∧ d.exists_ name = .ok true ∧
        (∀ earlier ∈ before, d.exists_ earlier = .ok false) ∧ sectionsIn d name = .ok given := by
  rw [givenBy, source_unasked hpath] at h
  cases hfirst : firstOf d usualNames with
  | error f =>
      rw [hfirst] at h
      cases h
  | ok chosen =>
      rw [hfirst] at h
      rcases firstOf_eq_ok hfirst with
        ⟨rfl, hnone⟩ | ⟨before, name, after, hall, rfl, hthere, hbefore⟩
      · cases h
        exact .inl ⟨rfl, hnone⟩
      · exact .inr ⟨before, name, after, hall, hthere, hbefore, h⟩

end Choice

/-! ## Files with one section -/

theorem sectionsOf_lone (section_ : String) (d : Datum) :
    sectionsOf (.fields [(section_, d)]) = .ok [(section_, d)] := rfl

/-- A file with one section gives that section. -/
theorem sectionsIn_of_lone {d : Disk} {path text : String} {section_ field value : String}
    (hcontent : d.contentOf path = .ok (Text.encodeUtf8 text))
    (hread : Text.readPieces (Text.encodeUtf8 text) = (text.toList, none))
    (hlone : Yaml.isLone section_ field value (Yaml.document? (Yaml.tokens
      (Yaml.Source.ofChars (Text.plainNewlineChars text.toList) none))) = true) :
    sectionsIn d path = .ok [(section_, .fields [(field, .text value)])] := by
  unfold sectionsIn
  rw [hcontent]
  simp only [bind, Except.bind, hread, Option.map_none]
  rw [Yaml.read_of_lone hlone]
  exact sectionsOf_lone section_ _

/-- The text of a file that names the file of the library. -/
def libraryText : String := "library:\n  file_name: Other.csx\n"

theorem sectionsIn_library {d : Disk} {path : String}
    (hcontent : d.contentOf path = .ok (Text.encodeUtf8 libraryText)) :
    sectionsIn d path = .ok [("library", .fields [("file_name", .text "Other.csx")])] := by
  have hread : Text.readPieces (Text.encodeUtf8 libraryText) = (libraryText.toList, none) := by
    decide +kernel
  exact sectionsIn_of_lone hcontent hread (by decide +kernel)

end Configuration

end ScriptHost
