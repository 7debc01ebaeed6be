import Mathlib.Data.List.SplitBy
import ScriptHost.Json.Printer
import ScriptHost.Yaml.Printer
import ScriptHost.Yaml.Value

/-!
# What is written, and what it stands for

Whatever texts are written down as YAML, the characters that are written are line feeds and
printable ASCII: anything else stands behind a backslash.  A reader of such a file therefore has no
bytes to make sense of, no carriage returns to replace and no characters to refuse.

A block stands for a value, and a node that spells the block has that value.

## Main results

* `print_ordinary` — the characters of written fields.
* `valueAs_of_spells`, `read_of_spells` — the value of a node, and of a document, that spells a
  block.
-/

namespace ScriptHost.Yaml

namespace Block

/-! ## The characters that are written -/

theorem isOrdinary_of_printable {c : Char} (h : Json.IsPrintable c) : isOrdinary c = true := by
  rw [isOrdinary, Bool.or_eq_true, Bool.and_eq_true, decide_eq_true_eq, decide_eq_true_eq]
  exact .inr h

theorem newLine_ordinary (indent : Nat) : ∀ c ∈ newLine indent, isOrdinary c = true := by
  intro c hc
  rcases List.mem_cons.mp hc with rfl | hc
  · rfl
  · rw [List.eq_of_mem_replicate hc]
    rfl

theorem capitalDigits_ordinary (width n : Nat) :
    ∀ c ∈ capitalDigits width n, isOrdinary c = true := by
  have hupper : ∀ k : Fin 0x7f, Json.IsPrintable (Char.ofNat k) →
      Json.IsPrintable (Char.ofNat k).toUpper := by decide
  intro c hc
  obtain ⟨d, hd, rfl⟩ := List.mem_map.mp hc
  have hprintable := Json.hexDigits_printable width n d hd
  have hlt : d.toNat < 0x7f := Nat.lt_of_le_of_lt hprintable.2 (by decide)
  have hback : Char.ofNat d.toNat = d := Char.ofNat_toNat d
  have h := hupper ⟨d.toNat, hlt⟩
  rw [hback] at h
  exact isOrdinary_of_printable (h hprintable)

theorem escape?_ordinary {c : Char} {e : List Char} (h : escape? c = some e) :
    ∀ d ∈ e, isOrdinary d = true := by
  have hletters : ∀ p ∈ letters, isOrdinary p.2 = true := by decide
  have hslash : isOrdinary '\\' = true := rfl
  unfold escape? at h
  split at h
  · next letter hlookup =>
    cases h
    obtain ⟨before, after, hall, -⟩ := List.lookup_eq_some_iff.mp hlookup
    have hmem : (c, letter) ∈ letters := by simp [hall]
    simpa [hslash] using hletters _ hmem
  · dsimp only at h
    split at h
    · cases h
    · have hbehind : ∀ mark, isOrdinary mark = true → ∀ width,
          ∀ d ∈ '\\' :: mark :: capitalDigits width c.toNat, isOrdinary d = true := by
        intro mark hmark width d hd
        rcases List.mem_cons.mp hd with rfl | hd
        · exact hslash
        · rcases List.mem_cons.mp hd with rfl | hd
          · exact hmark
          · exact capitalDigits_ordinary width _ d hd
      split at h
      · cases h
        exact hbehind 'x' rfl 2
      · split at h
        · cases h
          exact hbehind 'u' rfl 4
        · cases h
          exact hbehind 'U' rfl 8

/-- A character that needs no escape is written as it is. -/
theorem ordinary_of_escape?_none {c : Char} (h : escape? c = none) : isOrdinary c = true := by
  unfold escape? at h
  split at h
  · cases h
  · dsimp only at h
    split at h
    · next hprintable => exact isOrdinary_of_printable hprintable
    · split at h
      · cases h
      · split at h
        · cases h
        · cases h

theorem continued_ordinary (indent : Nat) (spaceFollows : Bool) :
    ∀ c ∈ continued indent spaceFollows, isOrdinary c = true := by
  intro c hc
  rcases List.mem_cons.mp hc with rfl | hc
  · rfl
  · rcases List.mem_append.mp hc with hc | hc
    · exact newLine_ordinary indent c hc
    · split at hc
      · rw [List.mem_singleton.mp hc]
        rfl
      · cases hc

theorem doubleChars_ordinary (indent column : Nat) (behind first : Bool) (cs : List Char) :
    ∀ c ∈ doubleChars indent column behind first cs, isOrdinary c = true := by
  induction cs generalizing column behind first with
  | nil => exact fun c hc => absurd hc List.not_mem_nil
  | cons d cs ih =>
      rw [doubleChars]
      dsimp only
      split
      · next e he =>
        have hescape := escape?_ordinary he
        split
        · simp only [List.forall_mem_append]
          exact ⟨⟨hescape, continued_ordinary _ _⟩, ih _ _ _⟩
        · simp only [List.forall_mem_append]
          exact ⟨hescape, ih _ _ _⟩
      · next hnone =>
        have hplain := ordinary_of_escape?_none hnone
        split
        · simp only [List.forall_mem_append, List.forall_mem_cons]
          exact ⟨continued_ordinary _ _, hplain, ih _ _ _⟩
        · exact List.forall_mem_cons.mpr ⟨hplain, ih _ _ _⟩

theorem stretches_ordinary (indent : Nat) {write : Char → List Char}
    (hwrite : ∀ c, isOrdinary c = true → ∀ d ∈ write c, isOrdinary d = true) (column : Nat)
    (first : Bool) {runs : List (List Char)} (h : ∀ run ∈ runs, ∀ c ∈ run, isOrdinary c = true) :
    ∀ c ∈ stretches indent write column first runs, isOrdinary c = true := by
  induction runs generalizing column first with
  | nil => exact fun c hc => absurd hc List.not_mem_nil
  | cons run runs ih =>
      have hrun := h run List.mem_cons_self
      have hruns : ∀ run ∈ runs, ∀ c ∈ run, isOrdinary c = true :=
        fun r hr => h r (List.mem_cons_of_mem _ hr)
      have hspaces : ∀ c ∈ List.replicate indent ' ', isOrdinary c = true := by
        intro c hc
        rw [List.eq_of_mem_replicate hc]
        rfl
      rw [stretches]
      split
      · simp only [List.cons_append, List.forall_mem_cons, List.forall_mem_append]
        exact ⟨rfl, ⟨hrun, hspaces⟩, ih _ _ hruns⟩
      · split
        · simp only [List.forall_mem_append]
          exact ⟨newLine_ordinary indent, ih _ _ hruns⟩
        · simp only [List.forall_mem_append]
          exact ⟨hrun, ih _ _ hruns⟩
      · simp only [List.forall_mem_append]
        refine ⟨?_, ih _ _ hruns⟩
        intro c hc
        obtain ⟨d, hd, hcd⟩ := List.mem_flatMap.mp hc
        exact hwrite d (hrun d hd) c hcd

/-- The stretches of a text hold its characters. -/
theorem mem_of_mem_stretchesOf {cs run : List Char} (h : run ∈ stretchesOf cs) {c : Char}
    (hc : c ∈ run) : c ∈ cs := by
  have hall : (stretchesOf cs).flatten = cs := List.flatten_splitBy sameStretch cs
  rw [← hall]
  exact List.mem_flatten.mpr ⟨run, h, hc⟩

theorem ordinary_of_isPlain {s : String} (h : isPlain s = true) :
    ∀ c ∈ s.toList, isOrdinary c = true := by
  unfold isPlain at h
  split at h
  · cases h
  · next first cs heq =>
    simp only [Bool.and_eq_true, List.all_eq_true] at h
    intro c hc
    rw [heq] at hc
    exact (h.1.1.1.1.1.1 c hc).2

/-- Whatever a text holds, ordinary characters are written for it. -/
theorem textChars_ordinary (indent column : Nat) (s : String) :
    ∀ c ∈ textChars indent column s, isOrdinary c = true := by
  have hself : ∀ c, isOrdinary c = true → ∀ d ∈ [c], isOrdinary d = true := by
    intro c hc d hd
    rwa [List.mem_singleton.mp hd]
  have hquoted : ∀ c, isOrdinary c = true → ∀ d ∈ singleChar c, isOrdinary d = true := by
    intro c hc d hd
    unfold singleChar at hd
    split at hd
    · next hquote =>
      have hboth : d = '\x27' := by simpa using hd
      rw [hboth]
      rfl
    · exact hself c hc d hd
  unfold textChars
  dsimp only
  split
  · next hstyle =>
    have hplain : isPlain s = true := by
      unfold styleOf at hstyle
      dsimp only at hstyle
      split at hstyle
      · next h => exact h
      · split at hstyle
        · cases hstyle
        · cases hstyle
    have hruns : ∀ run ∈ stretchesOf s.toList, ∀ c ∈ run, isOrdinary c = true :=
      fun run hrun c hc => ordinary_of_isPlain hplain c (mem_of_mem_stretchesOf hrun hc)
    exact List.forall_mem_cons.mpr ⟨rfl, stretches_ordinary indent hself _ _ hruns⟩
  · next hstyle =>
    have hall : ∀ c ∈ s.toList, isOrdinary c = true := by
      unfold styleOf at hstyle
      dsimp only at hstyle
      split at hstyle
      · cases hstyle
      · split at hstyle
        · next h =>
          simp only [Bool.and_eq_true, List.all_eq_true] at h
          exact h.1.1
        · cases hstyle
    have hruns : ∀ run ∈ stretchesOf s.toList, ∀ c ∈ run, isOrdinary c = true :=
      fun run hrun c hc => hall c (mem_of_mem_stretchesOf hrun hc)
    simp only [List.cons_append, List.forall_mem_cons, List.forall_mem_append]
    exact ⟨rfl, rfl, stretches_ordinary indent hquoted _ _ hruns, rfl, fun _ => nofun⟩
  · simp only [List.cons_append, List.forall_mem_cons, List.forall_mem_append]
    exact ⟨rfl, rfl, doubleChars_ordinary _ _ _ _ _, rfl, fun _ => nofun⟩

mutual

/-- Whether the names of the fields within a block are ordinary. -/
def isNamed : Block → Bool
  | text _ | truth _ | texts _ => true
  | fields entries => areNamed entries

/-- Whether the names of fields, and of the fields within them, are ordinary. -/
def areNamed : List (String × Block) → Bool
  | [] => true
  | (name, b) :: es => name.toList.all isOrdinary && isNamed b && areNamed es

end

mutual

theorem chars_ordinary (indent column : Nat) : ∀ b : Block, isNamed b = true →
    ∀ c ∈ chars indent column b, isOrdinary c = true
  | text s, _ => by
      rw [chars]
      exact textChars_ordinary _ _ s
  | truth b, _ => by
      rw [chars]
      cases b with
      | false => exact List.all_eq_true.mp rfl
      | true => exact List.all_eq_true.mp rfl
  | texts [], _ => by
      rw [chars]
      exact List.all_eq_true.mp rfl
  | texts (item :: items), _ => by
      rw [chars]
      · intro c hc
        obtain ⟨s, -, hs⟩ := List.mem_flatMap.mp hc
        rcases List.mem_append.mp hs with hline | htext
        · exact newLine_ordinary indent c hline
        · rcases List.mem_cons.mp htext with rfl | htext
          · rfl
          · exact textChars_ordinary _ _ s c htext
      · exact nofun
  | fields [], _ => by
      rw [chars]
      exact List.all_eq_true.mp rfl
  | fields (e :: es), h => by
      rw [chars]
      · rw [isNamed] at h
        exact List.forall_mem_cons.mpr ⟨rfl, entryChars_ordinary (indent + 2) (e :: es) h⟩
      · exact nofun

theorem entryChars_ordinary (indent : Nat) : ∀ entries : List (String × Block),
    areNamed entries = true → ∀ c ∈ entryChars indent entries, isOrdinary c = true
  | [], _ => by
      rw [entryChars]
      exact fun c hc => absurd hc List.not_mem_nil
  | (name, b) :: es, h => by
      simp only [areNamed, Bool.and_eq_true, List.all_eq_true] at h
      obtain ⟨⟨hname, hb⟩, hes⟩ := h
      have hvalue := chars_ordinary indent (indent + name.length + 1) b hb
      have hspaces : ∀ c ∈ List.replicate indent ' ', isOrdinary c = true := by
        intro c hc
        rw [List.eq_of_mem_replicate hc]
        rfl
      cases es with
      | nil =>
          rw [entryChars]
          simp only [List.forall_mem_append, List.forall_mem_cons]
          exact ⟨⟨hspaces, hname⟩, rfl, hvalue⟩
      | cons e es =>
          have hrest := entryChars_ordinary indent (e :: es) hes
          rw [entryChars]
          · simp only [List.forall_mem_append, List.forall_mem_cons]
            exact ⟨⟨⟨hspaces, hname⟩, rfl, hvalue⟩, rfl, hrest⟩
          · exact nofun

end

/-- Fields with ordinary names are written in ordinary characters, whatever is in them. -/
theorem print_ordinary {entries : List (String × Block)} (h : areNamed entries = true) :
    ∀ c ∈ (print entries).toList, isOrdinary c = true := by
  rw [print, String.toList_ofList]
  simp only [List.forall_mem_append]
  exact ⟨entryChars_ordinary 0 entries h, List.all_eq_true.mp rfl⟩

/-! ## What blocks stand for -/

mutual

/-- The value that a block stands for. -/
def toDatum : Block → Datum
  | text s => .text s
  | truth b => .bool b
  | texts items => .texts items
  | fields entries => .dict (toEntries entries)

/-- The entries that fields stand for. -/
def toEntries : List (String × Block) → List (Datum × Datum)
  | [] => []
  | (name, b) :: es => (.text name, toDatum b) :: toEntries es

end

/-- Whether nodes are texts. -/
def spellItems : List String → List Node → Bool
  | [], [] => true
  | s :: ss, .scalar .text t :: ns => s == t && spellItems ss ns
  | _, _ => false

mutual

/-- Whether a node spells a block. -/
def spells : Block → Node → Bool
  | text s, .scalar .text t => s == t
  | truth b, .scalar .bool t => Tag.boolWords.lookup (Text.lower t) == some b
  | texts items, .sequence .sequence ns => spellItems items ns
  | fields entries, .mapping .mapping ns =>
    spellEntries entries ns && decide (entries.map Prod.fst).Nodup
  | _, _ => false

/-- Whether the entries of a mapping spell fields. -/
def spellEntries : List (String × Block) → List (Node × Node) → Bool
  | [], [] => true
  | (name, b) :: es, (.scalar .text t, n) :: ns => name == t && spells b n && spellEntries es ns
  | _, _ => false

end

/-! ### Entries with different names -/

theorem putEntry_of_fresh {key value : Datum} {done : List (Datum × Datum)}
    (h : ∀ e ∈ done, e.1.key? ≠ key.key?) : putEntry key value done = done ++ [(key, value)] := by
  induction done with
  | nil => rfl
  | cons e done ih =>
      rw [putEntry, if_neg (h e List.mem_cons_self),
        ih fun e' he' => h e' (List.mem_cons_of_mem _ he')]
      rfl

theorem distinctEntries_append {entries : List (String × Block)} {done : List (Datum × Datum)}
    (hnodup : (entries.map Prod.fst).Nodup)
    (hfresh : ∀ e ∈ done, ∀ name ∈ entries.map Prod.fst, e.1.key? ≠ some (.text name)) :
    (toEntries entries).foldl (fun done e => putEntry e.1 e.2 done) done =
      done ++ toEntries entries := by
  induction entries generalizing done with
  | nil => simp [toEntries]
  | cons first entries ih =>
      obtain ⟨name, b⟩ := first
      rw [List.map_cons, List.nodup_cons] at hnodup
      have hput : putEntry (.text name) b.toDatum done = done ++ [(.text name, b.toDatum)] :=
        putEntry_of_fresh fun e he => hfresh e he name List.mem_cons_self
      rw [toEntries, List.foldl_cons, hput, ih hnodup.2]
      · simp
      · intro e he other hother
        rcases List.mem_append.mp he with hold | hnew
        · exact hfresh e hold other (List.mem_cons_of_mem name hother)
        · rw [List.mem_singleton.mp hnew]
          intro heq
          cases heq
          exact hnodup.1 hother

/-- Fields with different names are different entries. -/
theorem distinctEntries_toEntries {entries : List (String × Block)}
    (h : (entries.map Prod.fst).Nodup) :
    distinctEntries (toEntries entries) = toEntries entries :=
  distinctEntries_append h fun _ he => absurd he List.not_mem_nil

/-! ### Nodes -/

theorem valueAs_text (s : String) : valueAs .text (.scalar .text s) = .ok (.text s) := by
  rw [valueAs]
  rfl

theorem valuesOf_of_spellItems {items : List String} {ns : List Node}
    (h : spellItems items ns = true) : valuesOf ns = .ok (items.map Datum.text) := by
  fun_induction spellItems items ns with
  | case1 => rw [valuesOf]; rfl
  | case2 s ss t ns ih =>
      simp only [Bool.and_eq_true, beq_iff_eq] at h
      obtain ⟨rfl, hrest⟩ := h
      have hfirst : valueAs (Node.scalar .text s).tag (.scalar .text s) = .ok (.text s) :=
        valueAs_text s
      rw [valuesOf, hfirst, ih hrest]
      rfl
  | case3 => cases h

mutual

/-- A node that spells a block has its value. -/
theorem valueAs_of_spells : ∀ (b : Block) (n : Node), spells b n = true →
    valueAs n.tag n = .ok b.toDatum
  | text s, .scalar .text t, h => by
      rw [spells, beq_iff_eq] at h
      rw [← h, toDatum]
      exact valueAs_text s
  | truth b, .scalar .bool t, h => by
      rw [spells, beq_iff_eq] at h
      rw [Node.tag, valueAs, toDatum]
      rw [if_neg (by decide), scalarValue, h]
      rfl
  | texts items, .sequence .sequence ns, h => by
      rw [spells] at h
      rw [Node.tag, valueAs, valuesOf_of_spellItems h]
      rfl
  | fields entries, .mapping .mapping ns, h => by
      rw [spells, Bool.and_eq_true, decide_eq_true_eq] at h
      obtain ⟨hwell, hparts⟩ := partsOf_of_spellEntries entries ns h.1
      rw [Node.tag, valueAs, entriesOf, if_pos hwell, hparts, toDatum]
      change Except.ok (Datum.dict (distinctEntries ([] ++ toEntries entries))) = _
      rw [List.nil_append, distinctEntries_toEntries h.2]

/-- The entries of a mapping that spell fields are what the fields stand for. -/
theorem partsOf_of_spellEntries : ∀ (entries : List (String × Block)) (ns : List (Node × Node)),
    spellEntries entries ns = true →
    mergesWell ns = true ∧ partsOf ns = (.ok [], .ok (toEntries entries))
  | [], [], _ => by
      rw [mergesWell, partsOf, toEntries]
      exact ⟨rfl, rfl⟩
  | (name, b) :: es, (.scalar .text t, n) :: ns, h => by
      simp only [spellEntries, Bool.and_eq_true, beq_iff_eq] at h
      obtain ⟨⟨rfl, hb⟩, hes⟩ := h
      obtain ⟨hwell, hparts⟩ := partsOf_of_spellEntries es ns hes
      have htag : keyTag (Node.scalar .text name).tag = .text := rfl
      have hplain : (Node.scalar .text name).tag ≠ .merge := by
        intro heq
        cases heq
      refine ⟨?_, ?_⟩
      · rw [mergesWell, hwell]
        rfl
      · simp only [partsOf, hparts, htag, if_neg hplain]
        rw [valueAs_text, valueAs_of_spells b n hb, toEntries]
        rfl

end

end Block

/-- A document whose root spells a block is read as its value. -/
theorem read_of_spells {source : Source} {b : Block}
    (h : ((document? (tokens source)).toOption.join.any b.spells) = true) :
    read source = .ok b.toDatum := by
  cases hdocument : document? (tokens source) with
  | error f =>
      rw [hdocument] at h
      cases h
  | ok found =>
      cases found with
      | none =>
          rw [hdocument] at h
          cases h
      | some root =>
          rw [hdocument] at h
          have hvalue := b.valueAs_of_spells root h
          rw [read, hdocument]
          change valueOf root = _
          rw [valueOf, hvalue]
          rfl

end ScriptHost.Yaml
