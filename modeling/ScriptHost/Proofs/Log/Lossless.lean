import ScriptHost.Log.Request
import ScriptHost.Proofs.Json.RoundTrip

/-!
# Log lines that lose nothing

A record becomes one line of JSON.  Whatever its texts hold, the line is printable ASCII, and the
object that is read back from it has the members of the record: what it carries over the four usual
ones, and the report of a fault over everything else.

Not every record becomes a line.  Its moment must lie in the years that the clocks of the time zone
can show, its arguments must fit its format, an integer among them with not too many digits, and no
integer that counts may have too many digits either; the first of these that fails is what the
request fails with.  And one thing is lost: two codes without a character that
stand side by side and would make a pair are read back as the character of the pair.

## Main results

* `lineOf_eq` — what is written if moment and message are found.
* `get?_extended` — what a member of the line is.
* `lossless_law` — the law of log lines.
-/

namespace ScriptHost

/-! ## What a record carries -/

namespace Datum

mutual

theorem toJson_ofJson (j : Json) : (ofJson j).toJson = j := by
  match j with
  | .null | .bool _ | .int _ | .real _ | .text _ => rfl
  | .arr items => rw [ofJson, toJson, toJsons_ofJsons items]
  | .obj members => rw [ofJson, toJson, toMembers_ofMembers members]

theorem toJsons_ofJsons (js : List Json) : toJsons (ofJsons js) = js := by
  match js with
  | [] => rfl
  | j :: js => rw [ofJsons, toJsons, toJson_ofJson j, toJsons_ofJsons js]

/-- Members are the same again after they were carried as loose data. -/
theorem toMembers_ofMembers (ms : List (String × Json)) : toMembers (ofMembers ms) = ms := by
  match ms with
  | [] => rfl
  | (name, j) :: ms => rw [ofMembers, toMembers, toJson_ofJson j, toMembers_ofMembers ms]

end

end Datum

namespace Log

open Json (IsPrintable isExact isShort isWhole keepsPairs)
open Sequence (Entries)

/-- The members of a mapping that is carried are the members that it was made of. -/
theorem membersOf_ofMembers (ms : Entries Json) :
    membersOf (.dict (Datum.ofMembers ms)) = .ok ms := by
  change (Datum.ofMembers ms).mapM memberOf = .ok ms
  induction ms with
  | nil => rfl
  | cons m ms ih =>
      rw [Datum.ofMembers, List.mapM_cons, ih, memberOf, Datum.toJson_ofJson]
      rfl

/-- A mapping that a record carries, if it carries one. -/
def carriedBy (extra : Option (Entries Json)) : Option Datum :=
  extra.map fun ms => .dict (Datum.ofMembers ms)

/-! ## The members of a line -/

section Members

variable (stamp : Stamp) (level logger message : String) (extra : Option (Entries Json))
  (report : Option String)

/-- What a record without anything else has under a name. -/
def usual? (name : String) : Option Json :=
  if name = "timestamp" then some (.text stamp.iso)
  else if name = "level" then some (.text (Text.lower level))
  else if name = "logger" then some (.text logger)
  else if name = "message" then some (.text message)
  else none

/-- What a record has under a name: the report of a fault, else what it carries, else what is
usual. -/
def member? (name : String) : Option Json :=
  if name = "exception" ∧ report.isSome then report.map .text
  else ((extra.getD []).get? name).or (usual? stamp level logger message name)

/-- The members of a line as they are written. -/
def lineMembers : Entries Json :=
  extended (usualMembers stamp level (.text logger) message) (extra.getD []) report

theorem get?_usualMembers (name : String) :
    (usualMembers stamp level (.text logger) message).get? name =
      usual? stamp level logger message name := by
  simp only [usualMembers, usual?, Entries.get?, eq_comm]

/-- Of entries whose names are all different it does not matter which comes first. -/
theorem get?_reverse {es : Entries Json} (h : es.names.Nodup) (name : String) :
    Entries.get? es.reverse name = es.get? name := by
  rw [← Entries.get?_ofList, Entries.ofList_of_nodup h]

theorem get?_extended {usual extra : Entries Json} (h : extra.names.Nodup) (name : String) :
    (extended usual extra report).get? name =
      if name = "exception" ∧ report.isSome then report.map .text
      else (extra.get? name).or (usual.get? name) := by
  have hextra : (usual.putAll extra).get? name = (extra.get? name).or (usual.get? name) := by
    rw [Entries.get?_putAll, get?_reverse h]
  cases report with
  | none =>
      rw [if_neg (fun hnone => by cases hnone.2)]
      exact hextra
  | some text =>
      show ((usual.putAll extra).put "exception" (.text text)).get? name = _
      by_cases hname : name = "exception"
      · rw [if_pos ⟨hname, rfl⟩, hname, Entries.get?_put_self]
        rfl
      · rw [if_neg (fun hreport => hname hreport.1), Entries.get?_put_of_ne _ _ hname, hextra]

theorem nodup_names_extended {usual : Entries Json} (h : usual.names.Nodup)
    (extra : Entries Json) : (extended usual extra report).names.Nodup := by
  have hextra := Entries.nodup_names_putAll h extra
  cases report with
  | none => exact hextra
  | some text => exact Entries.nodup_names_put hextra "exception" (.text text)

theorem nodup_names_lineMembers :
    (lineMembers stamp level logger message extra report).names.Nodup := by
  have husual : (usualMembers stamp level (.text logger) message).names.Nodup := by
    show ["timestamp", "level", "logger", "message"].Nodup
    decide
  exact nodup_names_extended report husual _

/-- The members of a line are those that the record has. -/
theorem get?_lineMembers (h : (extra.getD []).names.Nodup) (name : String) :
    (lineMembers stamp level logger message extra report).get? name =
      member? stamp level logger message extra report name := by
  rw [lineMembers, get?_extended report h, get?_usualMembers, member?]

end Members

/-! ## Checks of whole objects -/

theorem everyMember_iff {check : Json → Bool} {ms : List (String × Json)} :
    Json.everyMember check ms = true ↔ ∀ m ∈ ms, m.2.every check = true := by
  induction ms with
  | nil => exact ⟨fun _ m hm => absurd hm List.not_mem_nil, fun _ => rfl⟩
  | cons m ms ih => rw [Json.everyMember_cons, ih, List.forall_mem_cons]

/-- An object whose names are all different is checked by what it has under its names. -/
theorem everyMember_iff_get? {check : Json → Bool} {ms : Entries Json} (h : ms.names.Nodup) :
    Json.everyMember check ms = true ↔
      ∀ name j, ms.get? name = some j → j.every check = true := by
  rw [everyMember_iff]
  exact ⟨fun hall name j hj => hall (name, j) (Entries.mem_of_get? hj),
    fun hall m hm => hall m.1 m.2 (Entries.get?_of_mem h hm)⟩

/-! ## The line -/

section Line

variable {zone : Zone} {created : Datum} {stamp : Stamp} {format message : String}
  {arguments : List Datum}

/-- What is written if the moment and the message are found. -/
theorem lineOf_eq (hstamp : Stamp.ofDatum zone created = .ok stamp)
    (hmessage : formatMessage format arguments = .ok message) (level logger : String)
    (extra : Option (Entries Json)) (report : Option String) :
    lineOf zone created (.ok level) (.text logger) (formatMessage format arguments)
      (carriedBy extra) report =
      (Json.obj (lineMembers stamp level logger message extra report)).written.mapError
        .raised := by
  simp only [lineOf, hstamp, hmessage]
  cases extra with
  | none => rfl
  | some ms =>
      simp only [carriedBy, Option.map_some, membersOf_ofMembers]
      rfl

/-- The texts of the beginning of 1970. -/
def Stamp.first : Stamp := ⟨"1970-01-01 00:00:00,000", "1970-01-01T00:00:00"⟩

theorem stampOf_zero : Stamp.ofDatum .universal (.int 0) = .ok .first := by
  have hzero := ofDatum_zero
  cases hstamp : Stamp.ofDatum .universal (.int 0) with
  | error f =>
      rw [hstamp] at hzero
      cases hzero
  | ok stamp =>
      rw [hstamp] at hzero
      exact congrArg Except.ok (Option.some.inj hzero)

/-- Only if both are found, and all integers are short, is there a line. -/
theorem lineOf_eq_ok {level logger : String} {extra : Option (Entries Json)}
    {report : Option String} {s : String}
    (h : lineOf zone created (.ok level) (.text logger) (formatMessage format arguments)
      (carriedBy extra) report = .ok s) :
    ∃ stamp message, Stamp.ofDatum zone created = .ok stamp ∧
      formatMessage format arguments = .ok message ∧
      (Json.obj (lineMembers stamp level logger message extra report)).every isShort = true ∧
      s = (Json.obj (lineMembers stamp level logger message extra report)).print := by
  cases hstamp : Stamp.ofDatum zone created with
  | error f =>
      simp only [lineOf, hstamp] at h
      cases h
  | ok stamp =>
      cases hmessage : formatMessage format arguments with
      | error f =>
          simp only [lineOf, hstamp, hmessage] at h
          cases h
      | ok message =>
          rw [lineOf_eq hstamp hmessage, Json.written] at h
          split at h
          · next hshort => exact ⟨stamp, message, rfl, rfl, hshort, (Except.ok.inj h).symm⟩
          · cases h

end Line

/-! ## The law of log lines -/

section Law

variable (zone : Zone) (created : Datum) (level logger format : String) (arguments : List Datum)
  (extra : Option (Entries Json)) (report : Option String)

/-- What becomes of a record in a time zone. -/
structure Lossless (line : Except Failure String) : Prop where
  /-- A moment that cannot be shown is complained of before anything else. -/
  unshowable : ∀ f, Stamp.ofDatum zone created = .error f → line = .error f
  /-- Next are arguments that do not fit the format, or cannot show themselves in it. -/
  unfitting : ∀ stamp f, Stamp.ofDatum zone created = .ok stamp →
    formatMessage format arguments = .error f → line = .error f
  /-- Last is an integer with too many digits, wherever it stands in what the record has. -/
  tooLong : ∀ stamp message, Stamp.ofDatum zone created = .ok stamp →
    formatMessage format arguments = .ok message →
    (∃ name j, member? stamp level logger message extra report name = some j ∧
      j.every isShort = false) → line = .error (.raised Number.unwritableFault)
  /-- Any other record becomes a line. -/
  written : ∀ stamp message, Stamp.ofDatum zone created = .ok stamp →
    formatMessage format arguments = .ok message →
    (∀ name j, member? stamp level logger message extra report name = some j →
      j.every isShort = true) → ∃ s, line = .ok s
  /-- The line is printable ASCII, whatever the texts of the record hold. -/
  printable : ∀ s, line = .ok s → ∀ c ∈ s.toList, IsPrintable c
  /-- If no text of it splits a pair, an object is read back that has under every name what the
  record has, and no name twice. -/
  readBack : ∀ stamp message s, Stamp.ofDatum zone created = .ok stamp →
    formatMessage format arguments = .ok message → line = .ok s →
    (∀ name j, member? stamp level logger message extra report name = some j →
      isWhole name.toList = true ∧ j.every keepsPairs = true) →
    ∃ members, Json.parse? s = some (.obj members) ∧ (Entries.names members).Nodup ∧
      ∀ name, Entries.get? members name = member? stamp level logger message extra report name

variable {zone created level logger format arguments extra report}
variable {stamp : Stamp} {message : String}

/-- All that a record has is exact if what it carries is. -/
theorem isExact_member? (h : (Json.obj (extra.getD [])).every isExact = true) {name : String}
    {j : Json} (hj : member? stamp level logger message extra report name = some j) :
    j.every isExact = true := by
  have hnames : (extra.getD []).names.Nodup := by simpa [isExact] using Json.check_of_every h
  have hvalues := (everyMember_iff_get? hnames).mp (Json.everyMember_of_every h)
  rw [member?] at hj
  split at hj
  · obtain ⟨text, -, rfl⟩ := Option.map_eq_some_iff.mp hj
    rfl
  · rcases Option.or_eq_some_iff.mp hj with hcarried | ⟨-, husual⟩
    · exact hvalues name j hcarried
    · unfold usual? at husual
      repeat' split at husual
      all_goals first
        | exact Option.some.inj husual ▸ rfl
        | cases husual

/-- A check of the line asks of its object, and of what the record has under its names. -/
theorem every_lineMembers_iff {check : Json → Bool} (h : (extra.getD []).names.Nodup) :
    (Json.obj (lineMembers stamp level logger message extra report)).every check = true ↔
      check (.obj (lineMembers stamp level logger message extra report)) = true ∧
        ∀ name j, member? stamp level logger message extra report name = some j →
          j.every check = true := by
  rw [Json.every, Bool.and_eq_true,
    everyMember_iff_get? (nodup_names_lineMembers stamp level logger message extra report)]
  simp only [get?_lineMembers _ _ _ _ _ _ h]

/-- No text of a line splits a pair if no name and no value of the record does. -/
theorem every_keepsPairs_iff (h : (extra.getD []).names.Nodup) :
    (Json.obj (lineMembers stamp level logger message extra report)).every keepsPairs = true ↔
      ∀ name j, member? stamp level logger message extra report name = some j →
        isWhole name.toList = true ∧ j.every keepsPairs = true := by
  have hdistinct := nodup_names_lineMembers stamp level logger message extra report
  have hread := get?_lineMembers stamp level logger message extra report h
  have hnames : keepsPairs (.obj (lineMembers stamp level logger message extra report)) = true ↔
      ∀ name j, member? stamp level logger message extra report name = some j →
        isWhole name.toList = true := by
    rw [keepsPairs, List.all_eq_true]
    exact ⟨fun hall name j hj => hall (name, j) (Entries.mem_of_get? ((hread name).trans hj)),
      fun hall m hm => hall m.1 m.2 ((hread m.1).symm.trans (Entries.get?_of_mem hdistinct hm))⟩
  rw [every_lineMembers_iff h, hnames]
  exact ⟨fun hall name j hj => ⟨hall.1 name j hj, hall.2 name j hj⟩,
    fun hall => ⟨fun name j hj => (hall name j hj).1, fun name j hj => (hall name j hj).2⟩⟩

/-- Whatever a record says and carries, what becomes of it obeys the law. -/
theorem lossless_law (zone : Zone) (created : Datum) (level logger format : String)
    (arguments : List Datum) (extra : Option (Entries Json)) (report : Option String)
    (hextra : (Json.obj (extra.getD [])).every isExact = true) :
    Lossless zone created level logger format arguments extra report
      (lineOf zone created (.ok level) (.text logger) (formatMessage format arguments)
        (carriedBy extra) report) := by
  have hnames : (extra.getD []).names.Nodup := by simpa [isExact] using Json.check_of_every hextra
  have hexact : ∀ stamp message,
      (Json.obj (lineMembers stamp level logger message extra report)).every isExact = true := by
    intro stamp message
    refine (every_lineMembers_iff hnames).mpr ⟨?_, fun name j => isExact_member? hextra⟩
    exact decide_eq_true (nodup_names_lineMembers stamp level logger message extra report)
  constructor
  case unshowable =>
    intro f hf
    simp only [lineOf, hf]
    rfl
  case unfitting =>
    intro stamp f hstamp hf
    simp only [lineOf, hstamp, hf]
    rfl
  case tooLong =>
    rintro stamp message hstamp hmessage ⟨name, j, hj, hlong⟩
    rw [lineOf_eq hstamp hmessage, Json.written, if_neg]
    · rfl
    · intro hshort
      have hj' := ((every_lineMembers_iff hnames).mp hshort).2 name j hj
      rw [hlong] at hj'
      cases hj'
  case written =>
    intro stamp message hstamp hmessage hshort
    have hall : (Json.obj (lineMembers stamp level logger message extra report)).every isShort =
        true := (every_lineMembers_iff hnames).mpr ⟨rfl, hshort⟩
    refine ⟨(Json.obj (lineMembers stamp level logger message extra report)).print, ?_⟩
    rw [lineOf_eq hstamp hmessage, Json.written, if_pos hall]
    rfl
  case printable =>
    intro s hs
    obtain ⟨stamp, message, -, -, -, rfl⟩ := lineOf_eq_ok hs
    rw [Json.print, String.toList_ofList]
    exact Json.chars_printable _ (hexact stamp message)
  case readBack =>
    intro stamp message s hstamp hmessage hs hwhole
    obtain ⟨stamp', message', hstamp', hmessage', hshort, rfl⟩ := lineOf_eq_ok hs
    obtain rfl : stamp = stamp' := Except.ok.inj (hstamp.symm.trans hstamp')
    obtain rfl : message = message' := Except.ok.inj (hmessage.symm.trans hmessage')
    have hkept := (every_keepsPairs_iff hnames).mpr hwhole
    refine ⟨_, Json.parse?_print ?_,
      nodup_names_lineMembers stamp level logger message extra report,
      get?_lineMembers stamp level logger message extra report hnames⟩
    rw [Json.every_isFaithful, hexact stamp message, hshort, hkept]
    rfl

/-- What a record carries counts more than what is usual, and the report of a fault more than what
it carries; nothing of it is lost, in whatever script it is written. -/
theorem lossless_in_sample :
    let extra : Entries Json :=
      [("level", .int 7), ("exception", .null), ("note", .arr [.text "é😀\n", .obj []])]
    ∃ s members,
      lineOf .universal (.int 0) (.ok "INFO") (.text "n") (formatMessage "%s" [.text "\""])
        (carriedBy (some extra)) (some "ValueError") = .ok s ∧
      (∀ c ∈ s.toList, IsPrintable c) ∧ Json.parse? s = some (.obj members) ∧
      Entries.get? members "timestamp" = some (.text "1970-01-01T00:00:00") ∧
      Entries.get? members "level" = some (.int 7) ∧
      Entries.get? members "message" = some (.text "\"") ∧
      Entries.get? members "note" = some (.arr [.text "é😀\n", .obj []]) ∧
      Entries.get? members "exception" = some (.text "ValueError") := by
  intro extra
  have hmessage : formatMessage "%s" [.text "\""] = .ok "\"" := by rfl
  have hlaw := lossless_law .universal (.int 0) "INFO" "n" "%s" [.text "\""] (some extra)
    (some "ValueError") (by decide)
  have hnames : ((some extra).getD []).names.Nodup := by decide
  have hshort : (Json.obj (lineMembers .first "INFO" "n" "\"" (some extra)
      (some "ValueError"))).every isShort = true := by decide +kernel
  have hwhole : (Json.obj (lineMembers .first "INFO" "n" "\"" (some extra)
      (some "ValueError"))).every keepsPairs = true := by decide +kernel
  obtain ⟨s, hs⟩ :=
    hlaw.written _ _ stampOf_zero hmessage ((every_lineMembers_iff hnames).mp hshort).2
  obtain ⟨members, hread, -, hget⟩ :=
    hlaw.readBack _ _ s stampOf_zero hmessage hs ((every_keepsPairs_iff hnames).mp hwhole)
  exact ⟨s, members, hs, hlaw.printable s hs, hread, by rw [hget]; rfl, by rw [hget]; rfl,
    by rw [hget]; rfl, by rw [hget]; rfl, by rw [hget]; rfl⟩

/-- An integer that reaches the power of ten with too many digits cannot be written. -/
theorem isWritable_of_long {n : Nat} (h : Number.tenTo Number.longestNumeral ≤ n) :
    Number.isWritable n = false :=
  decide_eq_false (Nat.not_le.mpr (Number.lt_length_digits h))

/-- Such an integer cannot be carried. -/
theorem lineOf_long {n : Nat} (h : Number.isWritable n = false) :
    (lineOf .universal (.int 0) (.ok "INFO") (.text "n") (formatMessage "m" [])
      (carriedBy (some [("k", .int n)])) none).toOption = none := by
  have hlong : isShort (.int n) = false := h
  rw [lineOf_eq stampOf_zero (formatMessage_nil "m"), Json.written, if_neg]
  · rfl
  · intro hshort
    have hnames : (Entries.names [("k", Json.int n)]).Nodup := List.nodup_singleton "k"
    have hk : isShort (.int n) = true :=
      ((every_lineMembers_iff (by exact hnames)).mp hshort).2 "k" (.int n) rfl
    rw [hlong] at hk
    cases hk

/-- Nor can it be put into a message in decimal digits. -/
theorem formatMessage_long {n : Nat} (h : Number.isWritable n = false) :
    formatMessage "%d" [.int n] = .error (.raised Number.unwritableFault) := by
  have hrender : Directive.render { Directive.bare with conversion := 'd' } 0 (.int n) =
      .error (.raised Number.unwritableFault) := by
    change Directive.integer { Directive.bare with conversion := 'd' } 10 [] n = _
    simp [Directive.integer, Directive.bare, Directive.finest, h]
  have hformat : formatMessage "%d" [.int n] =
      ((Directive.render { Directive.bare with conversion := 'd' } 0 (.int n) >>= fun shown =>
        (formatFrom 2 1 [] ⟨[], none⟩ >>= fun rest => pure (shown ++ rest))).map
          String.ofList) := rfl
  rw [hformat, hrender]
  rfl

/-- Some records become no line: if an argument does not fit, if the moment lies behind the last
year, or if an integer has too many digits.  And two codes that would make a pair are written like
the character of the pair. -/
theorem lines_lost :
    let long : Int := (Number.tenTo Number.longestNumeral : Nat)
    let line (created : Int) (format : String) (arguments : List Datum) (extra : Entries Json) :=
      (lineOf .universal (.int created) (.ok "INFO") (.text "n") (formatMessage format arguments)
        (carriedBy (some extra)) none).toOption
    line 0 "%d" [.text "x"] [] = none ∧ line 253402300800 "m" [] [] = none ∧
      line 0 "m" [] [("k", .int long)] = none ∧ line 0 "%d" [.int long] [] = none ∧
      line 0 (String.ofList [Text.standIn 0xd83d, Text.standIn 0xde00]) [] [] =
        line 0 "😀" [] [] ∧
      String.ofList [Text.standIn 0xd83d, Text.standIn 0xde00] ≠ "😀" := by
  intro long line
  have hlong : Number.isWritable long = false := isWritable_of_long (Nat.le_refl _)
  have hunfit : line 0 "%d" [.int long] [] = none := by
    have hformat : formatMessage "%d" [.int long] = .error (.raised Number.unwritableFault) :=
      formatMessage_long hlong
    simp only [line, lineOf, stampOf_zero, hformat]
    rfl
  exact ⟨by decide +kernel, by decide +kernel, lineOf_long hlong, hunfit, by decide +kernel,
    by decide⟩

end Law

end Log

end ScriptHost
