import ScriptHost.Proofs.Command.Planner

/-!
# The references that are shown

What is shown as the default references of a configuration are the references with which all its
executions begin, each as a person reads it when it is taken for markup: a reference without
brackets and colons in which nothing moves the cursor is shown as it is, a reference with a tag in
it is not.

## Main results

* `shown_of_no_markup` — a text without markup is shown as it is.
* `defaults_of_task` — what is shown as the default references of a configuration.
-/

namespace ScriptHost

namespace Command

open Console (shown)

/-- Texts with their numbers, from a number on. -/
def numberedRows : Nat → List String → List (List String)
  | _, [] => []
  | n, text :: texts => [Number.natText n, text] :: numberedRows (n + 1) texts

/-- The rows of a numbered list are numbered texts, and each text is an item as it is shown. -/
theorem numbered_eq (n : Nat) (items : List String) :
    numbered n items = (items.mapM shown).map (numberedRows n) := by
  induction items generalizing n with
  | nil => rfl
  | cons item items ih =>
      rw [numbered, ih, List.mapM_cons]
      cases shown item with
      | error f => rfl
      | ok text =>
          cases items.mapM shown with
          | error f => rfl
          | ok texts => rfl

/-- Items that are shown as they are are shown so in a row. -/
theorem mapM_shown_of_plain {items : List String} (h : ∀ s ∈ items, shown s = .ok s) :
    items.mapM shown = .ok items := by
  induction items with
  | nil => rfl
  | cons item items ih =>
      rw [List.mapM_cons, h item List.mem_cons_self,
        ih fun s hs => h s (List.mem_cons_of_mem item hs)]
      rfl

/-- A still text without brackets and colons has no markup, and is shown as it is. -/
theorem shown_of_no_markup {s : String} (hbracket : '[' ∉ s.toList) (hcolon : ':' ∉ s.toList)
    (hstill : Console.isStill s.toList = true) : shown s = .ok s := by
  have htext : Console.plainText Console.withPictures s = .ok s := by
    rw [Console.plainText_of_no_bracket Console.withPictures hbracket rfl,
      Console.withPictures_of_no_colon hcolon, String.ofList_toList]
  have hstyles : Console.checkStyles s = .ok () := by
    rw [Console.checkStyles, Console.markupPieces, Console.piecesFrom_of_no_bracket hbracket,
      Console.plainBefore]
    split
    · rfl
    · rfl
  have hkept : Console.asText s = s := by
    rw [Console.asText, Console.still_eq_self_iff.mpr hstill, String.ofList_toList]
  rw [shown, htext]
  change (Console.checkStyles s >>= fun _ => pure (Console.asText s)) = _
  rw [hstyles, hkept]
  rfl

theorem shown_platform {s : String} (h : s ∈ ReferenceSet.platform) : shown s = .ok s := by
  have hplain : ∀ s ∈ ReferenceSet.platform,
      '[' ∉ s.toList ∧ ':' ∉ s.toList ∧ Console.isStill s.toList = true := by decide +kernel
  obtain ⟨hbracket, hcolon, hstill⟩ := hplain s h
  exact shown_of_no_markup hbracket hcolon hstill

/-- If the host's own artifacts and the references of a configuration are shown as they are, so are
all that its executions begin with. -/
theorem shown_startReferences {home : String} {c : Configuration}
    (h : ∀ s ∈ Artifact.core home :: Artifact.contracts home :: c.execution.references,
      shown s = .ok s) :
    (startReferences home c).mapM shown = .ok (startReferences home c) := by
  apply mapM_shown_of_plain
  intro s hs
  have hs := Sequence.mem_distinct.mp hs
  rw [ReferenceSet.builtIn, List.append_assoc] at hs
  rcases List.mem_append.mp hs with hplatform | hs
  · exact shown_platform hplatform
  · exact h s hs

/-- What is shown as the default references of a configuration are its first references, each as it
is shown. -/
theorem defaults_of_task {w : Surroundings} {d : Disk} {m : Manner} {c : Configuration}
    {o : Outcome} (hconfiguration : configuration w d m.configuration = .ok c)
    (h : showDefaults w d m = .ok o) :
    ∃ texts, (startReferences w.home c).mapM shown = .ok texts ∧
      o.printed.head? =
        some (.table "Default references" ["#", "Reference"] (numberedRows 1 texts)) := by
  obtain ⟨c', hc', h⟩ := exists_of_bind_ok h
  cases hconfiguration.symm.trans hc'
  obtain ⟨e, he, h⟩ := exists_of_bind_ok h
  obtain ⟨references, hreferences, h⟩ := exists_of_bind_ok h
  have hlist : e.references.paths.toList = startReferences w.home c := by
    rw [(environment_of_executor he).1]
    exact Sequence.OrderedSet.toList_ofList _
  have htable := eq_ok_of_orRefuse hreferences
  rw [hlist, numberedTable, numbered_eq] at htable
  cases htexts : (startReferences w.home c).mapM shown with
  | error f =>
      rw [htexts] at htable
      cases htable
  | ok texts =>
      rw [htexts] at htable
      cases htable
      refine ⟨texts, rfl, ?_⟩
      split at h
      · cases h
        rfl
      · cases h
        rfl

end Command

end ScriptHost
