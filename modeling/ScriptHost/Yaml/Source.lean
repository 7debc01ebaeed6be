import ScriptHost.Yaml.Cursor

/-!
# Sources of documents

A document is read step by step, two steps ahead of the place where its tokens are told apart.
A character that may not stand in a document, or bytes that are no text, are therefore noticed
only when the reading comes near them: what is wrong further in front is found first.

## Main results

* `ofChars_allowed` — nothing stands in the way of a text whose characters are all allowed.
-/

namespace ScriptHost.Yaml

/-- The characters of a document that can be read, and what keeps the rest from being read. -/
structure Source where
  chars : List Char
  failure? : Option Failure

namespace Source

/-- How many characters are read in one step. -/
def stepLength : Nat := 4096

/-- The source of characters that are read up to a step, in which a failure lies. -/
def upTo (cs : List Char) (step : Nat) (failure : Failure) : Source :=
  if step ≤ 1 then ⟨[], some failure⟩ else ⟨cs.take (step * stepLength), some failure⟩

/-- The source of the characters of a text, and what keeps more of them from being read. -/
def ofChars (cs : List Char) (broken? : Option Failure) : Source :=
  let last := cs.length / stepLength
  let strange? := (cs.findIdx? fun c => !isAllowed c).map (· / stepLength)
  match broken?, strange? with
  | none, none => ⟨cs, none⟩
  | some failure, none => upTo cs last failure
  | none, some step => upTo cs step .malformedDocument
  | some failure, some step =>
    if last ≤ 1 ∨ last ≤ step then upTo cs last failure else upTo cs step .malformedDocument

theorem ofChars_allowed {cs : List Char} (h : ∀ c ∈ cs, isAllowed c = true) :
    ofChars cs none = ⟨cs, none⟩ := by
  have hnone : cs.findIdx? (fun c => !isAllowed c) = none := by
    rw [List.findIdx?_eq_none_iff]
    intro c hc
    simp [h c hc]
  simp [ofChars, hnone]

end Source

end ScriptHost.Yaml
