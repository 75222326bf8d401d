import ImageJobs.Image.PullDecision
import ImageJobs.Proofs.WrittenDocument

namespace ImageJobs

/-- A document that spells a text is read as that text is. -/
theorem Reading.parse_of_spellsText {α : Type} (read : Reading α) {document value : String}
    (spells : Json.SpellsText value document.toList) :
    Reading.parse read document = (read (.string value)).mapError Fault.inText := by
  rw [Reading.parse, Json.parse?_eq_string_iff.mpr spells]

namespace PullPolicy

/-- A text is one policy at most, the one with that name. -/
theorem parse?_eq_some_iff {value : String} {policy : PullPolicy} :
    parse? value = some policy ↔ value = policy.name := by
  unfold parse?
  split
  · rename_i always
    subst always
    cases policy <;> simp [name]
  · split
    · rename_i ifNotPresent
      subst ifNotPresent
      cases policy <;> simp [name]
    · cases policy <;> simp_all [name]

/-- The choices of a document are the policies under their names. -/
theorem lookup_choices (value : String) : choices.lookup value = parse? value := by
  unfold parse? choices identifier
  by_cases always : value = "Always"
  · rw [if_pos always, List.lookup_cons, beq_iff_eq.mpr always]
  rw [if_neg always, List.lookup_cons, beq_false_of_ne always]
  by_cases ifNotPresent : value = "IfNotPresent"
  · simp only [ifNotPresent, List.lookup_cons, beq_self_eq_true, ↓reduceIte]
  · simp only [ifNotPresent, List.lookup_cons, beq_false_of_ne ifNotPresent, List.lookup_nil,
      ↓reduceIte]

/-- Each policy that a text names is read from any spelling of it. -/
theorem parse_of_some {document value : String} {policy : PullPolicy}
    (spells : Json.SpellsText value document.toList) (named : parse? value = some policy) :
    Reading.parse read document = .ok policy := by
  rw [Reading.parse_of_spellsText read spells]
  simp only [read, Reading.choice, Reading.chosen, lookup_choices, named, Except.mapError]

/-- A text without a policy is refused with the names that it could have been. -/
theorem parse_of_none {document value : String}
    (spells : Json.SpellsText value document.toList) (unnamed : parse? value = none) :
    Reading.parse read document =
      .error (.unknownChoice value ["Always", "IfNotPresent"]) := by
  rw [Reading.parse_of_spellsText read spells]
  simp only [read, Reading.choice, Reading.chosen, lookup_choices, unnamed, Except.mapError]
  rfl

/-- Documents and containers know a policy by the same text. -/
theorem identifier_eq_name (policy : PullPolicy) : policy.identifier = policy.name := by
  cases policy <;> rfl

theorem render_toJson (policy : PullPolicy) :
    policy.toJson.render = "\"" ++ policy.name ++ "\"" := by
  cases policy <;> decide

/-- The written form of a policy is one spelling of its name. -/
theorem parse_render (policy : PullPolicy) :
    Reading.parse read policy.toJson.render = .ok policy := by
  have spells : Json.SpellsText policy.name policy.toJson.render.toList := by
    rw [toJson, identifier_eq_name]
    exact Json.parse?_eq_string_iff.mp (Json.parse?_render (.string policy.name))
  exact parse_of_some spells (parse?_eq_some_iff.mpr rfl)

/-- Reading a document that spells a text gives the policy that the text names, and without such a
policy fails for the unknown name alone. So both forms come to the same policy of the container,
and to the same line of the log. What is written of a policy is its name between quotes, and both
readers take the name back. -/
theorem document_agrees_with_text :
    (∀ value document : String, Json.SpellsText value document.toList →
      (∀ policy, Reading.parse read document = .ok policy ↔ parse? value = some policy) ∧
      (∀ fault, Reading.parse read document = .error fault ↔
        fault = .unknownChoice value ["Always", "IfNotPresent"] ∧ parse? value = none) ∧
      ∀ image, ofRequest (Reading.parse read document).toOption image =
        ofRequest (parse? value) image) ∧
    ∀ policy : PullPolicy, policy.toJson.render = "\"" ++ policy.name ++ "\"" ∧
      parse? policy.name = some policy ∧
      Reading.parse read policy.toJson.render = .ok policy := by
  refine ⟨fun value document spells => ?_, fun policy =>
    ⟨render_toJson policy, parse?_eq_some_iff.mpr rfl, parse_render policy⟩⟩
  cases looked : parse? value with
  | some named =>
    rw [parse_of_some spells looked]
    refine ⟨fun policy => ?_, fun fault => ?_, fun image => rfl⟩
    · rw [Except.ok.injEq, Option.some.injEq]
    · simp
  | none =>
    rw [parse_of_none spells looked]
    refine ⟨fun policy => ?_, fun fault => ?_, fun image => rfl⟩
    · simp
    · rw [Except.error.injEq, and_iff_left rfl, eq_comm]

/-- An escaped letter is the letter, with blanks around the quotes or not, and a name with another
first letter is no policy at all. -/
theorem escaped_name_is_policy :
    Json.SpellsText "Always" " \"\\u0041lways\"\n".toList ∧
    Reading.parse read " \"\\u0041lways\"\n" = .ok .always ∧
    Json.SpellsText "always" "\"always\"".toList ∧
    Reading.parse read "\"always\"" =
      .error (.unknownChoice "always" ["Always", "IfNotPresent"]) := by
  have rest : Json.Spelling ['l', 'w', 'a', 'y', 's'] ['l', 'w', 'a', 'y', 's'] :=
    Json.Spelling.self (by simp)
  have escaped : Json.SpellsText "Always" " \"\\u0041lways\"\n".toList :=
    @Json.SpellsText.quoted "Always" [' '] _ ['\n'] (by simp [Json.Blank])
      (.cons (.code (Json.unit?_eq_some_iff.mp rfl)) rest) (by simp [Json.Blank])
  have small : Json.SpellsText "always" "\"always\"".toList :=
    @Json.SpellsText.quoted "always" [] _ [] (by simp [Json.Blank])
      (.cons (.itself (by decide) (by decide) (by decide)) rest) (by simp [Json.Blank])
  exact ⟨escaped, ((document_agrees_with_text.1 _ _ escaped).1 .always).mpr rfl, small,
    ((document_agrees_with_text.1 _ _ small).2.1 _).mpr ⟨rfl, rfl⟩⟩

end PullPolicy

end ImageJobs
