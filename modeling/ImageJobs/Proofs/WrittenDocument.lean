import ImageJobs.Proofs.SpelledTexts
import ImageJobs.Proofs.WrittenNumbers

/-! Documents that were written are read back: `ofChars?_write` says that reading undoes writing for
every value whose texts and names are all of characters. The induction is on that predicate, and
carries that a value is read up to its last character. -/

namespace ImageJobs.Json

/-- All texts and names in the value are of characters. -/
inductive Readable : Json → Prop where
  | null : Readable .null
  | bool (value : Bool) : Readable (.bool value)
  | number (numeral : Numeral) : Readable (.number numeral)
  | string (value : String) : Readable (.string value)
  | array (each : ∀ item ∈ items, Readable item) : Readable (.array items)
  | object (each : ∀ member ∈ members, Readable member.2) : Readable (.object members)

/-- The character starts a value: it is no blank and closes nothing. -/
def StartsValue (char : Char) : Prop :=
  isSpace char = false ∧ char ≠ ']' ∧ char ≠ '\x7d'

instance : DecidablePred StartsValue :=
  fun _ => inferInstanceAs (Decidable (_ ∧ _))

theorem startsValue_of_isDigit {char : Char} (digit : char.isDigit = true) : StartsValue char := by
  refine ⟨?_, ne_of_isDigit digit rfl, ne_of_isDigit digit rfl⟩
  simp only [isSpace, Bool.or_eq_false_iff, beq_eq_false_iff_ne]
  exact ⟨⟨⟨ne_of_isDigit digit rfl, ne_of_isDigit digit rfl⟩, ne_of_isDigit digit rfl⟩,
    ne_of_isDigit digit rfl⟩

/-- A written number starts with its sign or with a digit. -/
theorem exists_write_numeral_eq_cons (numeral : Numeral) :
    ∃ head tail, numeral.write = head :: tail ∧ (head = '-' ∨ head.isDigit = true) := by
  obtain ⟨head, tail, written, digit⟩ := exists_decimal_eq_cons numeral.whole
  rw [write_numeral]
  cases numeral.negative with
  | true => exact ⟨'-', _, rfl, .inl rfl⟩
  | false => exact ⟨head, _, by rw [written]; rfl, .inr digit⟩

theorem exists_write_eq_cons (value : Json) :
    ∃ head tail, value.write = head :: tail ∧ StartsValue head := by
  cases value with
  | bool value => cases value <;> exact ⟨_, _, rfl, by decide⟩
  | number numeral =>
    obtain ⟨head, tail, written, starts⟩ := exists_write_numeral_eq_cons numeral
    refine ⟨head, tail, by rw [write, written], ?_⟩
    rcases starts with rfl | digit
    · decide
    · exact startsValue_of_isDigit digit
  | null | string | unreadable | array | object | brokenObject =>
    exact ⟨_, _, rfl, by decide⟩

theorem skipSpace_cons {head : Char} (starts : isSpace head = false) (tail : List Char) :
    skipSpace (head :: tail) = head :: tail := by
  simp [skipSpace, starts]

/-- What follows a value inside a list or an object does not belong to a number. -/
theorem endsNumber_cons {mark : Char} (separates : mark = ',' ∨ mark = ']' ∨ mark = '\x7d')
    (rest : List Char) : EndsNumber (mark :: rest) := by
  intro char member
  obtain rfl : mark = char := Option.some.inj member
  rcases separates with rfl | rfl | rfl <;> decide

/-- The value is read from its written form and what follows is left, given a unit of fuel less than
twice the characters. -/
def ReadBack (value : Json) : Prop :=
  ∀ fuel rest, 2 * value.write.length ≤ fuel + 1 → EndsNumber rest →
    readValue fuel (value.write ++ rest) = some (value, rest)

theorem readValue_number (fuel : Nat) {head : Char} (starts : head = '-' ∨ head.isDigit = true)
    (tail : List Char) :
    readValue (fuel + 1) (head :: tail) =
      (readNumeral (head :: tail)).map fun (numeral, rest) => (.number numeral, rest) := by
  have noSpace : isSpace head = false := by
    rcases starts with rfl | digit
    · rfl
    · exact (startsValue_of_isDigit digit).1
  have other : ∀ mark, mark ≠ '-' → mark.isDigit = false → head ≠ mark := by
    rintro mark noSign noDigit rfl
    rcases starts with sign | digit
    · exact noSign sign
    · exact ne_of_isDigit digit noDigit rfl
  rw [readValue, skipSpace_cons noSpace]
  split
  · rename_i same
    exact absurd (List.cons.inj same).1 (other 'n' (by decide) rfl)
  · rename_i same
    exact absurd (List.cons.inj same).1 (other 't' (by decide) rfl)
  · rename_i same
    exact absurd (List.cons.inj same).1 (other 'f' (by decide) rfl)
  · rename_i same
    exact absurd (List.cons.inj same).1 (other '"' (by decide) rfl)
  · rename_i same
    exact absurd (List.cons.inj same).1 (other '[' (by decide) rfl)
  · rename_i same
    exact absurd (List.cons.inj same).1 (other '\x7b' (by decide) rfl)
  · rfl

theorem readBack_number (numeral : Numeral) : ReadBack (.number numeral) := by
  intro fuel rest enough ends
  obtain ⟨head, tail, written, starts⟩ := exists_write_numeral_eq_cons numeral
  have read := readNumeral_write numeral ends
  rw [write, written] at enough ⊢
  rw [written] at read
  cases fuel with
  | zero =>
    rw [List.length_cons] at enough
    omega
  | succ fuel =>
    rw [List.cons_append] at read ⊢
    rw [readValue_number fuel starts, read, Option.map_some]

theorem readItems_write {items : List Json} (each : ∀ item ∈ items, ReadBack item)
    (nonempty : items ≠ []) {fuel : Nat} (rest : List Char)
    (enough : 2 * (writeItems items).length ≤ fuel) :
    readItems fuel (writeItems items ++ rest) = some (items, rest) := by
  induction items generalizing fuel with
  | nil => exact absurd rfl nonempty
  | cons item others ih =>
    cases fuel with
    | zero => cases others <;> simp [writeItems] at enough
    | succ fuel =>
      have readItem := each item (by simp)
      cases others with
      | nil =>
        simp only [writeItems, List.length_append, List.length_singleton] at enough
        have first := readItem fuel (']' :: rest) (by omega) (endsNumber_cons (by simp) _)
        simp only [writeItems, List.append_assoc, List.singleton_append, readItems, first,
          Option.bind_eq_bind, Option.bind_some]
        rfl
      | cons next later =>
        simp only [writeItems, List.length_append, List.length_cons] at enough
        have first := readItem fuel (',' :: (writeItems (next :: later) ++ rest)) (by omega)
          (endsNumber_cons (by simp) _)
        have others : readItems fuel (writeItems (next :: later) ++ rest) =
            some (next :: later, rest) :=
          ih (fun other member => each other (List.mem_cons_of_mem _ member)) (by simp) (by omega)
        simp only [writeItems, List.append_assoc, List.cons_append, readItems, first,
          Option.bind_eq_bind, Option.bind_some]
        rw [skipSpace_cons (by decide)]
        simp only [others, Option.bind_some]
        rfl

theorem readMembers_write {members : List (String × Json)}
    (each : ∀ member ∈ members, ReadBack member.2) (nonempty : members ≠ []) {fuel : Nat}
    (rest : List Char) (enough : 2 * (writeMembers members).length ≤ fuel) :
    readMembers fuel (writeMembers members ++ rest) =
      some (members.map fun member => (some member.1, member.2), rest) := by
  induction members generalizing fuel with
  | nil => exact absurd rfl nonempty
  | cons member others ih =>
    obtain ⟨name, value⟩ := member
    cases fuel with
    | zero => cases others <;> simp [writeMembers] at enough
    | succ fuel =>
      have readMember : ReadBack value := each (name, value) (by simp)
      cases others with
      | nil =>
        simp only [writeMembers, List.length_append, List.length_cons] at enough
        have first := readMember fuel ('\x7d' :: rest) (by omega) (endsNumber_cons (by simp) _)
        have named := readText_write name (':' :: (value.write ++ '\x7d' :: rest))
        simp only [writeMembers, writeText, List.append_assoc, List.cons_append, List.nil_append,
          readMembers]
        rw [skipSpace_cons (by decide)]
        simp only [named, Option.bind_eq_bind, Option.bind_some]
        rw [skipSpace_cons (by decide)]
        simp only [first, Option.bind_some]
        rfl
      | cons next later =>
        simp only [writeMembers, List.length_append, List.length_cons] at enough
        have first := readMember fuel (',' :: (writeMembers (next :: later) ++ rest)) (by omega)
          (endsNumber_cons (by simp) _)
        have named := readText_write name
          (':' :: (value.write ++ ',' :: (writeMembers (next :: later) ++ rest)))
        have others : readMembers fuel (writeMembers (next :: later) ++ rest) =
            some ((next :: later).map fun member => (some member.1, member.2), rest) :=
          ih (fun other member => each other (List.mem_cons_of_mem _ member)) (by simp) (by omega)
        simp only [writeMembers, writeText, List.append_assoc, List.cons_append, List.nil_append,
          readMembers]
        rw [skipSpace_cons (by decide)]
        simp only [named, Option.bind_eq_bind, Option.bind_some]
        rw [skipSpace_cons (by decide)]
        simp only [first, Option.bind_some]
        rw [skipSpace_cons (by decide)]
        simp only [others, Option.bind_some]
        rfl

/-- Names that all denote characters make an object of the members. -/
theorem ofMembers_readable (members : List (String × Json)) :
    ofMembers (members.map fun member => (some member.1, member.2)) = .object members := by
  have names : ∀ members : List (String × Json),
      readableMembers (members.map fun member => (some member.1, member.2)) = members := by
    intro members
    induction members with
    | nil => rfl
    | cons member others ih => simp only [List.map_cons, readableMembers, ih]
  simp [ofMembers, names]

theorem exists_writeItems_eq_cons {items : List Json} (nonempty : items ≠ []) :
    ∃ head tail, writeItems items = head :: tail ∧ StartsValue head := by
  match items with
  | [] => exact absurd rfl nonempty
  | [item] =>
    obtain ⟨head, tail, written, starts⟩ := exists_write_eq_cons item
    exact ⟨head, _, by rw [writeItems, written, List.cons_append], starts⟩
  | item :: next :: others =>
    obtain ⟨head, tail, written, starts⟩ := exists_write_eq_cons item
    exact ⟨head, _, by rw [writeItems, written, List.cons_append], starts⟩

theorem exists_writeMembers_eq_cons {members : List (String × Json)} (nonempty : members ≠ []) :
    ∃ tail, writeMembers members = '"' :: tail := by
  match members with
  | [] => exact absurd rfl nonempty
  | [(name, value)] => exact ⟨_, rfl⟩
  | (name, value) :: next :: others => exact ⟨_, rfl⟩

theorem readBack_array {items : List Json} (each : ∀ item ∈ items, ReadBack item) :
    ReadBack (.array items) := by
  intro fuel rest enough ends
  rw [write, List.length_cons] at enough
  rw [write, List.cons_append]
  cases fuel with
  | zero => omega
  | succ fuel =>
    rw [readValue, skipSpace_cons (by decide)]
    by_cases nonempty : items = []
    · subst items
      rfl
    · obtain ⟨head, tail, written, starts⟩ := exists_writeItems_eq_cons nonempty
      have read : readItems fuel (writeItems items ++ rest) = some (items, rest) :=
        readItems_write each nonempty rest (by omega)
      rw [written, List.cons_append] at read ⊢
      simp only
      rw [skipSpace_cons starts.1]
      split
      · rename_i closed
        exact absurd (List.cons.inj closed).1 starts.2.1
      · rw [read, Option.map_some]

theorem readBack_object {members : List (String × Json)}
    (each : ∀ member ∈ members, ReadBack member.2) : ReadBack (.object members) := by
  intro fuel rest enough ends
  rw [write, List.length_cons] at enough
  rw [write, List.cons_append]
  cases fuel with
  | zero => omega
  | succ fuel =>
    rw [readValue, skipSpace_cons (by decide)]
    by_cases nonempty : members = []
    · subst members
      rfl
    · obtain ⟨tail, written⟩ := exists_writeMembers_eq_cons nonempty
      have read : readMembers fuel (writeMembers members ++ rest) =
          some (members.map fun member => (some member.1, member.2), rest) :=
        readMembers_write each nonempty rest (by omega)
      rw [written, List.cons_append] at read ⊢
      simp only
      rw [skipSpace_cons (by decide)]
      simp only [read, Option.map_some, ofMembers_readable]
      rfl

theorem Readable.readBack {value : Json} (readable : Readable value) : ReadBack value := by
  induction readable with
  | null =>
    intro fuel rest enough ends
    cases fuel with
    | zero => simp [write] at enough
    | succ fuel => rfl
  | bool value =>
    intro fuel rest enough ends
    cases fuel with
    | zero => cases value <;> simp [write] at enough
    | succ fuel => cases value <;> rfl
  | number numeral => exact readBack_number numeral
  | string value =>
    intro fuel rest enough ends
    cases fuel with
    | zero =>
      simp only [write, writeText, List.length_append, List.length_cons] at enough
      omega
    | succ fuel =>
      have text := readText_write value rest
      rw [write, writeText, List.cons_append, List.cons_append, List.append_assoc, readValue,
        skipSpace_cons (by decide)]
      simp only [List.singleton_append, text, Option.map_some]
      rfl
  | array _ each => exact readBack_array each
  | object _ each => exact readBack_object each

/-- The document that was written is read back. -/
theorem ofChars?_write {value : Json} (readable : Readable value) :
    ofChars? value.write = some value := by
  have read := readable.readBack (2 * value.write.length + 2) [] (by omega) (by simp [EndsNumber])
  rw [List.append_nil] at read
  simp only [ofChars?, read]
  rfl

theorem parse?_render {value : Json} (readable : Readable value) :
    parse? value.render = some value := by
  rw [parse?, render, String.toList_ofList]
  exact ofChars?_write readable

end ImageJobs.Json
