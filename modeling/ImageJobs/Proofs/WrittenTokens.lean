import ImageJobs.Json.Writer
import ImageJobs.Proofs.Occurrence

/-! The written form of JSON as a row of tokens. Quotes stand only around texts and the names of
members, and a colon only behind such a name, so a run of characters that has one of these marks in
it but no quote can be found nowhere but inside a text or a name. -/

namespace ImageJobs.Json

/-- The characters that a written text shows by an escape. -/
def IsEscaped (char : Char) : Prop :=
  char = '"' ∨ char = '\\' ∨ char.toNat < 0x20

theorem escapeChar_eq_self {char : Char} (plain : ¬IsEscaped char) : escapeChar char = [char] := by
  simp only [IsEscaped, not_or] at plain
  unfold escapeChar
  split <;> simp_all

theorem escapeChar_ne_nil (char : Char) : escapeChar char ≠ [] := by
  unfold escapeChar
  split <;> simp
  split <;> simp

theorem escape_eq_self {text : List Char} (plain : ∀ char ∈ text, ¬IsEscaped char) :
    escape text = text := by
  induction text with
  | nil => rfl
  | cons head tail ih =>
    have first := escapeChar_eq_self (plain head (by simp))
    have rest := ih fun char member => plain char (by simp [member])
    simp only [escape] at rest ⊢
    rw [List.flatMap_cons, first, rest, List.singleton_append]

theorem escape_append (left right : List Char) :
    escape (left ++ right) = escape left ++ escape right :=
  List.flatMap_append

theorem length_le_escape (text : List Char) : text.length ≤ (escape text).length := by
  induction text with
  | nil => simp
  | cons head tail ih =>
    have first := List.length_pos_iff.mpr (escapeChar_ne_nil head)
    simp only [escape] at ih
    simp only [escape, List.flatMap_cons, List.length_cons, List.length_append]
    omega

/-- A part of the written form. -/
inductive Token where
  /-- Punctuation, a number or a word. -/
  | mark (chars : List Char)
  /-- The name of a member and the colon behind it. -/
  | key (name : String)
  | text (value : String)

namespace Token

def spell : Token → List Char
  | .mark chars => chars
  | .key name => writeText name ++ [':']
  | .text value => writeText value

/-- What the token holds between quotes. -/
def quoted? : Token → Option String
  | .mark _ => none
  | .key name => some name
  | .text value => some value

/-- The token with another text in place of a text. -/
def rewrite (change : String → String) : Token → Token
  | .text value => .text (change value)
  | token => token

end Token

mutual

def tokens : Json → List Token
  | .string value => [.text value]
  | .array items => .mark ['['] :: itemTokens items
  | .object members => .mark ['\x7b'] :: memberTokens members
  | value => [.mark value.write]

def itemTokens : List Json → List Token
  | [] => [.mark [']']]
  | [item] => item.tokens ++ [.mark [']']]
  | item :: next :: rest => item.tokens ++ .mark [','] :: itemTokens (next :: rest)

def memberTokens : List (String × Json) → List Token
  | [] => [.mark ['\x7d']]
  | [(name, value)] => .key name :: value.tokens ++ [.mark ['\x7d']]
  | (name, value) :: next :: rest =>
    .key name :: value.tokens ++ .mark [','] :: memberTokens (next :: rest)

end

mutual

theorem write_eq_spell : (value : Json) → value.write = value.tokens.flatMap Token.spell
  | .null | .bool _ | .number _ | .unreadable | .brokenObject _ => by simp [tokens, Token.spell]
  | .string value => by simp [tokens, write, Token.spell]
  | .array items => by simp [tokens, write, Token.spell, writeItems_eq_spell items]
  | .object members => by simp [tokens, write, Token.spell, writeMembers_eq_spell members]

theorem writeItems_eq_spell :
    (items : List Json) → writeItems items = (itemTokens items).flatMap Token.spell
  | [] => by simp [itemTokens, writeItems, Token.spell]
  | [item] => by simp [itemTokens, writeItems, Token.spell, write_eq_spell item]
  | item :: next :: rest => by
    simp [itemTokens, writeItems, Token.spell, write_eq_spell item,
      writeItems_eq_spell (next :: rest)]

theorem writeMembers_eq_spell : (members : List (String × Json)) →
    writeMembers members = (memberTokens members).flatMap Token.spell
  | [] => by simp [memberTokens, writeMembers, Token.spell]
  | [(name, value)] => by simp [memberTokens, writeMembers, Token.spell, write_eq_spell value]
  | (name, value) :: next :: rest => by
    simp [memberTokens, writeMembers, Token.spell, write_eq_spell value,
      writeMembers_eq_spell (next :: rest)]

end

/-- The texts and the names of members, in the order in which they are written. -/
def quotedTexts (value : Json) : List String :=
  value.tokens.filterMap Token.quoted?

@[simp] theorem quotedTexts_string (value : String) : quotedTexts (.string value) = [value] := by
  simp [quotedTexts, tokens, Token.quoted?]

@[simp] theorem quotedTexts_number (value : Numeral) : quotedTexts (.number value) = [] := by
  simp [quotedTexts, tokens, Token.quoted?]

private theorem quotedTexts_items : (items : List Json) →
    (itemTokens items).filterMap Token.quoted? = items.flatMap quotedTexts
  | [] => by simp [itemTokens, List.filterMap_cons, Token.quoted?]
  | [item] => by simp [itemTokens, quotedTexts, List.filterMap_cons, Token.quoted?]
  | item :: next :: rest => by
    have later := quotedTexts_items (next :: rest)
    simp [itemTokens, quotedTexts, List.filterMap_cons, Token.quoted?, later]

private theorem quotedTexts_members : (members : List (String × Json)) →
    (memberTokens members).filterMap Token.quoted? =
      members.flatMap fun member => member.1 :: quotedTexts member.2
  | [] => by simp [memberTokens, List.filterMap_cons, Token.quoted?]
  | [(name, value)] => by
    simp [memberTokens, quotedTexts, List.filterMap_cons, Token.quoted?]
  | (name, value) :: next :: rest => by
    have later := quotedTexts_members (next :: rest)
    simp [memberTokens, quotedTexts, List.filterMap_cons, Token.quoted?, later]

@[simp] theorem quotedTexts_array (items : List Json) :
    quotedTexts (.array items) = items.flatMap quotedTexts := by
  rw [← quotedTexts_items]
  simp [quotedTexts, tokens, List.filterMap_cons, Token.quoted?]

@[simp] theorem quotedTexts_object (members : List (String × Json)) :
    quotedTexts (.object members) =
      members.flatMap fun member => member.1 :: quotedTexts member.2 := by
  rw [← quotedTexts_members]
  simp [quotedTexts, tokens, List.filterMap_cons, Token.quoted?]

/-- Where each item is changed by another text in place of each of its texts, so is the list. -/
theorem itemTokens_rewrite {τ : Type} (new old : τ → Json) (change : String → String) :
    (items : List τ) →
      (∀ item ∈ items, (new item).tokens = (old item).tokens.map (Token.rewrite change)) →
      itemTokens (items.map new) = (itemTokens (items.map old)).map (Token.rewrite change)
  | [], _ => by simp [itemTokens, Token.rewrite]
  | [item], same => by simp [itemTokens, Token.rewrite, same item]
  | item :: next :: rest, same => by
    have later := itemTokens_rewrite new old change (next :: rest) fun other member =>
      same other (by simp [List.mem_cons.mp member])
    simp only [List.map_cons] at later
    simp [itemTokens, Token.rewrite, same item, later]

/-- The token has no anchor among its marks. -/
def Token.Plain : Token → Prop
  | .mark chars => ':' ∉ chars ∧ '@' ∉ chars
  | _ => True

private theorem plain_decimal (value : Nat) : ':' ∉ decimal value ∧ '@' ∉ decimal value := by
  have digits : ∀ char ∈ decimal value, char.isDigit = true :=
    fun char member => Nat.isDigit_of_mem_toDigits (by decide) (by decide) member
  exact ⟨fun colon => absurd (digits _ colon) (by decide),
    fun sign => absurd (digits _ sign) (by decide)⟩

private theorem plain_decimalInt (value : Int) :
    ':' ∉ decimalInt value ∧ '@' ∉ decimalInt value := by
  unfold decimalInt
  split <;> simp [plain_decimal]

private theorem plain_numeral (numeral : Numeral) :
    ':' ∉ numeral.write ∧ '@' ∉ numeral.write := by
  have fraction : ∀ digit : Fin 10, digit.val.digitChar ≠ ':' ∧ digit.val.digitChar ≠ '@' := by
    decide
  obtain ⟨negative, whole, fractionDigits, exponent⟩ := numeral
  have each : ∀ char ∈ fractionDigits.map (fun digit => digit.val.digitChar),
      char ≠ ':' ∧ char ≠ '@' := by
    intro char member
    obtain ⟨digit, _, rfl⟩ := List.mem_map.mp member
    exact fraction digit
  have point : ':' ∉ fractionDigits.map (fun digit => digit.val.digitChar) ∧
      '@' ∉ fractionDigits.map (fun digit => digit.val.digitChar) :=
    ⟨fun colon => (each _ colon).1 rfl, fun sign => (each _ sign).2 rfl⟩
  have power := plain_decimalInt (exponent.getD 0)
  have front := plain_decimal whole
  cases negative <;> cases exponent <;> by_cases none : fractionDigits.isEmpty = true <;>
    simp_all [Numeral.write]

mutual

theorem tokens_plain : (value : Json) → ∀ token ∈ value.tokens, token.Plain
  | .null | .unreadable | .brokenObject _ | .bool true | .bool false => by
    simp [tokens, write, Token.Plain]
  | .number numeral => by simpa [tokens, write, Token.Plain] using plain_numeral numeral
  | .string _ => by simp [tokens, Token.Plain]
  | .array items => by
    simpa [tokens, Token.Plain] using itemTokens_plain items
  | .object members => by
    simpa [tokens, Token.Plain] using memberTokens_plain members

theorem itemTokens_plain : (items : List Json) → ∀ token ∈ itemTokens items, token.Plain
  | [] => by simp [itemTokens, Token.Plain]
  | [item] => List.forall_mem_append.mpr ⟨tokens_plain item, by simp [Token.Plain]⟩
  | item :: next :: rest => List.forall_mem_append.mpr ⟨tokens_plain item,
      List.forall_mem_cons.mpr ⟨by simp [Token.Plain], itemTokens_plain (next :: rest)⟩⟩

theorem memberTokens_plain :
    (members : List (String × Json)) → ∀ token ∈ memberTokens members, token.Plain
  | [] => by simp [memberTokens, Token.Plain]
  | [(name, value)] => List.forall_mem_cons.mpr ⟨trivial,
      List.forall_mem_append.mpr ⟨tokens_plain value, by simp [Token.Plain]⟩⟩
  | (name, value) :: next :: rest => List.forall_mem_cons.mpr ⟨trivial,
      List.forall_mem_append.mpr ⟨tokens_plain value,
        List.forall_mem_cons.mpr ⟨by simp [Token.Plain], memberTokens_plain (next :: rest)⟩⟩⟩

end

/-- A run with a colon or an at sign in it, but no quote, and no colon at its start. -/
structure Anchored (run : List Char) : Prop where
  start : run.head? ≠ some ':'
  unquoted : '"' ∉ run
  anchor : ':' ∈ run ∨ '@' ∈ run

theorem Anchored.not_infix {run marks : List Char} (anchored : Anchored run)
    (plain : ':' ∉ marks ∧ '@' ∉ marks) : ¬run <:+: marks := by
  intro found
  rcases anchored.anchor with colon | sign
  · exact plain.1 (found.subset colon)
  · exact plain.2 (found.subset sign)

private theorem infix_colon_iff {run rest : List Char} (anchored : Anchored run) :
    run <:+: ':' :: rest ↔ run <:+: rest := by
  rw [List.infix_cons_iff]
  refine ⟨fun found => found.resolve_left fun starts => ?_, .inr⟩
  cases run with
  | nil => simpa using anchored.anchor
  | cons head tail =>
    exact anchored.start (by simp [(List.cons_prefix_cons.mp starts).1])

/-- The marks that follow each other are gathered in front, for a run may reach over several of
them. It cannot reach over a quote, nor over the colon behind a name, so the gathering starts anew
there. -/
private theorem infix_spell_iff {run : List Char} (anchored : Anchored run) (row : List Token)
    (plain : ∀ token ∈ row, token.Plain) (gathered : List Char)
    (noAnchor : ':' ∉ gathered ∧ '@' ∉ gathered) :
    run <:+: gathered ++ row.flatMap Token.spell ↔
      ∃ quoted ∈ row.filterMap Token.quoted?, run <:+: escape quoted.toList := by
  induction row generalizing gathered with
  | nil => simpa using anchored.not_infix noAnchor
  | cons token rest ih =>
    have plainRest : ∀ other ∈ rest, other.Plain :=
      fun other member => plain other (List.mem_cons_of_mem _ member)
    cases token with
    | mark chars =>
      have here : ':' ∉ chars ∧ '@' ∉ chars := plain (.mark chars) (by simp)
      have next := ih plainRest (gathered ++ chars) (by simp [noAnchor, here])
      simpa [Token.spell, List.filterMap_cons, Token.quoted?] using next
    | key name =>
      have next := ih plainRest [] (by simp)
      simp only [List.nil_append] at next
      simp only [List.flatMap_cons, Token.spell, writeText, List.append_assoc, List.cons_append,
        List.nil_append, Occurrence.infix_across_iff anchored.unquoted, infix_colon_iff anchored,
        next]
      simp [Token.quoted?, anchored.not_infix noAnchor]
    | text value =>
      have next := ih plainRest [] (by simp)
      simp only [List.nil_append] at next
      simp only [List.flatMap_cons, Token.spell, writeText, List.append_assoc, List.cons_append,
        List.nil_append, Occurrence.infix_across_iff anchored.unquoted, next]
      simp [Token.quoted?, anchored.not_infix noAnchor]

/-- An anchored run is found in a written value exactly when it is found in one of its texts or
names of members, each as it is written. -/
theorem infix_write_iff {run : List Char} (anchored : Anchored run) (value : Json) :
    run <:+: value.write ↔ ∃ quoted ∈ value.quotedTexts, run <:+: escape quoted.toList := by
  rw [write_eq_spell]
  exact infix_spell_iff anchored value.tokens (tokens_plain value) [] (by simp)

end ImageJobs.Json
