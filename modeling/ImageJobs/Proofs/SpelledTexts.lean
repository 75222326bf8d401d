import Mathlib.Data.List.TakeWhile
import ImageJobs.Json.Reader
import ImageJobs.Json.Writer

/-! The spellings of a text. A character may stand for itself, or be written by one of several
escapes, alone or as a surrogate pair, and blanks may surround the quotes. A document is read as a
text exactly if it spells that text (`parse?_eq_string_iff`), and what is written is one of its
spellings (`spelling_escape`). -/

namespace ImageJobs.Json

/-- A hexadecimal digit with its value, in either case. -/
inductive HexDigit (value : Nat) : Char → Prop where
  | lower (small : value < 16) : HexDigit value value.digitChar
  | upper (small : value < 16) : HexDigit value value.digitChar.toUpper

/-- Four hexadecimal digits, the most significant first, with the code they denote. -/
inductive HexCode : Nat → List Char → Prop where
  | digits {first second third fourth : Nat} {a b c d : Char} (one : HexDigit first a)
      (two : HexDigit second b) (three : HexDigit third c) (four : HexDigit fourth d) :
      HexCode (((first * 16 + second) * 16 + third) * 16 + fourth) [a, b, c, d]

/-- The characters with an escape of their own, and the mark behind its backslash. -/
inductive ShortEscape : Char → Char → Prop where
  | quote : ShortEscape '"' '"'
  | backslash : ShortEscape '\\' '\\'
  | slash : ShortEscape '/' '/'
  | backspace : ShortEscape '\x08' 'b'
  | formFeed : ShortEscape '\x0c' 'f'
  | lineFeed : ShortEscape '\n' 'n'
  | carriageReturn : ShortEscape '\r' 'r'
  | tab : ShortEscape '\t' 't'

/-- The ways to write one character between the quotes. Above the basic plane the code does not fit
into four digits and is given by the two halves of a surrogate pair. -/
inductive Spelled (char : Char) : List Char → Prop where
  | itself (noQuote : char ≠ '"') (noBackslash : char ≠ '\\') (noControl : ¬char.toNat < 0x20) :
      Spelled char [char]
  | short {mark : Char} (escape : ShortEscape char mark) : Spelled char ['\\', mark]
  | code {digits : List Char} (hex : HexCode char.toNat digits) :
      Spelled char ('\\' :: 'u' :: digits)
  | halves {first second : List Char} (above : 0x10000 ≤ char.toNat)
      (high : HexCode (0xD800 + (char.toNat - 0x10000) / 0x400) first)
      (low : HexCode (0xDC00 + (char.toNat - 0x10000) % 0x400) second) :
      Spelled char ('\\' :: 'u' :: first ++ '\\' :: 'u' :: second)

/-- The characters written one after the other, each in its own way. -/
inductive Spelling : List Char → List Char → Prop where
  | nil : Spelling [] []
  | cons {char : Char} {chars front rest : List Char} (first : Spelled char front)
      (others : Spelling chars rest) : Spelling (char :: chars) (front ++ rest)

theorem Spelling.self {chars : List Char}
    (plain : ∀ char ∈ chars, char ≠ '"' ∧ char ≠ '\\' ∧ ¬char.toNat < 0x20) :
    Spelling chars chars := by
  induction chars with
  | nil => exact .nil
  | cons head tail ih =>
    obtain ⟨⟨noQuote, noBackslash, noControl⟩, others⟩ := List.forall_mem_cons.mp plain
    exact .cons (.itself noQuote noBackslash noControl) (ih others)

/-- Nothing but the blanks that may surround a value. -/
def Blank (text : List Char) : Prop :=
  ∀ char ∈ text, char = ' ' ∨ char = '\t' ∨ char = '\n' ∨ char = '\r'

/-- The document is a text with nothing but blanks around it, and that text is `value`. -/
inductive SpellsText (value : String) : List Char → Prop where
  | quoted {before spelling after : List Char} (leading : Blank before)
      (between : Spelling value.toList spelling) (trailing : Blank after) :
      SpellsText value (before ++ '"' :: (spelling ++ '"' :: after))

theorem hexValue?_eq_some_iff {value : Nat} {char : Char} :
    hexValue? char = some value ↔ HexDigit value char := by
  have all : ∀ code : Fin 128, hexValue? (Char.ofNat code.val) = none ∨
      ∃ value : Fin 16, hexValue? (Char.ofNat code.val) = some value.val ∧
        (Char.ofNat code.val = value.val.digitChar ∨
          Char.ofNat code.val = value.val.digitChar.toUpper) := by
    decide
  have lower : ∀ value : Fin 16, hexValue? value.val.digitChar = some value.val := by decide
  have upper : ∀ value : Fin 16, hexValue? value.val.digitChar.toUpper = some value.val := by decide
  constructor
  · intro read
    by_cases ascii : char.toNat < 128
    · rcases all ⟨char.toNat, ascii⟩ with none | ⟨digit, some, shape⟩
      · simp [Char.ofNat_toNat, read] at none
      · simp only [Char.ofNat_toNat, read, Option.some.injEq] at some shape
        subst some
        rcases shape with shape | shape <;> rw [shape]
        · exact .lower digit.isLt
        · exact .upper digit.isLt
    · have beyond : ∀ last : Char, last.toNat < 128 → ¬char ≤ last := by
        intro last small bounded
        exact ascii (Nat.lt_of_le_of_lt bounded small)
      simp [hexValue?, beyond '9' (by decide), beyond 'f' (by decide), beyond 'F' (by decide)]
        at read
  · rintro (small | small)
    · exact lower ⟨value, small⟩
    · exact upper ⟨value, small⟩

theorem unit?_eq_some_iff {code : Nat} {first second third fourth : Char} :
    unit? first second third fourth = some code ↔ HexCode code [first, second, third, fourth] := by
  constructor
  · intro read
    simp only [unit?, Option.bind_eq_bind, Option.bind_eq_some_iff, hexValue?_eq_some_iff] at read
    obtain ⟨_, one, _, two, _, three, _, four, same⟩ := read
    obtain rfl := Option.some.inj same
    exact .digits one two three four
  · rintro ⟨one, two, three, four⟩
    simp only [← hexValue?_eq_some_iff] at one two three four
    simp only [unit?, one, two, three, four]
    rfl

theorem HexCode.exists_eq {code : Nat} {digits : List Char} (hex : HexCode code digits) :
    ∃ first second third fourth, digits = [first, second, third, fourth] ∧
      unit? first second third fourth = some code := by
  cases hex with
  | digits one two three four =>
    exact ⟨_, _, _, _, rfl, unit?_eq_some_iff.mpr ⟨one, two, three, four⟩⟩

theorem shortEscape?_eq_some_iff {char mark : Char} :
    shortEscape? mark = some char ↔ ShortEscape char mark := by
  constructor
  · intro read
    unfold shortEscape? at read
    split at read <;> first
      | (obtain rfl := Option.some.inj read; constructor)
      | cases read
  · rintro ⟨⟩ <;> rfl

/-- What one piece of a text may be written as. -/
inductive Written : Piece → List Char → Prop where
  | itself {char : Char} (noQuote : char ≠ '"') (noBackslash : char ≠ '\\')
      (noControl : ¬char.toNat < 0x20) : Written (.char char) [char]
  | short {char mark : Char} (escape : ShortEscape char mark) : Written (.char char) ['\\', mark]
  | code {code : Nat} {digits : List Char} (hex : HexCode code digits) :
      Written (.unit code) ('\\' :: 'u' :: digits)

inductive WrittenRow : List Piece → List Char → Prop where
  | nil : WrittenRow [] []
  | cons {piece : Piece} {pieces : List Piece} {front rest : List Char}
      (first : Written piece front) (others : WrittenRow pieces rest) :
      WrittenRow (piece :: pieces) (front ++ rest)

/-- A character that is neither a quote, a backslash nor a control stands for itself. -/
theorem readPieces_cons {char : Char} (noQuote : char ≠ '"') (noBackslash : char ≠ '\\')
    (noControl : ¬char.toNat < 0x20) (rest : List Char) :
    readPieces (char :: rest) =
      (readPieces rest).map fun (pieces, rest) => (.char char :: pieces, rest) := by
  rw [readPieces.eq_def]
  split
  · simp_all
  · simp_all
  · simp_all
  · simp_all
  · rename_i starts
    obtain ⟨rfl, rfl⟩ := List.cons.inj starts
    rw [if_neg noControl]
    cases readPieces rest <;> rfl

theorem readPieces_short {mark char : Char} (short : shortEscape? mark = some char)
    (rest : List Char) :
    readPieces ('\\' :: mark :: rest) =
      (readPieces rest).map fun (pieces, rest) => (.char char :: pieces, rest) := by
  have noCode : mark ≠ 'u' := by
    rintro rfl
    simp [shortEscape?] at short
  rw [readPieces]
  · rw [short]
    cases readPieces rest <;> rfl
  · intro _ _ _ _ _ code
    exact absurd code noCode

theorem readPieces_written {piece : Piece} {front : List Char} (written : Written piece front)
    (rest : List Char) :
    readPieces (front ++ rest) =
      (readPieces rest).map fun (pieces, rest) => (piece :: pieces, rest) := by
  cases written with
  | itself noQuote noBackslash noControl =>
    exact readPieces_cons noQuote noBackslash noControl rest
  | short escape => exact readPieces_short (shortEscape?_eq_some_iff.mpr escape) rest
  | code hex =>
    obtain ⟨first, second, third, fourth, rfl, read⟩ := hex.exists_eq
    simp only [List.cons_append, List.nil_append, readPieces, read]
    cases readPieces rest <;> rfl

theorem readPieces_row {pieces : List Piece} {row : List Char} (written : WrittenRow pieces row)
    (rest : List Char) : readPieces (row ++ '"' :: rest) = some (pieces, rest) := by
  induction written with
  | nil => rfl
  | cons first _ ih => rw [List.append_assoc, readPieces_written first, ih, Option.map_some]

/-- A piece in front of a row makes a longer row. -/
theorem exists_row_cons {piece : Piece} {pieces : List Piece} {front after rest : List Char}
    (first : Written piece front)
    (others : ∃ row, after = row ++ '"' :: rest ∧ WrittenRow pieces row) :
    ∃ row, front ++ after = row ++ '"' :: rest ∧ WrittenRow (piece :: pieces) row := by
  obtain ⟨row, rfl, written⟩ := others
  exact ⟨front ++ row, (List.append_assoc ..).symm, .cons first written⟩

theorem exists_row_of_readPieces {text : List Char} {pieces : List Piece} {rest : List Char}
    (read : readPieces text = some (pieces, rest)) :
    ∃ row, text = row ++ '"' :: rest ∧ WrittenRow pieces row := by
  fun_induction readPieces text generalizing pieces rest with
  | case1 => cases read
  | case2 after =>
    obtain ⟨rfl, rfl⟩ := Prod.mk.inj (Option.some.inj read)
    exact ⟨[], rfl, .nil⟩
  | case3 a b c d after ih =>
    simp only [Option.bind_eq_bind, Option.bind_eq_some_iff, Option.pure_def, Option.some.injEq,
      Prod.exists, Prod.mk.injEq] at read
    obtain ⟨code, hex, others, _, readOthers, rfl, rfl⟩ := read
    exact exists_row_cons (.code (unit?_eq_some_iff.mp hex)) (ih readOthers)
  | case4 mark after _ ih =>
    simp only [Option.bind_eq_bind, Option.bind_eq_some_iff, Option.pure_def, Option.some.injEq,
      Prod.exists, Prod.mk.injEq] at read
    obtain ⟨char, escape, others, _, readOthers, rfl, rfl⟩ := read
    exact exists_row_cons (.short (shortEscape?_eq_some_iff.mp escape)) (ih readOthers)
  | case5 => cases read
  | case6 char after noQuote _ noEscape noControl ih =>
    simp only [Option.bind_eq_bind, Option.bind_eq_some_iff, Option.pure_def, Option.some.injEq,
      Prod.exists, Prod.mk.injEq] at read
    obtain ⟨others, _, readOthers, rfl, rfl⟩ := read
    -- A backslash at the very end is read as nothing.
    have noBackslash : char ≠ '\\' := by
      rintro rfl
      cases after with
      | nil => cases readOthers
      | cons next further => exact noEscape next further rfl rfl
    exact exists_row_cons (.itself noQuote noBackslash noControl) (ih readOthers)

theorem toNat_valid (char : Char) :
    char.toNat < 0xD800 ∨ 0xDFFF < char.toNat ∧ char.toNat < 0x110000 :=
  char.valid

/-- The code of a character is no half of a surrogate pair. -/
theorem joinPieces_unit (char : Char) (pieces : List Piece) :
    joinPieces (.unit char.toNat :: pieces) = (joinPieces pieces).map (char :: ·) := by
  have valid := toNat_valid char
  have notHigh : isHighHalf char.toNat = false := by simp [isHighHalf]; omega
  have notLow : isLowHalf char.toNat = false := by simp [isLowHalf]; omega
  rw [joinPieces.eq_def]
  simp only [notHigh, notLow, Bool.false_eq_true, ↓reduceIte, Char.ofNat_toNat]

theorem joinPieces_halves {char : Char} (above : 0x10000 ≤ char.toNat) (pieces : List Piece) :
    joinPieces (.unit (0xD800 + (char.toNat - 0x10000) / 0x400) ::
        .unit (0xDC00 + (char.toNat - 0x10000) % 0x400) :: pieces) =
      (joinPieces pieces).map (char :: ·) := by
  have valid := toNat_valid char
  have high : isHighHalf (0xD800 + (char.toNat - 0x10000) / 0x400) = true := by
    simp [isHighHalf]
    omega
  have low : isLowHalf (0xDC00 + (char.toNat - 0x10000) % 0x400) = true := by
    simp [isLowHalf]
    omega
  have joined : joinHalves (0xD800 + (char.toNat - 0x10000) / 0x400)
      (0xDC00 + (char.toNat - 0x10000) % 0x400) = char := by
    have sum : 0x10000 + (0xD800 + (char.toNat - 0x10000) / 0x400 - 0xD800) * 0x400 +
        (0xDC00 + (char.toNat - 0x10000) % 0x400 - 0xDC00) = char.toNat := by omega
    rw [joinHalves, sum, Char.ofNat_toNat]
  rw [joinPieces]
  simp only [high, low, joined, ↓reduceIte]

theorem exists_pieces_of_spelling {chars text : List Char} (spelling : Spelling chars text) :
    ∃ pieces, WrittenRow pieces text ∧ joinPieces pieces = some chars := by
  induction spelling with
  | nil => exact ⟨[], .nil, rfl⟩
  | @cons char chars front rest first _ ih =>
    obtain ⟨pieces, written, joined⟩ := ih
    cases first with
    | itself noQuote noBackslash noControl =>
      exact ⟨.char char :: pieces, .cons (.itself noQuote noBackslash noControl) written,
        by rw [joinPieces, joined, Option.map_some]⟩
    | short escape =>
      exact ⟨.char char :: pieces, .cons (.short escape) written,
        by rw [joinPieces, joined, Option.map_some]⟩
    | code hex =>
      exact ⟨.unit char.toNat :: pieces, .cons (.code hex) written,
        by rw [joinPieces_unit, joined, Option.map_some]⟩
    | halves above high low =>
      refine ⟨_, ?_, (joinPieces_halves above pieces).trans (by rw [joined, Option.map_some])⟩
      rw [List.append_assoc]
      exact .cons (.code high) (.cons (.code low) written)

theorem HexDigit.lt {value : Nat} {char : Char} (digit : HexDigit value char) : value < 16 := by
  cases digit <;> assumption

theorem HexCode.lt {code : Nat} {digits : List Char} (hex : HexCode code digits) :
    code < 0x10000 := by
  cases hex with
  | digits one two three four =>
    have bounds := And.intro (And.intro one.lt two.lt) (And.intro three.lt four.lt)
    omega

theorem toNat_ofNat_of_valid {code : Nat}
    (valid : code < 0xD800 ∨ 0xDFFF < code ∧ code < 0x110000) : (Char.ofNat code).toNat = code := by
  rw [Char.ofNat, dif_pos valid]
  rfl

/-- A code of four digits outside the surrogates is that of a character. -/
theorem spelled_code {code : Nat} {digits : List Char} (hex : HexCode code digits)
    (notHigh : ¬isHighHalf code = true) (notLow : ¬isLowHalf code = true) :
    Spelled (Char.ofNat code) ('\\' :: 'u' :: digits) := by
  have bounded := hex.lt
  simp only [isHighHalf, isLowHalf, Bool.and_eq_true, decide_eq_true_eq] at notHigh notLow
  have same : (Char.ofNat code).toNat = code := toNat_ofNat_of_valid (by omega)
  exact .code (same.symm ▸ hex)

theorem spelled_halves {high low : Nat} {first second : List Char}
    (highHex : HexCode high first) (lowHex : HexCode low second) (isHigh : isHighHalf high = true)
    (isLow : isLowHalf low = true) :
    Spelled (joinHalves high low) ('\\' :: 'u' :: first ++ '\\' :: 'u' :: second) := by
  simp only [isHighHalf, isLowHalf, Bool.and_eq_true, decide_eq_true_eq] at isHigh isLow
  have same : (joinHalves high low).toNat = 0x10000 + (high - 0xD800) * 0x400 + (low - 0xDC00) :=
    toNat_ofNat_of_valid (by omega)
  have highSame : 0xD800 + ((joinHalves high low).toNat - 0x10000) / 0x400 = high := by omega
  have lowSame : 0xDC00 + ((joinHalves high low).toNat - 0x10000) % 0x400 = low := by omega
  exact .halves (by omega) (highSame.symm ▸ highHex) (lowSame.symm ▸ lowHex)

theorem spelling_of_row {pieces : List Piece} {chars text : List Char}
    (written : WrittenRow pieces text) (joined : joinPieces pieces = some chars) :
    Spelling chars text := by
  fun_induction joinPieces pieces generalizing chars text with
  | case1 =>
    obtain rfl := Option.some.inj joined
    cases written
    exact .nil
  | case2 char others ih =>
    obtain ⟨rest, joinedOthers, rfl⟩ := Option.map_eq_some_iff.mp joined
    cases written with
    | cons first writtenOthers =>
      refine .cons ?_ (ih writtenOthers joinedOthers)
      cases first with
      | itself noQuote noBackslash noControl => exact .itself noQuote noBackslash noControl
      | short escape => exact .short escape
  | case3 high isHigh low others isLow ih =>
    obtain ⟨rest, joinedOthers, rfl⟩ := Option.map_eq_some_iff.mp joined
    rcases written with _ | ⟨⟨⟩ | ⟨⟩ | highHex, _ | ⟨⟨⟩ | ⟨⟩ | lowHex, writtenOthers⟩⟩
    rw [← List.append_assoc]
    exact .cons (spelled_halves highHex lowHex isHigh isLow) (ih writtenOthers joinedOthers)
  | case4 => cases joined
  | case5 => cases joined
  | case6 => cases joined
  | case7 code others notHigh notLow ih =>
    obtain ⟨rest, joinedOthers, rfl⟩ := Option.map_eq_some_iff.mp joined
    rcases written with _ | ⟨⟨⟩ | ⟨⟩ | hex, writtenOthers⟩
    exact .cons (spelled_code hex notHigh notLow) (ih writtenOthers joinedOthers)

/-- What stands between the quotes is read as a text exactly if it spells that text. -/
theorem readText_eq_some_iff {text rest : List Char} {value : String} :
    readText text = some (some value, rest) ↔
      ∃ spelling, text = spelling ++ '"' :: rest ∧ Spelling value.toList spelling := by
  constructor
  · intro read
    obtain ⟨⟨pieces, after⟩, readRow, same⟩ := Option.map_eq_some_iff.mp read
    obtain ⟨joinedValue, rfl⟩ := Prod.mk.inj same
    obtain ⟨chars, joined, rfl⟩ := Option.map_eq_some_iff.mp joinedValue
    obtain ⟨row, rfl, written⟩ := exists_row_of_readPieces readRow
    exact ⟨row, rfl, String.toList_ofList ▸ spelling_of_row written joined⟩
  · rintro ⟨spelling, rfl, spells⟩
    obtain ⟨pieces, written, joined⟩ := exists_pieces_of_spelling spells
    rw [readText, readPieces_row written, Option.map_some]
    simp only [joined, Option.map_some, String.ofList_toList]

/-- A character is written in one of its ways. -/
theorem spelled_escapeChar (char : Char) : Spelled char (escapeChar char) := by
  unfold escapeChar
  split
  · exact .short .quote
  · exact .short .backslash
  · exact .short .backspace
  · exact .short .formFeed
  · exact .short .lineFeed
  · exact .short .carriageReturn
  · exact .short .tab
  split
  · rename_i control
    have zero : HexDigit 0 '0' := .lower (by decide)
    have code := HexCode.digits zero zero (.lower (by omega : char.toNat / 16 < 16))
      (.lower (by omega : char.toNat % 16 < 16))
    have same : ((0 * 16 + 0) * 16 + char.toNat / 16) * 16 + char.toNat % 16 = char.toNat := by
      omega
    rw [same] at code
    exact .code code
  · rename_i noQuote noBackslash _ _ _ _ _ noControl
    exact .itself noQuote noBackslash noControl

theorem spelling_escape (text : List Char) : Spelling text (escape text) := by
  induction text with
  | nil => exact .nil
  | cons head tail ih => exact .cons (spelled_escapeChar head) ih

theorem readText_write (text : String) (rest : List Char) :
    readText (escape text.toList ++ '"' :: rest) = some (some text, rest) :=
  readText_eq_some_iff.mpr ⟨_, rfl, spelling_escape text.toList⟩

theorem isSpace_iff {char : Char} :
    isSpace char = true ↔ char = ' ' ∨ char = '\t' ∨ char = '\n' ∨ char = '\r' := by
  simp [isSpace, or_assoc]

theorem blank_iff {text : List Char} : Blank text ↔ ∀ char ∈ text, isSpace char = true :=
  forall₂_congr fun _ _ => isSpace_iff.symm

theorem skipSpace_append {before : List Char} (blank : Blank before) (rest : List Char) :
    skipSpace (before ++ rest) = skipSpace rest :=
  List.dropWhile_append_of_pos (blank_iff.mp blank)

theorem isEmpty_skipSpace_iff {text : List Char} :
    (skipSpace text).isEmpty = true ↔ Blank text := by
  rw [List.isEmpty_iff, skipSpace, List.dropWhile_eq_nil_iff, blank_iff]

theorem exists_skipSpace (text : List Char) :
    ∃ before, Blank before ∧ text = before ++ skipSpace text :=
  ⟨text.takeWhile isSpace, blank_iff.mpr fun _ => List.mem_takeWhile_imp,
    List.takeWhile_append_dropWhile.symm⟩

/-- What is made from another kind of value is no text. -/
theorem map_ne_string {α : Type} {found : Option (α × List Char)} {make : α → Json}
    {value : String} {rest : List Char} (other : ∀ item, make item ≠ .string value) :
    (found.map fun (item, rest) => (make item, rest)) ≠ some (.string value, rest) := by
  intro same
  obtain ⟨⟨item, _⟩, -, made⟩ := Option.map_eq_some_iff.mp same
  exact other item (Prod.mk.inj made).1

theorem ofMembers_ne_string (members : List (Option String × Json)) (value : String) :
    ofMembers members ≠ .string value := by
  unfold ofMembers
  split <;> exact Json.noConfusion

/-- A value is read as a text only where it starts with a quote. -/
theorem readValue_eq_string_iff {fuel : Nat} {text rest : List Char} {value : String} :
    readValue (fuel + 1) text = some (.string value, rest) ↔
      ∃ behind, skipSpace text = '"' :: behind ∧ readText behind = some (some value, rest) := by
  constructor
  · intro read
    rw [readValue] at read
    split at read
    · cases read
    · cases read
    · cases read
    · rename_i behind quoted
      obtain ⟨⟨inside, after⟩, readInside, same⟩ := Option.map_eq_some_iff.mp read
      obtain ⟨isText, rfl⟩ := Prod.mk.inj same
      cases inside with
      | none => cases isText
      | some text =>
        obtain rfl := Json.string.inj isText
        exact ⟨behind, quoted, readInside⟩
    · split at read
      · cases read
      · exact absurd read (map_ne_string fun _ => Json.noConfusion)
    · split at read
      · cases read
      · exact absurd read (map_ne_string fun members => ofMembers_ne_string members value)
    · exact absurd read (map_ne_string fun _ => Json.noConfusion)
  · rintro ⟨behind, quoted, inside⟩
    rw [readValue, quoted]
    simp only [inside, Option.map_some, ofText?]

/-- A document is read as a text exactly if it spells that text. -/
theorem parse?_eq_string_iff {document value : String} :
    parse? document = some (.string value) ↔ SpellsText value document.toList := by
  unfold parse?
  generalize document.toList = text
  constructor
  · intro parsed
    unfold ofChars? at parsed
    split at parsed
    · rename_i read
      split at parsed
      · rename_i blank
        obtain rfl := Option.some.inj parsed
        obtain ⟨behind, quoted, inside⟩ := readValue_eq_string_iff.mp read
        obtain ⟨spelling, rfl, spells⟩ := readText_eq_some_iff.mp inside
        obtain ⟨before, leading, same⟩ := exists_skipSpace text
        rw [same, quoted]
        exact .quoted leading spells (isEmpty_skipSpace_iff.mp blank)
      · cases parsed
    · cases parsed
  · rintro (@⟨before, spelling, after, leading, between, trailing⟩)
    have inside : readText (spelling ++ '"' :: after) = some (some value, after) :=
      readText_eq_some_iff.mpr ⟨spelling, rfl, between⟩
    have quoted : skipSpace (before ++ '"' :: (spelling ++ '"' :: after)) =
        '"' :: (spelling ++ '"' :: after) := skipSpace_append leading _
    rw [ofChars?, readValue_eq_string_iff.mpr ⟨_, quoted, inside⟩]
    simp only [isEmpty_skipSpace_iff.mpr trailing, ↓reduceIte]

end ImageJobs.Json
