import ImageJobs.Text.Plain

namespace ImageJobs.Text

/-- A character that the quoted form cannot show is written by its code point, in lower-case
hexadecimal digits without leading zeros. -/
def escapeForQuote (char : Char) : List Char :=
  match char with
  | '"' => ['\\', '"']
  | '\\' => ['\\', '\\']
  | '\n' => ['\\', 'n']
  | '\r' => ['\\', 'r']
  | '\t' => ['\\', 't']
  | '\x00' => ['\\', '0']
  | _ =>
    if isPlain char then [char]
    else '\\' :: 'u' :: '\x7b' :: Nat.toDigits 16 char.toNat ++ ['\x7d']

def quote (text : List Char) : List Char :=
  '"' :: text.flatMap escapeForQuote ++ ['"']

/-- Whether a quoted text shows the character of printable ASCII as it is. -/
def isPrintable (char : Char) : Bool :=
  0x20 ≤ char.toNat && char.toNat ≤ 0x7E && char != '"' && char != '\\'

theorem escapeForQuote_of_printable {char : Char} (printable : isPrintable char = true) :
    escapeForQuote char = [char] := by
  simp only [isPrintable, Bool.and_eq_true, decide_eq_true_eq, bne_iff_ne] at printable
  obtain ⟨⟨⟨above, below⟩, noQuote⟩, noSlash⟩ := printable
  unfold escapeForQuote
  split
  · exact absurd rfl noQuote
  · exact absurd rfl noSlash
  · exact absurd above (by decide)
  · exact absurd above (by decide)
  · exact absurd above (by decide)
  · exact absurd above (by decide)
  · rw [if_pos (isPlain_of_printable above below)]

theorem quote_of_printable {text : List Char} (printable : text.all isPrintable = true) :
    quote text = '"' :: text ++ ['"'] := by
  have same : text.flatMap escapeForQuote = text := by
    induction text with
    | nil => rfl
    | cons head tail ih =>
      rw [List.all_cons, Bool.and_eq_true] at printable
      rw [List.flatMap_cons, escapeForQuote_of_printable printable.1, ih printable.2,
        List.singleton_append]
  rw [quote, same]

end ImageJobs.Text
