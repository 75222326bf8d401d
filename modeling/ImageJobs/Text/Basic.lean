namespace ImageJobs.Text

/-- Tries every place of the text in turn. -/
def occurs (needle : List Char) : List Char → Bool
  | [] => needle.isEmpty
  | head :: tail => needle.isPrefixOf (head :: tail) || occurs needle tail

theorem occurs_iff {needle text : List Char} : occurs needle text = true ↔ needle <:+: text := by
  induction text with
  | nil => simp [occurs]
  | cons head tail ih => simp [occurs, ih, List.infix_cons_iff]

/-- Whether `text` holds `needle` as a contiguous run of characters. -/
def mentions (text needle : String) : Bool :=
  occurs needle.toList text.toList

theorem mentions_iff {text needle : String} :
    mentions text needle = true ↔ needle.toList <:+: text.toList :=
  occurs_iff

/-- Whether one of the inclusive ranges holds the character. -/
def within (ranges : List (Nat × Nat)) (char : Char) : Bool :=
  ranges.any fun range => range.1 ≤ char.toNat && char.toNat ≤ range.2

/-- Ranges that leave out a stretch of code points hold no character of it. -/
theorem within_eq_false {ranges : List (Nat × Nat)} {least greatest : Nat} {char : Char}
    (outside : (ranges.all fun range => range.2 < least || greatest < range.1) = true)
    (above : least ≤ char.toNat) (below : char.toNat ≤ greatest) : within ranges char = false := by
  rw [within, List.any_eq_false]
  intro range member
  have apart := List.all_eq_true.mp outside range member
  simp only [Bool.or_eq_true, Bool.and_eq_true, decide_eq_true_eq] at apart ⊢
  omega

/-- White space in the sense of the Unicode property of that name, which holds more characters than
the core's own class. -/
def blankRanges : List (Nat × Nat) :=
  [(0x9, 0xD), (0x20, 0x20), (0x85, 0x85), (0xA0, 0xA0), (0x1680, 0x1680), (0x2000, 0x200A),
   (0x2028, 0x2029), (0x202F, 0x202F), (0x205F, 0x205F), (0x3000, 0x3000)]

def isBlank (char : Char) : Bool :=
  within blankRanges char

def skipBlank (text : List Char) : List Char :=
  text.dropWhile isBlank

end ImageJobs.Text
