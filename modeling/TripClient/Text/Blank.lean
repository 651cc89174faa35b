/-!
# White space and trimming

The blank characters are those with the property `White_Space`. Trimming removes them from both
ends of a text, so a trimmed text neither begins nor closes with one (`isBlank_of_head_trimChars`,
`isBlank_of_getLast_trimChars`), and trimming twice is trimming once (`trimChars_trimChars`).
-/

namespace TripClient.Text

/-- The characters with the property `White_Space`. -/
def isBlank (c : Char) : Bool :=
  let n := c.toNat
  (9 ≤ n && n ≤ 13) || n == 0x20 || n == 0x85 || n == 0xA0 || n == 0x1680 ||
    (0x2000 ≤ n && n ≤ 0x200A) || n == 0x2028 || n == 0x2029 || n == 0x202F || n == 0x205F ||
    n == 0x3000

/-- A list of characters without the blanks at its start. -/
def trimStart (cs : List Char) : List Char := cs.dropWhile isBlank

/-- A list of characters without the blanks at its end. -/
def trimEnd (cs : List Char) : List Char := (cs.reverse.dropWhile isBlank).reverse

/-- A list of characters without the blanks at either end. -/
def trimChars (cs : List Char) : List Char := trimEnd (trimStart cs)

/-- A text without the blanks at either end. -/
def trim (s : String) : String := String.ofList (trimChars s.toList)

/-- What is left at the start does not begin with a blank. -/
theorem isBlank_of_head_trimStart {cs : List Char} {c : Char}
    (h : (trimStart cs).head? = some c) : isBlank c = false := by
  have := List.head?_dropWhile_not isBlank cs
  rw [trimStart] at h
  rw [h] at this
  exact this

/-- What is left at the end does not close with a blank. -/
theorem isBlank_of_getLast_trimEnd {cs : List Char} {c : Char}
    (h : (trimEnd cs).getLast? = some c) : isBlank c = false := by
  rw [trimEnd, List.getLast?_reverse] at h
  exact isBlank_of_head_trimStart h

/-- Trimming the end takes nothing from the start. -/
theorem trimEnd_prefix (cs : List Char) : trimEnd cs <+: cs := by
  have h : cs.reverse.dropWhile isBlank <:+ cs.reverse := List.dropWhile_suffix isBlank
  have h' := List.reverse_prefix.2 h
  rwa [List.reverse_reverse] at h'

/-- A text that does not begin with a blank loses nothing at the start. -/
theorem trimStart_eq_self (cs : List Char) (h : ∀ c, cs.head? = some c → isBlank c = false) :
    trimStart cs = cs := by
  cases cs with
  | nil => rfl
  | cons c cs => rw [trimStart, List.dropWhile_cons, h c rfl]; rfl

/-- A text that does not close with a blank loses nothing at the end. -/
theorem trimEnd_eq_self (cs : List Char) (h : ∀ c, cs.getLast? = some c → isBlank c = false) :
    trimEnd cs = cs := by
  have := trimStart_eq_self cs.reverse fun c hc => h c (by rwa [List.head?_reverse] at hc)
  rw [trimEnd, ← trimStart, this, List.reverse_reverse]

/-- A trimmed text does not begin with a blank. -/
theorem isBlank_of_head_trimChars {cs : List Char} {c : Char}
    (h : (trimChars cs).head? = some c) : isBlank c = false := by
  obtain ⟨rest, hrest⟩ := trimEnd_prefix (trimStart cs)
  have : (trimStart cs).head? = some c := by
    rw [← hrest, List.head?_append, ← trimChars, h]
    rfl
  exact isBlank_of_head_trimStart this

/-- A trimmed text does not close with a blank. -/
theorem isBlank_of_getLast_trimChars {cs : List Char} {c : Char}
    (h : (trimChars cs).getLast? = some c) : isBlank c = false :=
  isBlank_of_getLast_trimEnd h

/-- Trimming twice is trimming once. -/
theorem trimChars_trimChars (cs : List Char) : trimChars (trimChars cs) = trimChars cs := by
  have h := trimStart_eq_self (trimChars cs) fun _ => isBlank_of_head_trimChars
  have h' := trimEnd_eq_self (trimChars cs) fun _ => isBlank_of_getLast_trimChars
  rw [trimChars, h, h']

/-- Whether a text holds nothing but blanks. -/
def isBlankText (s : String) : Bool := s.toList.all isBlank

end TripClient.Text
