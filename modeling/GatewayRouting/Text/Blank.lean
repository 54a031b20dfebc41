/-!
# Blank characters

The characters with the Unicode property `White_Space`, and trimming by them. A service address
made of blanks alone counts as empty, and a document is recognised by its first character that
is not blank, so both need the whole class and not only its ASCII part.
-/

namespace GatewayRouting

/-- The ranges of the property `White_Space`, in order, ends included. -/
def blankRanges : List (Nat × Nat) :=
  [(0x9, 0xD), (0x20, 0x20), (0x85, 0x85), (0xA0, 0xA0), (0x1680, 0x1680), (0x2000, 0x200A),
   (0x2028, 0x2029), (0x202F, 0x202F), (0x205F, 0x205F), (0x3000, 0x3000)]

/-- A character is blank if one of the ranges holds it. -/
def isBlank (c : Char) : Bool :=
  blankRanges.any fun range => range.1 ≤ c.toNat && c.toNat ≤ range.2

/-- A text without the blanks at its start. -/
def trimStart (text : List Char) : List Char :=
  text.dropWhile isBlank

/-- A text is all blank if nothing is left of it after trimming. -/
def isAllBlank (text : List Char) : Bool :=
  text.all isBlank

/-- What is trimmed away is nothing exactly if all of the text is blank. -/
theorem trimStart_eq_nil_iff (text : List Char) : trimStart text = [] ↔ isAllBlank text := by
  induction text with
  | nil => rw [trimStart, isAllBlank, List.dropWhile_nil, List.all_nil, eq_self, eq_self]
  | cons c rest ih =>
    rw [trimStart, isAllBlank] at ih ⊢
    by_cases h : isBlank c
    · rw [List.dropWhile_cons_of_pos h, List.all_cons, h, Bool.true_and]
      exact ih
    · simp [h]

end GatewayRouting
