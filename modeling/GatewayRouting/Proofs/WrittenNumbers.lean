import GatewayRouting.Json.Numeral
import Mathlib.Data.List.Induction

/-!
# Numbers that were written are read

A number at the start of a JSON text is read as it is written, whichever way of writing was taken,
as long as what follows does not go on with it (`Numeral.Spelled.scan?`).

The decimal digits of a number have that number as their value, and they start with a zero for
zero alone. So an integer is written as a number, and has itself as its value
(`Numeral.spelled_ofInt`, `Numeral.datum?_ofInt`). The other way round, an integer that was read is
written as it stood there only if it had no needless sign or zero in front (`decimalText_eq_iff`).
-/

namespace GatewayRouting

/-! ## Digits -/

theorem isDecimalDigit_eq_isDigit (c : Char) : isDecimalDigit c = c.isDigit := rfl

theorem isDecimalDigit_of_mem_decimalDigits {n : Nat} {c : Char} (h : c ∈ decimalDigits n) :
    isDecimalDigit c = true := by
  rw [isDecimalDigit_eq_isDigit]
  exact Nat.isDigit_of_mem_toDigits (by decide) (by decide) h

/-- There is a digit, and only zero starts with a zero. -/
theorem decimalDigits_eq_cons (n : Nat) :
    ∃ d ds, decimalDigits n = d :: ds ∧ (d = '0' → n = 0) := by
  induction n using Nat.strongRecOn with
  | ind n ih =>
    rw [decimalDigits, Nat.toDigits_eq_if (by decide)]
    split
    · exact ⟨_, [], rfl, Nat.digitChar_eq_zero.mp⟩
    · obtain ⟨d, ds, digits, leading⟩ := ih (n / 10) (by omega)
      refine ⟨d, ds ++ [(n % 10).digitChar], ?_, fun h => ?_⟩
      · rw [show Nat.toDigits 10 (n / 10) = d :: ds from digits, List.cons_append]
      · have := leading h
        omega

theorem decimalValue_decimalDigits (n : Nat) : decimalValue (decimalDigits n) = n := by
  have h : decimalValue (decimalDigits n) = Nat.ofDigitChars 10 (Nat.toDigits 10 n) 0 := by
    simp only [decimalValue, Nat.ofDigitChars, decimalDigits, Nat.mul_comm]
  rw [h, Nat.ofDigitChars_ten_toDigits]

/-! ## A whole text -/

namespace Json.Numeral

/-! ## The start of a text -/

/-- What follows digits is not one more. -/
def NoDigit (rest : List Char) : Prop :=
  ∀ c ∈ rest.head?, isDecimalDigit c = false

/-- What follows a number does not go on with it. -/
def Ends (rest : List Char) : Prop :=
  ∀ c ∈ rest.head?, isDecimalDigit c = false ∧ c ≠ '.' ∧ c ≠ 'e' ∧ c ≠ 'E'

theorem Ends.noDigit {rest : List Char} (ends : Ends rest) : NoDigit rest :=
  fun c head => (ends c head).1

theorem takeWhile_digits {digits rest : List Char}
    (h : ∀ c ∈ digits, isDecimalDigit c = true) (stops : NoDigit rest) :
    (digits ++ rest).takeWhile isDecimalDigit = digits ∧
      (digits ++ rest).dropWhile isDecimalDigit = rest := by
  rw [List.takeWhile_append_of_pos h, List.dropWhile_append_of_pos h]
  cases rest with
  | nil => simp
  | cons c rest =>
    have notDigit : isDecimalDigit c = false := stops c rfl
    simp [notDigit]

/-- One digit or more. -/
structure Digits (digits : List Char) : Prop where
  /-- there is one -/
  nonempty : digits ≠ []
  /-- there is nothing else -/
  all : ∀ c ∈ digits, isDecimalDigit c = true

theorem Digits.scan? {digits rest : List Char} (given : Digits digits) (stops : NoDigit rest) :
    scanDigits? (digits ++ rest) = some (digits, rest) := by
  obtain ⟨taken, dropped⟩ := takeWhile_digits given.all stops
  rw [scanDigits?, taken, dropped]
  cases digits with
  | nil => exact absurd rfl given.nonempty
  | cons d digits => rfl

/-! ## The parts of a number -/

/-- The digits before the point. -/
inductive WholeText : List Char → Prop where
  /-- a zero alone -/
  | zero : WholeText ['0']
  /-- digits that do not start with zero -/
  | digits {d : Char} {digits : List Char} (leading : d ≠ '0') (given : Digits (d :: digits)) :
      WholeText (d :: digits)

/-- The point and the digits behind it, or nothing. -/
inductive FractionText : Option (List Char) → List Char → Prop where
  | absent : FractionText none []
  | present {digits : List Char} (given : Digits digits) :
      FractionText (some digits) ('.' :: digits)

/-- The letter of either case, an optional sign and digits, or nothing. -/
inductive ExponentText : Option (Bool × List Char) → List Char → Prop where
  | absent : ExponentText none []
  | unsigned {letter : Char} {digits : List Char} (either : letter = 'e' ∨ letter = 'E')
      (given : Digits digits) : ExponentText (some (false, digits)) (letter :: digits)
  | plus {letter : Char} {digits : List Char} (either : letter = 'e' ∨ letter = 'E')
      (given : Digits digits) : ExponentText (some (false, digits)) (letter :: '+' :: digits)
  | minus {letter : Char} {digits : List Char} (either : letter = 'e' ∨ letter = 'E')
      (given : Digits digits) : ExponentText (some (true, digits)) (letter :: '-' :: digits)

section

variable {text rest : List Char}

theorem WholeText.starts (whole : WholeText text) :
    ∃ d digits, text = d :: digits ∧ isDecimalDigit d = true := by
  cases whole with
  | zero => exact ⟨'0', [], rfl, rfl⟩
  | digits _ given => exact ⟨_, _, rfl, given.all _ (List.mem_cons_self ..)⟩

theorem WholeText.scan? (whole : WholeText text) (stops : NoDigit rest) :
    scanWhole? (text ++ rest) = some (text, rest) := by
  cases whole with
  | zero =>
    cases rest with
    | nil => rfl
    | cons c rest =>
      have notDigit : isDecimalDigit c = false := stops c rfl
      show scanWhole? ('0' :: c :: rest) = some (['0'], c :: rest)
      rw [scanWhole?, if_pos rfl, notDigit]
      rfl
  | @digits d digits leading given =>
    obtain ⟨taken, dropped⟩ := takeWhile_digits
      (fun c member => given.all c (List.mem_cons_of_mem d member)) stops
    rw [List.cons_append, scanWhole?.eq_def]
    simp only [leading, if_false, given.all d (List.mem_cons_self ..), if_true, taken, dropped]

theorem FractionText.noDigit {fraction : Option (List Char)} (written : FractionText fraction text)
    (stops : NoDigit rest) : NoDigit (text ++ rest) := by
  cases written with
  | absent => exact stops
  | present given =>
    intro c head
    obtain rfl := Option.some.inj head
    rfl

theorem FractionText.scan? {fraction : Option (List Char)} (written : FractionText fraction text)
    (stops : NoDigit rest) (point : '.' ∉ rest.head?) :
    scanFraction? (text ++ rest) = some (fraction, rest) := by
  cases written with
  | absent =>
    cases rest with
    | nil => rfl
    | cons c rest =>
      have other : c ≠ '.' := by
        rintro rfl
        exact point rfl
      simp [scanFraction?, other]
  | present given =>
    rw [List.cons_append, scanFraction?, given.scan? stops]
    rfl

theorem ExponentText.stops {exponent : Option (Bool × List Char)}
    (written : ExponentText exponent text) (ends : Ends rest) :
    NoDigit (text ++ rest) ∧ '.' ∉ (text ++ rest).head? := by
  have letters {letter : Char} (either : letter = 'e' ∨ letter = 'E') (digits : List Char) :
      NoDigit (letter :: digits) ∧ '.' ∉ (letter :: digits).head? := by
    rcases either with rfl | rfl <;> exact ⟨by rintro c ⟨⟩; rfl, nofun⟩
  cases written with
  | absent => exact ⟨ends.noDigit, fun head => (ends '.' head).2.1 rfl⟩
  | unsigned either => exact letters either _
  | plus either => exact letters either _
  | minus either => exact letters either _

theorem ExponentText.scan? {exponent : Option (Bool × List Char)}
    (written : ExponentText exponent text) (ends : Ends rest) :
    scanExponent? (text ++ rest) = some (exponent, rest) := by
  have enters {letter : Char} (either : letter = 'e' ∨ letter = 'E') :
      (letter = 'e' || letter = 'E') = true := by simpa using either
  cases written with
  | absent =>
    cases rest with
    | nil => rfl
    | cons c rest =>
      obtain ⟨-, -, small, capital⟩ := ends c rfl
      simp [scanExponent?.eq_def, small, capital]
  | @unsigned letter digits either given =>
    cases digits with
    | nil => exact absurd rfl given.nonempty
    | cons d digits =>
      have digit : isDecimalDigit d = true := given.all d (List.mem_cons_self ..)
      have minus : d ≠ '-' := by
        rintro rfl
        cases digit
      have plus : d ≠ '+' := by
        rintro rfl
        cases digit
      have scanned := given.scan? ends.noDigit
      rw [List.cons_append] at scanned
      simp [scanExponent?.eq_def, enters either, minus, plus, scanned]
  | plus either given =>
    simp [scanExponent?.eq_def, enters either, given.scan? ends.noDigit]
  | minus either given =>
    simp [scanExponent?.eq_def, enters either, given.scan? ends.noDigit]

end

/-! ## Numbers -/

/-- The ways to write a number. -/
inductive Spelled : Numeral → List Char → Prop where
  | unsigned {whole point behind : List Char} {fraction : Option (List Char)}
      {exponent : Option (Bool × List Char)} (before : WholeText whole)
      (after : FractionText fraction point) (power : ExponentText exponent behind) :
      Spelled { whole, fraction, exponent } (whole ++ (point ++ behind))
  | minus {whole point behind : List Char} {fraction : Option (List Char)}
      {exponent : Option (Bool × List Char)} (before : WholeText whole)
      (after : FractionText fraction point) (power : ExponentText exponent behind) :
      Spelled { negative := true, whole, fraction, exponent } ('-' :: (whole ++ (point ++ behind)))

/-- A number starts with a digit or a minus. -/
theorem Spelled.starts {numeral : Numeral} {text : List Char} (spelled : numeral.Spelled text) :
    ∃ c behind, text = c :: behind ∧ (isDecimalDigit c = true ∨ c = '-') := by
  cases spelled with
  | unsigned before =>
    obtain ⟨d, digits, rfl, digit⟩ := before.starts
    exact ⟨d, _, rfl, .inl digit⟩
  | minus => exact ⟨'-', _, rfl, .inr rfl⟩

/-- **A number is read up to where it ends.** -/
theorem Spelled.scan? {numeral : Numeral} {text rest : List Char} (spelled : numeral.Spelled text)
    (ends : Ends rest) : Numeral.scan? (text ++ rest) = some (numeral, rest) := by
  have parts {whole point behind : List Char} {fraction : Option (List Char)}
      {exponent : Option (Bool × List Char)} (before : WholeText whole)
      (after : FractionText fraction point) (power : ExponentText exponent behind) :
      scanWhole? (whole ++ (point ++ (behind ++ rest))) =
          some (whole, point ++ (behind ++ rest)) ∧
        scanFraction? (point ++ (behind ++ rest)) = some (fraction, behind ++ rest) ∧
        scanExponent? (behind ++ rest) = some (exponent, rest) := by
    obtain ⟨stops, point⟩ := power.stops ends
    exact ⟨before.scan? (after.noDigit stops), after.scan? stops point, power.scan? ends⟩
  cases spelled with
  | unsigned before after power =>
    obtain ⟨whole, fraction, exponent⟩ := parts before after power
    obtain ⟨d, digits, rfl, digit⟩ := before.starts
    have minus : d ≠ '-' := by
      rintro rfl
      cases digit
    rw [List.cons_append] at whole
    simp [Numeral.scan?, minus, whole, fraction, exponent]
  | minus before after power =>
    obtain ⟨whole, fraction, exponent⟩ := parts before after power
    simp [Numeral.scan?, whole, fraction, exponent]

theorem wholeText_decimalDigits (n : Nat) : WholeText (decimalDigits n) := by
  obtain ⟨d, ds, digits, leading⟩ := decimalDigits_eq_cons n
  have all (c : Char) (member : c ∈ decimalDigits n) : isDecimalDigit c = true :=
    isDecimalDigit_of_mem_decimalDigits member
  by_cases zero : d = '0'
  · rw [leading zero]
    exact .zero
  · rw [digits] at all ⊢
    exact .digits zero ⟨List.cons_ne_nil d ds, all⟩

/-- An integer is written as a number. -/
theorem spelled_ofInt (i : Int) : (ofInt i).Spelled (ofInt i).spell := by
  have whole := wholeText_decimalDigits i.natAbs
  by_cases negative : i < 0
  · simpa [ofInt, spell, negative] using Spelled.minus whole .absent .absent
  · simpa [ofInt, spell, negative] using Spelled.unsigned whole .absent .absent

/-- An integer that fits into 64 bits has itself as its value once it was written. -/
theorem datum?_ofInt {i : Int} (low : -(twoTo 63 : Int) ≤ i) (high : i < twoTo 64) :
    (ofInt i).datum? = some (if i < 0 then .signed i else .unsigned i.natAbs) := by
  have narrow : twoTo 63 < twoTo 64 := by decide
  have fits : i.natAbs < twoTo 64 := by omega
  rw [datum?]
  simp only [ofInt, decimalValue_decimalDigits]
  rw [if_pos (by simp [fits])]
  by_cases negative : i < 0
  · have whole : ¬ (i.natAbs = 0 ∨ twoTo 63 < i.natAbs) := by omega
    have value : -(i.natAbs : Int) = i := by omega
    rw [if_neg (by simp [negative]), if_neg (by simpa using whole), if_pos negative, value]
  · rw [if_pos (by simp [negative]), if_neg negative]

end Json.Numeral
end GatewayRouting
