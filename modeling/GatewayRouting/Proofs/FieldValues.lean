import GatewayRouting.Json.Record
import Mathlib.Data.List.Forall2

/-!
# Values of fields

Which values of JSON are values of a field says `Json.Tree.Is`, kind by kind and without the reader
or its faults: a text, an array of texts, a truth value, or a number that is written as an integer
of the right range. These and no others are decoded, each as what it is
(`Json.Tree.decode_eq_ok_iff`).
-/

namespace GatewayRouting
namespace Json

/-! ## What is what -/

/-- A number is written as an integer: without fraction and exponent, and not as minus zero. -/
structure Numeral.IsInteger (numeral : Numeral) (value : Int) : Prop where
  /-- there is no point -/
  fraction : numeral.fraction = none
  /-- there is no exponent -/
  exponent : numeral.exponent = none
  /-- there is no minus before zero -/
  signed : numeral.negative = true → decimalValue numeral.whole ≠ 0
  /-- this is its value -/
  value : value =
    if numeral.negative then -(decimalValue numeral.whole : Int) else decimalValue numeral.whole

/-- A value is a text. -/
inductive Tree.IsText : Tree → String → Prop where
  | mk {raw : RawText} {text : String} (means : raw.text? = some text) : IsText (.string raw) text

/-- A value is a value of a kind. -/
inductive Tree.Is : FieldKind → Tree → FieldValue → Prop where
  | text {tree : Tree} {text : String} (isText : tree.IsText text) : Is .text tree (.text text)
  | tokens {items : List Tree} {tokens : List String}
      (each : List.Forall₂ IsText items tokens) : Is .tokens (.array items true) (.tokens tokens)
  | flag (value : Bool) : Is .flag (.bool value) (.flag value)
  | signed {numeral : Numeral} {value : Int} (isInteger : numeral.IsInteger value)
      (range : inSignedRange 64 value = true) : Is .signed (.number numeral) (.signed value)
  | unsigned {numeral : Numeral} {value : Nat} (isInteger : numeral.IsInteger value)
      (range : inUnsignedRange 64 value = true) : Is .unsigned (.number numeral) (.unsigned value)

/-! ## Numbers -/

namespace Numeral

variable {numeral : Numeral} {value : Int}

/-- Double-precision numbers are no integers, whatever their value. -/
theorem int?_real? (numeral : Numeral) : (numeral.real?.map Datum.real).bind Datum.int? = none := by
  cases numeral.real? <;> rfl

/-- Numbers with a fraction or an exponent are no integers, whatever their value. -/
theorem int?_datum?_of_part (part : numeral.fraction ≠ none ∨ numeral.exponent ≠ none) :
    numeral.datum?.bind Datum.int? = none := by
  have notPlain : (numeral.fraction.isNone && numeral.exponent.isNone &&
      decide (decimalValue numeral.whole < twoTo 64)) ≠ true := by
    simp only [ne_eq, Bool.and_eq_true, Option.isNone_iff_eq_none, not_and_or]
    exact .inl part
  rw [datum?, if_neg notPlain, int?_real?]

/-- Of the other numbers, those are integers that fit into 64 bits, but for minus zero. -/
theorem int?_datum?_of_plain (fraction : numeral.fraction = none)
    (exponent : numeral.exponent = none) :
    numeral.datum?.bind Datum.int? =
      if twoTo 64 ≤ decimalValue numeral.whole then none
      else if numeral.negative = false then some (decimalValue numeral.whole : Int)
      else if decimalValue numeral.whole = 0 ∨ twoTo 63 < decimalValue numeral.whole then none
      else some (-(decimalValue numeral.whole : Int)) := by
  rw [datum?]
  simp only [fraction, exponent, Option.isNone_none, Bool.true_and, decide_eq_true_eq]
  generalize decimalValue numeral.whole = size
  by_cases large : twoTo 64 ≤ size
  · rw [if_neg (Nat.not_lt.mpr large), if_pos large, int?_real?]
  rw [if_pos (Nat.lt_of_not_le large), if_neg large]
  cases numeral.negative with
  | false => rfl
  | true =>
    simp only [Bool.not_true, Bool.false_eq_true, Bool.true_eq_false, if_false, Bool.or_eq_true,
      decide_eq_true_eq]
    by_cases real : size = 0 ∨ twoTo 63 < size
    · rw [if_pos real, if_pos real, int?_real?]
    · rw [if_neg real, if_neg real]
      rfl

/-- **The numbers that are kept as integers are those that are written as such and fit into 64
bits**, with a sign or without. -/
theorem int?_datum?_eq_some_iff :
    numeral.datum?.bind Datum.int? = some value ↔
      numeral.IsInteger value ∧ -(twoTo 63 : Int) ≤ value ∧ value < twoTo 64 := by
  by_cases fraction : numeral.fraction = none
  swap
  · rw [int?_datum?_of_part (.inl fraction)]
    exact ⟨nofun, fun integer => absurd integer.1.fraction fraction⟩
  by_cases exponent : numeral.exponent = none
  swap
  · rw [int?_datum?_of_part (.inr exponent)]
    exact ⟨nofun, fun integer => absurd integer.1.exponent exponent⟩
  have isInteger_iff : numeral.IsInteger value ↔
      (numeral.negative = true → decimalValue numeral.whole ≠ 0) ∧ value =
        if numeral.negative then -(decimalValue numeral.whole : Int)
          else decimalValue numeral.whole :=
    ⟨fun integer => ⟨integer.signed, integer.value⟩,
      fun integer => ⟨fraction, exponent, integer.1, integer.2⟩⟩
  have narrow : twoTo 63 < twoTo 64 := by decide
  rw [int?_datum?_of_plain fraction exponent, isInteger_iff]
  cases numeral.negative with
  | false =>
    simp only [Bool.false_eq_true, false_implies, true_and, if_false, if_true]
    split
    · simp
      omega
    · simp
      omega
  | true =>
    simp only [Bool.true_eq_false, true_implies, if_false, if_true]
    split
    · simp
      omega
    · split
      · simp
        omega
      · simp
        omega

end Numeral

/-! ## What is found -/

/-- What is found where a value stands. -/
inductive Tree.Shows : Tree → Found → Prop where
  | nothing : Shows .null .nothing
  | flag (value : Bool) : Shows (.bool value) (.flag value)
  | integer {numeral : Numeral} {value : Int} (isInteger : numeral.IsInteger value)
      (low : -(twoTo 63 : Int) ≤ value) (high : value < twoTo 64) :
      Shows (.number numeral) (.integer value)
  | real {numeral : Numeral} {value : Double} (means : numeral.datum? = some (.real value)) :
      Shows (.number numeral) (.real value)
  | text {tree : Tree} {text : String} (isText : tree.IsText text) : Shows tree (.text text)
  | sequence (items : List Tree) (closed : Bool) : Shows (.array items closed) .sequence
  | map (members : List (RawText × Tree)) (closed : Bool) : Shows (.object members closed) .map

section

variable {tree : Tree} {kind : FieldKind} {value : FieldValue} {found : Found}

/-- What the value of a number is found to be. -/
theorem Tree.Shows.of_datum? {numeral : Numeral} {datum : Datum} {i : Int}
    (means : numeral.datum? = some datum) (value : datum.int? = some i) :
    (Tree.number numeral).Shows (.integer i) := by
  have integer : numeral.datum?.bind Datum.int? = some i := by
    rw [means]
    exact value
  obtain ⟨isInteger, low, high⟩ := Numeral.int?_datum?_eq_some_iff.mp integer
  exact .integer isInteger low high

/-- **These are the ways for something to be found.** -/
theorem found_eq_ok_iff : tree.found = .ok found ↔ tree.Shows found := by
  constructor
  · intro finds
    cases tree with
    | null =>
      cases finds
      exact .nothing
    | bool value =>
      cases finds
      exact .flag value
    | number numeral =>
      rw [Tree.found] at finds
      split at finds
      · next means =>
        cases finds
        exact .of_datum? means rfl
      · next means =>
        cases finds
        exact .of_datum? means rfl
      · next means =>
        cases finds
        exact .real means
      · cases finds
    | string raw =>
      rw [Tree.found] at finds
      split at finds
      · next means =>
        cases finds
        exact .text (.mk means)
      · cases finds
    | array items closed =>
      cases finds
      exact .sequence items closed
    | object members closed =>
      cases finds
      exact .map members closed
    | broken => cases finds
  · intro shows
    cases shows with
    | nothing | flag | sequence | map => rfl
    | integer isInteger low high =>
      obtain ⟨datum, means, value⟩ :=
        Option.bind_eq_some_iff.mp (Numeral.int?_datum?_eq_some_iff.mpr ⟨isInteger, low, high⟩)
      rw [Tree.found, means]
      cases datum with
      | unsigned n =>
        cases value
        rfl
      | signed j =>
        cases value
        rfl
      | null | bool | real | text | list | map => cases value
    | real means => rw [Tree.found, means]
    | text isText =>
      obtain ⟨means⟩ := isText
      rw [Tree.found, means]

/-! ## What is decoded -/

theorem single_eq_ok_iff :
    tree.single kind = .ok value ↔ ∃ found, tree.Shows found ∧ kind.ofFound found = .ok value := by
  simp only [← found_eq_ok_iff]
  rw [Tree.single]
  cases tree.found <;> simp

/-- What is decoded without being looked into is a value of its kind. -/
theorem Tree.Is.of_single (decoded : tree.single kind = .ok value) : Tree.Is kind tree value := by
  obtain ⟨found, shows, fits⟩ := single_eq_ok_iff.mp decoded
  cases shows with
  | text isText =>
    cases kind with
    | text =>
      cases fits
      exact .text isText
    | tokens | flag | signed | unsigned => cases fits
  | flag value =>
    cases kind with
    | flag =>
      cases fits
      exact .flag value
    | text | tokens | signed | unsigned => cases fits
  | @integer numeral i isInteger low high =>
    cases kind with
    | signed =>
      rw [FieldKind.ofFound] at fits
      split at fits
      · next range =>
        cases fits
        exact .signed isInteger range
      · cases fits
    | unsigned =>
      rw [FieldKind.ofFound] at fits
      split at fits
      · next range =>
        cases fits
        obtain ⟨n, rfl⟩ := Int.eq_ofNat_of_zero_le range.1
        exact .unsigned isInteger range.2
      · cases fits
    | text | tokens | flag => cases fits
  | nothing | real | sequence | map => cases kind <;> cases fits

/-- The items of an array are texts, and it was read to its end. -/
theorem tokensOf_eq_ok_iff {items : List Tree} {closed : Bool} {tokens : List String} :
    tokensOf items closed = .ok tokens ↔
      closed = true ∧ List.Forall₂ Tree.IsText items tokens := by
  induction items generalizing tokens with
  | nil =>
    cases closed with
    | false => exact ⟨nofun, nofun⟩
    | true =>
      constructor
      · rintro ⟨⟩
        exact ⟨rfl, .nil⟩
      · rintro ⟨-, ⟨⟩⟩
        rfl
  | cons item items ih =>
    rw [tokensOf]
    constructor
    · intro decoded
      cases single : item.single .text with
      | error fault =>
        rw [single] at decoded
        cases decoded
      | ok value =>
        rw [single] at decoded
        cases Tree.Is.of_single single with
        | @text _ token isText =>
          cases rest : tokensOf items closed with
          | error fault =>
            rw [rest] at decoded
            cases decoded
          | ok others =>
            rw [rest] at decoded
            cases decoded
            obtain ⟨whole, each⟩ := ih.mp rest
            exact ⟨whole, .cons isText each⟩
    · rintro ⟨whole, _ | ⟨isText, each⟩⟩
      rw [single_eq_ok_iff.mpr ⟨_, .text isText, rfl⟩]
      dsimp only
      rw [ih.mpr ⟨whole, each⟩]
      rfl

/-- **The values that are decoded are those of their kind.** -/
theorem Tree.decode_eq_ok_iff : tree.decode kind = .ok value ↔ Tree.Is kind tree value := by
  constructor
  · intro decoded
    cases kind with
    | tokens =>
      cases tree with
      | array items closed =>
        change (tokensOf items closed).map FieldValue.tokens = .ok value at decoded
        cases these : tokensOf items closed with
        | error fault =>
          rw [these] at decoded
          cases decoded
        | ok tokens =>
          rw [these] at decoded
          cases decoded
          obtain ⟨rfl, each⟩ := tokensOf_eq_ok_iff.mp these
          exact .tokens each
      | null | bool | number | string | object | broken => exact .of_single decoded
    | text | flag | signed | unsigned => exact .of_single decoded
  · intro is
    cases is with
    | text isText => exact single_eq_ok_iff.mpr ⟨_, .text isText, rfl⟩
    | @tokens items tokens each =>
      change (tokensOf items true).map FieldValue.tokens = _
      rw [tokensOf_eq_ok_iff.mpr ⟨rfl, each⟩]
      rfl
    | flag value => rfl
    | @signed numeral i isInteger range =>
      obtain ⟨low, high⟩ : -(twoTo 63 : Int) ≤ i ∧ i < (twoTo 63 : Int) := by
        simpa [inSignedRange] using range
      have narrow : twoTo 63 < twoTo 64 := by decide
      refine single_eq_ok_iff.mpr ⟨_, .integer isInteger low (by omega), ?_⟩
      rw [FieldKind.ofFound, if_pos range]
    | @unsigned numeral n isInteger range =>
      have high : n < twoTo 64 := by simpa [inUnsignedRange] using range
      refine single_eq_ok_iff.mpr ⟨_, .integer isInteger (by omega) (by omega), ?_⟩
      rw [FieldKind.ofFound, if_pos ⟨by omega, range⟩]
      rfl

end

end Json
end GatewayRouting
