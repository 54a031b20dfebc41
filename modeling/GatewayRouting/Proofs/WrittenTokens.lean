import GatewayRouting.Json.Layout
import GatewayRouting.Proofs.WrittenNumbers

/-!
# Tokens that were written are read

There are many ways to write a token: exponents with either letter, escapes that are not needed.
Whichever was taken (`Token.Spelled`), the token is read whatever follows, except that a number must
not be followed by what would go on with it (`Token.Spelled.first?`).

A token is *written* if its number is an integer as `Numeral.ofInt` writes it, and its text is
escaped as `RawText.ofChars` does it. A text is *laid out* for a list of tokens if it spells them in
order as they are written, with white space anywhere in between. Laid out text is read as its tokens
(`Laid.scans`), and both layouts lay their tokens out (`laid_compact`, `laid_pretty`), as long as no
number stands next to a number.
-/

namespace GatewayRouting
namespace Json

/-! ## Quoted text -/

/-- The ways to write a character of a quoted text. -/
inductive RawChar.Spelled : RawChar → List Char → Prop where
  /-- as itself -/
  | plain {c : Char} (visible : ¬ c < ' ') (quote : c ≠ '"') (backslash : c ≠ '\\') :
      Spelled (.plain c) [c]
  /-- as a short escape -/
  | short {letter c : Char} (meaning : shortMeaning? letter = some c) :
      Spelled (.short letter) ['\\', letter]
  /-- as an escaped unit, with digits of either case -/
  | unit {a b c d : Char} {value : Nat} (digits : unitValue? a b c d = some value) :
      Spelled (.unit value) ['\\', 'u', a, b, c, d]

/-- The ways to write what lies between two quotes. -/
inductive RawText.Spelled : RawText → List Char → Prop where
  | nil : Spelled [] []
  | cons {char : RawChar} {raw : RawText} {piece text : List Char} (here : char.Spelled piece)
      (rest : Spelled raw text) : Spelled (char :: raw) (piece ++ text)

namespace RawText

/-- One character is read, whatever follows. -/
theorem scan?_append {char : RawChar} {piece : List Char} (spelled : char.Spelled piece)
    (rest : List Char) :
    scan? (piece ++ rest) = (scan? rest).map fun (raw, rest) => (char :: raw, rest) := by
  cases spelled with
  | @plain c visible quote backslash =>
    have plain : (decide (c < ' ') || c == '\\') = false := by simp [visible, backslash]
    simp only [List.cons_append, List.nil_append]
    rw [scan?, plain]
    · cases scan? rest <;> rfl
    · exact quote
    · exact fun _ _ _ _ _ same _ => backslash same
    · exact fun _ _ same _ => backslash same
  | @short letter c meaning =>
    have notUnit : letter ≠ 'u' := by
      rintro rfl
      cases meaning
    simp only [List.cons_append, List.nil_append]
    rw [scan?, meaning]
    · cases scan? rest <;> rfl
    · exact fun _ _ _ _ _ same _ => notUnit same
  | unit digits =>
    simp only [List.cons_append, List.nil_append]
    rw [scan?, digits]
    cases scan? rest <;> rfl

/-- **A quoted text is read up to its closing quote.** -/
theorem Spelled.scan? {raw : RawText} {text : List Char} (spelled : raw.Spelled text)
    (rest : List Char) : RawText.scan? (text ++ '"' :: rest) = some (raw, rest) := by
  induction spelled with
  | nil => rfl
  | cons here _ ih => rw [List.append_assoc, scan?_append here, ih, Option.map_some]

theorem digitValue?_hexDigit : ∀ value < 16, digitValue? (hexDigit value) = some value := by
  decide

theorem unitValue?_hexDigits {value : Nat} (small : value < 65536) :
    unitValue? (hexDigit (value / 4096 % 16)) (hexDigit (value / 256 % 16))
      (hexDigit (value / 16 % 16)) (hexDigit (value % 16)) = some value := by
  have digit (n : Nat) : digitValue? (hexDigit (n % 16)) = some (n % 16) :=
    digitValue?_hexDigit (n % 16) (Nat.mod_lt n (by decide))
  have value_eq : ((value / 4096 % 16 * 16 + value / 256 % 16) * 16 + value / 16 % 16) * 16 +
      value % 16 = value := by omega
  simp [unitValue?, digit, value_eq]

/-- What stands for a character can be written. -/
theorem spelled_escape (c : Char) : (escape c).Spelled (escape c).spell := by
  unfold escape
  split
  · exact .short rfl
  split
  · exact .short rfl
  split
  · exact .short rfl
  split
  · exact .short rfl
  split
  · exact .short rfl
  split
  · exact .short rfl
  split
  · exact .short rfl
  split
  · next control =>
    have small : c.toNat < 32 := control
    exact .unit (unitValue?_hexDigits (by omega))
  · next visible => exact .plain visible ‹_› ‹_›

/-- What stands for a text can be written. -/
theorem spelled_ofChars (text : List Char) :
    (ofChars text).Spelled ((ofChars text).flatMap RawChar.spell) := by
  induction text with
  | nil => exact .nil
  | cons c text ih =>
    rw [ofChars, List.map_cons, List.flatMap_cons]
    exact .cons (spelled_escape c) ih

end RawText

/-! ## Tokens -/

namespace Token

/-- Whether a token is a number. -/
def isNumber : Token → Bool
  | .number _ => true
  | _ => false

/-- The ways to write a token. -/
inductive Spelled : Token → List Char → Prop where
  | openObject : Spelled .openObject ['{']
  | closeObject : Spelled .closeObject ['}']
  | openArray : Spelled .openArray ['[']
  | closeArray : Spelled .closeArray [']']
  | colon : Spelled .colon [':']
  | comma : Spelled .comma [',']
  | null : Spelled .null "null".toList
  | yes : Spelled (.bool true) "true".toList
  | no : Spelled (.bool false) "false".toList
  | number {numeral : Numeral} {text : List Char} (spelled : numeral.Spelled text) :
      Spelled (.number numeral) text
  | string {raw : RawText} {text : List Char} (spelled : raw.Spelled text) :
      Spelled (.string raw) ('"' :: text ++ ['"'])

/-- The tokens that are written. -/
inductive Written : Token → Prop where
  | openObject : Written .openObject
  | closeObject : Written .closeObject
  | openArray : Written .openArray
  | closeArray : Written .closeArray
  | colon : Written .colon
  | comma : Written .comma
  | null : Written .null
  | bool (value : Bool) : Written (.bool value)
  | number (i : Int) : Written (.number (.ofInt i))
  | string (text : List Char) : Written (.string (.ofChars text))

theorem Written.spelled {token : Token} (written : token.Written) :
    token.Spelled token.spell := by
  cases written with
  | openObject => exact .openObject
  | closeObject => exact .closeObject
  | openArray => exact .openArray
  | closeArray => exact .closeArray
  | colon => exact .colon
  | comma => exact .comma
  | null => exact .null
  | bool value =>
    cases value with
    | true => exact .yes
    | false => exact .no
  | number i => exact .number (Numeral.spelled_ofInt i)
  | string text => exact .string (RawText.spelled_ofChars text)

/-- The start of a number is not the start of any other token, and no space. -/
theorem number_starts {c : Char} (h : isDecimalDigit c = true ∨ c = '-') :
    isSpace c = false ∧ ∀ rest, first? c rest =
      (Numeral.scan? (c :: rest)).map fun (numeral, rest) => (.number numeral, rest) := by
  have other {d : Char} (no : ¬ (isDecimalDigit d = true ∨ d = '-')) : c ≠ d := by
    rintro rfl
    exact no h
  have words : c ≠ 'n' ∧ c ≠ 't' ∧ c ≠ 'f' :=
    ⟨other (by decide), other (by decide), other (by decide)⟩
  have signs : c ≠ '{' ∧ c ≠ '}' ∧ c ≠ '[' ∧ c ≠ ']' ∧ c ≠ ':' ∧ c ≠ ',' ∧ c ≠ '"' :=
    ⟨other (by decide), other (by decide), other (by decide), other (by decide),
      other (by decide), other (by decide), other (by decide)⟩
  have spaces : c ≠ ' ' ∧ c ≠ '\n' ∧ c ≠ '\t' ∧ c ≠ '\r' :=
    ⟨other (by decide), other (by decide), other (by decide), other (by decide)⟩
  exact ⟨by simp [isSpace, spaces], fun rest => by simp [first?, words, signs]⟩

/-- A token is read, whatever follows; only a number has to end there. -/
theorem Spelled.first? {token : Token} {text : List Char} (spelled : token.Spelled text)
    {rest : List Char} (ends : token.isNumber = true → Numeral.Ends rest) :
    ∃ c behind, text = c :: behind ∧ isSpace c = false ∧
      Token.first? c (behind ++ rest) = some (token, rest) := by
  cases spelled with
  | openObject | closeObject | openArray | closeArray | colon | comma | null | yes | no =>
    exact ⟨_, _, rfl, rfl, rfl⟩
  | @string raw text spelled =>
    refine ⟨'"', _, rfl, rfl, ?_⟩
    have scanned := spelled.scan? rest
    simp [Token.first?, scanned]
  | number spelled =>
    have scanned := spelled.scan? (ends rfl)
    obtain ⟨c, behind, rfl, starts⟩ := spelled.starts
    obtain ⟨space, first⟩ := number_starts starts
    rw [List.cons_append] at scanned
    exact ⟨c, behind, rfl, space, by rw [first, scanned, Option.map_some]⟩

/-- A number ends before every written token that is not a number. -/
theorem ends_spell {token : Token} (written : token.Written) (other : token.isNumber = false)
    (rest : List Char) : Numeral.Ends (token.spell ++ rest) := by
  intro c head
  cases written with
  | number i => cases other
  | bool value => cases value <;> (obtain rfl := Option.some.inj head; decide)
  | _ => obtain rfl := Option.some.inj head; decide

end Token

/-! ## Reading tokens off a text -/

/-- A text is read as these tokens, with any fuel that its length gives. -/
def Scans (text : List Char) (tokens : List Token) : Prop :=
  ∀ fuel ≥ text.length, Token.scanWithin fuel text = tokens

namespace Scans

variable {text : List Char} {tokens : List Token}

theorem nil : Scans [] [] := by
  intro fuel _
  cases fuel <;> rfl

theorem space {c : Char} (space : isSpace c = true) (rest : Scans text tokens) :
    Scans (c :: text) tokens := by
  intro fuel enough
  obtain ⟨fuel, rfl⟩ := Nat.exists_eq_add_one_of_ne_zero
    (Nat.ne_of_gt (Nat.lt_of_lt_of_le (Nat.succ_pos _) enough))
  rw [Token.scanWithin, if_pos space]
  exact rest fuel (Nat.le_of_succ_le_succ enough)

/-- Every token takes a character, so what the length gives is enough for the rest. -/
theorem token {token : Token} {spelled : List Char} (written : token.Spelled spelled)
    (ends : token.isNumber = true → Numeral.Ends text) (rest : Scans text tokens) :
    Scans (spelled ++ text) (token :: tokens) := by
  intro fuel enough
  obtain ⟨c, behind, rfl, space, first⟩ := written.first? ends
  rw [List.cons_append] at enough ⊢
  obtain ⟨fuel, rfl⟩ := Nat.exists_eq_add_one_of_ne_zero
    (Nat.ne_of_gt (Nat.lt_of_lt_of_le (Nat.succ_pos _) enough))
  have left : text.length ≤ fuel := by
    simp only [List.length_cons, List.length_append] at enough
    omega
  simp only [Token.scanWithin, space, first, rest fuel left]
  rfl

theorem scan (scans : Scans text tokens) : Token.scan text = tokens :=
  scans text.length (Nat.le_refl _)

end Scans

/-! ## Laid out text -/

/-- A text that spells tokens in order, with white space anywhere in between. -/
inductive Laid : List Char → List Token → Prop where
  | nil : Laid [] []
  | space {c : Char} {text : List Char} {tokens : List Token} (space : isSpace c = true)
      (rest : Laid text tokens) : Laid (c :: text) tokens
  | token {token : Token} {text : List Char} {tokens : List Token} (written : token.Written)
      (ends : token.isNumber = true → Numeral.Ends text) (rest : Laid text tokens) :
      Laid (token.spell ++ text) (token :: tokens)

namespace Laid

/-- Any number of spaces may stand before the rest. -/
theorem spaces {space text : List Char} {tokens : List Token}
    (blank : ∀ c ∈ space, isSpace c = true) (rest : Laid text tokens) :
    Laid (space ++ text) tokens := by
  induction space with
  | nil => exact rest
  | cons c space ih =>
    exact .space (blank c (by simp)) (ih fun c member => blank c (by simp [member]))

theorem newLine {text : List Char} {tokens : List Token} (depth : Nat) (rest : Laid text tokens) :
    Laid (newLine depth ++ text) tokens := by
  refine rest.spaces fun c member => ?_
  obtain rfl | member := List.mem_cons.mp member
  · rfl
  · obtain rfl := (List.mem_replicate.mp member).2
    rfl

/-- Laid out text is read as its tokens. -/
theorem scans {text : List Char} {tokens : List Token} (laid : Laid text tokens) :
    Scans text tokens := by
  induction laid with
  | nil => exact .nil
  | space space _ ih => exact .space space ih
  | token written ends _ ih => exact .token written.spelled ends ih

end Laid

/-! ## Both layouts -/

/-- Written tokens, no number next to a number: nothing has to stand between them. -/
inductive Readable : List Token → Prop where
  | nil : Readable []
  | cons {token : Token} {tokens : List Token} (written : token.Written)
      (apart : token.isNumber = true → ∀ next ∈ tokens.head?, next.isNumber = false)
      (rest : Readable tokens) : Readable (token :: tokens)

/-- A token that is no number may stand before any others. -/
theorem Readable.cons_other {token : Token} {tokens : List Token} (written : token.Written)
    (other : token.isNumber = false) (rest : Readable tokens) : Readable (token :: tokens) :=
  .cons written (fun number => absurd (other.symm.trans number) nofun) rest

/-- Written tokens with nothing between them are laid out. -/
theorem laid_compact {tokens : List Token} (readable : Readable tokens) :
    Laid (compact tokens) tokens := by
  induction readable with
  | nil => exact .nil
  | @cons token tokens written apart rest ih =>
    refine .token written (fun number => ?_) ih
    cases rest with
    | nil => intro c head; cases head
    | cons written _ _ => exact Token.ends_spell written (apart number _ rfl) _

/-- A number ends where the next line starts. -/
theorem ends_newLine (depth : Nat) (rest : List Char) : Numeral.Ends (newLine depth ++ rest) := by
  intro c head
  obtain rfl := Option.some.inj head
  decide

/-- A number ends before a token that is none, on the same line or on the next. -/
theorem ends_prettyFrom {tokens : List Token} (readable : Readable tokens)
    (other : ∀ next ∈ tokens.head?, next.isNumber = false) (depth : Nat) :
    Numeral.Ends (prettyFrom depth tokens) := by
  fun_cases prettyFrom depth tokens with
  | case1 => intro c head; cases head
  | case2 => exact Token.ends_spell .openArray rfl _
  | case3 => exact Token.ends_spell .openObject rfl _
  | case4 => exact Token.ends_spell .openArray rfl _
  | case5 => exact Token.ends_spell .openObject rfl _
  | case6 => exact ends_newLine _ _
  | case7 => exact ends_newLine _ _
  | case8 => exact Token.ends_spell .comma rfl _
  | case9 => exact Token.ends_spell .colon rfl _
  | case10 =>
    cases readable with
    | cons written _ _ => exact Token.ends_spell written (other _ rfl) _

/-- Written tokens on lines are laid out. -/
theorem laid_prettyFrom {tokens : List Token} (readable : Readable tokens) (depth : Nat) :
    Laid (prettyFrom depth tokens) tokens := by
  have after {token : Token} {tokens : List Token} (h : Readable (token :: tokens)) :
      Readable tokens := by
    cases h
    assumption
  fun_induction prettyFrom depth tokens with
  | case1 => exact .nil
  | case2 depth rest ih =>
    exact .token .openArray nofun (.token .closeArray nofun (ih (after (after readable))))
  | case3 depth rest ih =>
    exact .token .openObject nofun (.token .closeObject nofun (ih (after (after readable))))
  | case4 depth rest _ ih =>
    exact .token .openArray nofun ((ih (after readable)).newLine _)
  | case5 depth rest _ ih =>
    exact .token .openObject nofun ((ih (after readable)).newLine _)
  | case6 depth rest ih =>
    exact Laid.newLine _ (.token .closeArray nofun (ih (after readable)))
  | case7 depth rest ih =>
    exact Laid.newLine _ (.token .closeObject nofun (ih (after readable)))
  | case8 depth rest ih =>
    exact .token .comma nofun ((ih (after readable)).newLine _)
  | case9 depth rest ih =>
    exact .token .colon nofun (.space rfl (ih (after readable)))
  | case10 depth token rest _ _ _ _ _ _ _ _ ih =>
    cases readable with
    | cons written apart rest =>
      exact .token written (fun number => ends_prettyFrom rest (apart number) depth) (ih rest)

/-- Written tokens laid out for reading are laid out. -/
theorem laid_pretty {tokens : List Token} (readable : Readable tokens) :
    Laid (pretty tokens) tokens :=
  laid_prettyFrom readable 0

end Json
end GatewayRouting
