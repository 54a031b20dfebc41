import GatewayRouting.Settings.Setting

/-!
# Single values in TOML

Keys, texts, numbers, dates and times. Each reader takes what it reads off the start of a text, or
says that it is not there. A number is read as a whole word first, so nothing of it is left over.
-/

namespace GatewayRouting
namespace Toml

/-! ## Spaces and comments -/

/-- A space or a tab. -/
def isBlankChar (c : Char) : Bool :=
  c = ' ' || c = '\t'

/-- A text without the spaces at its start. -/
def skipBlanks (text : List Char) : List Char :=
  text.dropWhile isBlankChar

/-- The end of a line. -/
def newline? : List Char → Option (List Char)
  | '\n' :: rest => some rest
  | '\r' :: '\n' :: rest => some rest
  | _ => none

/-- A character that may stand in a line: a tab, and all but control characters. -/
def isPlainChar (c : Char) : Bool :=
  c = '\t' || (' ' ≤ c && c ≠ '\x7f')

/-- A text without the comment at its start, if there is one. -/
def skipComment : List Char → List Char
  | '#' :: rest => rest.dropWhile isPlainChar
  | text => text

/-! ## Texts -/

/-- The character of an escape behind its backslash. -/
def escape? : List Char → Option (Char × List Char)
  | 'b' :: rest => some ('\x08', rest)
  | 'e' :: rest => some ('\x1b', rest)
  | 't' :: rest => some ('\t', rest)
  | 'n' :: rest => some ('\n', rest)
  | 'f' :: rest => some ('\x0c', rest)
  | 'r' :: rest => some ('\r', rest)
  | '"' :: rest => some ('"', rest)
  | '\\' :: rest => some ('\\', rest)
  | c :: rest => do
    let n ← if c = 'x' then some 2 else if c = 'u' then some 4 else if c = 'U' then some 8 else none
    if (rest.take n).length < n then none
    let value ← digitsValue? 16 0 (rest.take n)
    if h : value.isValidChar then some (Char.ofNatAux value h, rest.drop n) else none
  | [] => none

/-- Reads a text on one line up to its closing quote. Only double quotes have escapes. -/
def lineText? (quote : Char) : Nat → List Char → Option (List Char × List Char)
  | 0, _ => none
  | _ + 1, [] => none
  | fuel + 1, c :: rest =>
    if c = quote then some ([], rest)
    else if c = '\\' && quote = '"' then do
      let (c, rest) ← escape? rest
      let (text, rest) ← lineText? quote fuel rest
      return (c :: text, rest)
    else if isPlainChar c then do
      let (text, rest) ← lineText? quote fuel rest
      return (c :: text, rest)
    else none

/-- A backslash at the end of a line: spaces up to the end of the line, then all spaces and line
ends behind it. -/
def continued? (text : List Char) : Option (List Char) :=
  let rec skip : Nat → List Char → List Char
    | 0, text => text
    | fuel + 1, text =>
      match newline? (skipBlanks text) with
      | some rest => skip fuel rest
      | none => skipBlanks text
  (newline? (skipBlanks text)).map fun rest => skip rest.length rest

/-- Reads a text over several lines up to its three closing quotes, before which two more may
stand. The ends of its lines are kept as they are. -/
def linesText? (quote : Char) : Nat → List Char → Option (List Char × List Char)
  | 0, _ => none
  | _ + 1, [] => none
  | fuel + 1, c :: rest =>
    let quotes := ((c :: rest).takeWhile (· = quote)).length
    if 3 ≤ quotes then
      let inside := min (quotes - 3) 2
      some (List.replicate inside quote, (c :: rest).drop (inside + 3))
    else if c = '\\' && quote = '"' then
      match continued? rest with
      | some rest => linesText? quote fuel rest
      | none => do
        let (c, rest) ← escape? rest
        let (text, rest) ← linesText? quote fuel rest
        return (c :: text, rest)
    else
      match newline? (c :: rest) with
      | some after => do
        let lineEnd := (c :: rest).take (rest.length + 1 - after.length)
        let (text, rest) ← linesText? quote fuel after
        return (lineEnd ++ text, rest)
      | none =>
        if isPlainChar c then do
          let (text, rest) ← linesText? quote fuel rest
          return (c :: text, rest)
        else none

/-- A text between quotes, on one line or on several. -/
def text? : List Char → Option (List Char × List Char)
  | c :: rest =>
    if c = '"' || c = '\'' then
      match rest with
      | d :: e :: more =>
        if d = c && e = c then linesText? c (more.length + 1) ((newline? more).getD more)
        else lineText? c (rest.length + 1) rest
      | _ => lineText? c (rest.length + 1) rest
    else none
  | [] => none

/-! ## Keys -/

/-- One name of a key: bare, or a text on one line. -/
def name? (text : List Char) : Option (String × List Char) :=
  match text with
  | c :: rest =>
    if c = '"' || c = '\'' then
      (lineText? c (rest.length + 1) rest).map fun (name, rest) => (String.ofList name, rest)
    else
      match text.takeWhile Setting.isNameChar with
      | [] => none
      | name => some (String.ofList name, text.dropWhile Setting.isNameChar)
  | [] => none

/-- How many names a key may have, and how deep values may nest. -/
def deepest : Nat := 80

/-- Names with points between them, at most so many. -/
def names? : Nat → List Char → Option (List String × List Char)
  | 0, _ => none
  | most + 1, text => do
    let (name, rest) ← name? (skipBlanks text)
    match skipBlanks rest with
    | '.' :: rest => do
      let (names, rest) ← names? most rest
      return (name :: names, rest)
    | rest => return ([name], rest)

/-- A key. -/
def key? (text : List Char) : Option (List String × List Char) :=
  names? deepest text

/-! ## Numbers -/

/-- Digits without the underscores that may stand between two of them. -/
def ungrouped? (isDigit : Char → Bool) : List Char → Option (List Char)
  | [] => none
  | [c] => if isDigit c then some [c] else none
  | c :: '_' :: rest => if isDigit c then (ungrouped? isDigit rest).map (c :: ·) else none
  | c :: rest => if isDigit c then (ungrouped? isDigit rest).map (c :: ·) else none

/-- Decimal digits that do not start with a zero, unless that is all. -/
def wholeDigits? (text : List Char) : Option (List Char) :=
  (ungrouped? isDecimalDigit text).filter fun digits =>
    digits.length = 1 || digits.head? ≠ some '0'

/-- A whole number with a radix in front. -/
def radixNumber? (radix : Nat) (text : List Char) : Option Int := do
  let digits ← ungrouped? (fun c => (digitOfRadix? radix c).isSome) text
  let value ← natOfText? radix digits
  if inSignedRange 64 value then some value else none

/-- A number with a point or an exponent. -/
def realNumber? (negative : Bool) (text : List Char) : Option Double := do
  let isPart (c : Char) : Bool := isDecimalDigit c || c = '_'
  let whole ← wholeDigits? (text.takeWhile isPart)
  let rest := text.dropWhile isPart
  let (fraction, rest) ←
    match rest with
    | '.' :: rest => do
      some (← ungrouped? isDecimalDigit (rest.takeWhile isPart), rest.dropWhile isPart)
    | rest => some ([], rest)
  let exponent : Int ←
    match rest with
    | [] => if fraction.isEmpty then none else some 0
    | c :: rest =>
      if c = 'e' || c = 'E' then
        let (minus, digits) := match rest with
          | '-' :: digits => (true, digits)
          | '+' :: digits => (false, digits)
          | digits => (false, digits)
        (ungrouped? isDecimalDigit digits).map fun digits =>
          if minus then -(decimalValue digits : Int) else decimalValue digits
      else none
  let value := Double.ofDecimal negative (decimalValue (whole ++ fraction))
    (exponent - fraction.length)
  if value.isInfinite then none else some value

/-- A number behind its sign. -/
def unsignedNumber? (negative : Bool) (text : List Char) : Option Setting :=
  if text = "inf".toList then some (.real (.infinite negative))
  else if text = "nan".toList then some (.real .nan)
  else
    match wholeDigits? text with
    | some digits =>
      let value : Int := decimalValue digits
      let value := if negative then -value else value
      if inSignedRange 64 value then some (.integer value) else none
    | none => (realNumber? negative text).map .real

/-- A number that is a whole word. -/
def number? : List Char → Option Setting
  | '0' :: 'x' :: digits => (radixNumber? 16 digits).map .integer
  | '0' :: 'o' :: digits => (radixNumber? 8 digits).map .integer
  | '0' :: 'b' :: digits => (radixNumber? 2 digits).map .integer
  | '+' :: rest => unsignedNumber? false rest
  | '-' :: rest => unsignedNumber? true rest
  | rest => unsignedNumber? false rest

/-! ## Dates and times -/

/-- A number of exactly so many digits in a range. -/
def fixedDigits? (count low high : Nat) (text : List Char) : Option (Nat × List Char) :=
  let digits := text.take count
  let value := decimalValue digits
  if digits.length = count && digits.all isDecimalDigit && low ≤ value && value ≤ high then
    some (value, text.drop count)
  else none

/-- Takes a character off the start of a text. -/
def char? (expected : Char) : List Char → Option (List Char)
  | c :: rest => if c = expected then some rest else none
  | [] => none

/-- How many days a month has. -/
def daysOfMonth (year month : Nat) : Nat :=
  if month = 2 then
    if year % 4 = 0 && (year % 100 ≠ 0 || year % 400 = 0) then 29 else 28
  else if month = 4 || month = 6 || month = 9 || month = 11 then 30
  else 31

/-- A date, as it is written. -/
def date? (text : List Char) : Option (List Char × List Char) := do
  let (year, rest) ← fixedDigits? 4 0 9999 text
  let (month, rest) ← fixedDigits? 2 1 12 (← char? '-' rest)
  let (_, rest) ← fixedDigits? 2 1 (daysOfMonth year month) (← char? '-' rest)
  return (text.take 10, rest)

/-- A time of day, with or without seconds. Of a part of a second nine digits count, without zeros
at the end, but one digit at least. -/
def time? (text : List Char) : Option (List Char × List Char) := do
  let (_, rest) ← fixedDigits? 2 0 23 text
  let (_, rest) ← fixedDigits? 2 0 59 (← char? ':' rest)
  match rest with
  | ':' :: rest => do
    let (_, rest) ← fixedDigits? 2 0 60 rest
    match rest with
    | '.' :: rest =>
      let digits := rest.takeWhile isDecimalDigit
      if digits.isEmpty then none
      let kept := ((digits.take 9).reverse.dropWhile (· = '0')).reverse
      let part := if kept.isEmpty then ['0'] else kept
      return (text.take 8 ++ '.' :: part, rest.dropWhile isDecimalDigit)
    | rest => return (text.take 8, rest)
  | rest => return (text.take 5, rest)

/-- How far a time is from universal time; there may be nothing. No distance at all has a plus in
front. -/
def offset (text : List Char) : List Char × List Char :=
  match text with
  | 'Z' :: rest => (['Z'], rest)
  | 'z' :: rest => (['Z'], rest)
  | sign :: rest =>
    let distance? := do
      let (_, rest) ← fixedDigits? 2 0 23 rest
      let (_, rest) ← fixedDigits? 2 0 59 (← char? ':' rest)
      return rest
    match (if sign = '+' || sign = '-' then distance? else none) with
    | some after =>
      let distance := rest.take 5
      (if distance = "00:00".toList then '+' :: distance else sign :: distance, after)
    | none => ([], text)
  | [] => ([], [])

/-- A date, a time, or both, in its usual form. -/
def moment? (text : List Char) : Option (List Char × List Char) :=
  match date? text with
  | none => time? text
  | some (date, rest) =>
    let time := match rest with
      | c :: rest => if c = 'T' || c = 't' || c = ' ' then time? rest else none
      | [] => none
    match time with
    | some (time, rest) =>
      let (offset, rest) := offset rest
      some (date ++ 'T' :: time ++ offset, rest)
    | none => some (date, rest)

/-- A value that is neither a text nor made of others. -/
def bare? (text : List Char) : Option (Setting × List Char) :=
  match moment? text with
  | some (moment, rest) => some (.text (String.ofList moment), rest)
  | none =>
    let isPart (c : Char) : Bool := c.isAlphanum || c = '+' || c = '-' || c = '.' || c = '_'
    let word := text.takeWhile isPart
    let rest := text.dropWhile isPart
    if word = "true".toList then some (.flag true, rest)
    else if word = "false".toList then some (.flag false, rest)
    else (number? word).map fun value => (value, rest)

end Toml
end GatewayRouting
