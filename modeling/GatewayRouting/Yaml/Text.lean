import GatewayRouting.Text.Digits
import GatewayRouting.Yaml.Cursor

/-!
# Texts of scalars

A scalar is written plainly, between quotes, or as a block of lines. Plain and quoted texts may
run over several lines. The space between two pieces of such a text is a `Gap`, and
`Gap.folded` says what it stands for: spaces within a line stand for themselves, one line end
stands for a space, and further line ends stand for themselves. A block keeps its line ends, or
folds them in the same way.

Each reader gives the text and the place behind it, or nothing where the text is not well formed.
-/

namespace GatewayRouting
namespace Yaml

/-! ## Gaps -/

/-- Spaces and line ends between two pieces of a text. -/
structure Gap where
  /-- the spaces and tabs before the first line end -/
  spaces : List Char := []
  /-- the line ends -/
  breaks : List Char := []
  /-- whether it began with a line end that was escaped -/
  escaped : Bool := false

namespace Gap

/-- Whether the gap reaches into another line. -/
def isMultiline (gap : Gap) : Bool :=
  gap.escaped || !gap.breaks.isEmpty

/-- What a gap stands for. -/
def folded (gap : Gap) : List Char :=
  if gap.escaped then gap.breaks
  else
    match gap.breaks with
    | [] => gap.spaces
    | c :: more => if c = '\n' then (if more.isEmpty then [' '] else more) else c :: more

/-- Reads on through spaces and line ends. With `margin`, a tab before that column on a new line
is not well formed. -/
def readOn (margin : Nat) : Nat → Cursor → Gap → Option (Gap × Cursor)
  | 0, cursor, gap => some (gap, cursor)
  | fuel + 1, cursor, gap =>
    match cursor.rest with
    | [] => some (gap, cursor)
    | c :: _ =>
      if isSpaceOrTab c then
        if gap.isMultiline then
          if c = '\t' && cursor.column < margin then none
          else readOn margin fuel (cursor.skip 1) gap
        else readOn margin fuel (cursor.skip 1) { gap with spaces := gap.spaces ++ [c] }
      else if isBreak c then
        readOn margin fuel cursor.skipBreak
          { gap with breaks := gap.breaks ++ [Cursor.breakChar c] }
      else some (gap, cursor)

/-- The gap from here on. -/
def read? (margin : Nat) (cursor : Cursor) (gap : Gap := {}) : Option (Gap × Cursor) :=
  readOn margin cursor.rest.length cursor gap

end Gap

/-! ## Plain texts -/

/-- The brackets and the comma, which end a plain text inside brackets. -/
def isFlowMark (c : Char) : Bool :=
  c = ',' || c = '[' || c = ']' || c = '{' || c = '}'

/-- A piece of a plain text without spaces. A colon before a gap ends it, and so does a bracket or
a comma inside brackets; a colon right before one of those, or before a question mark, is not well
formed there. -/
def plainPiece? (inFlow : Bool) : List Char → Option (List Char)
  | [] => some []
  | c :: rest =>
    if isSpaceOrTab c || isBreak c then some []
    else if inFlow && c = ':' && rest.head?.any (fun d => isFlowMark d || d = '?') then none
    else if (c = ':' && atGap rest) || (inFlow && isFlowMark c) then some []
    else (plainPiece? inFlow rest).map (c :: ·)

/-- What was read of a scalar. -/
structure ScalarText where
  /-- the text -/
  text : List Char
  /-- the place behind it -/
  rest : Cursor
  /-- whether a line ended before that place, so that a new key may start there -/
  endsLine : Bool := false

/-- Reads a plain text on, behind a gap. Outside brackets it ends with the first line that starts
left of `margin`. -/
def plainFrom (inFlow : Bool) (margin : Nat) :
    Nat → Cursor → Gap → List Char → Option ScalarText
  | 0, cursor, gap, text => some ⟨text, cursor, gap.isMultiline⟩
  | fuel + 1, cursor, gap, text =>
    if cursor.atDocumentMark || cursor.rest.head? == some '#' then
      some ⟨text, cursor, gap.isMultiline⟩
    else do
      let piece ← plainPiece? inFlow cursor.rest
      let text := if piece.isEmpty then text else text ++ gap.folded ++ piece
      let gap := if piece.isEmpty then gap else {}
      let cursor := cursor.skip piece.length
      if piece.isEmpty || cursor.rest.isEmpty || !atGap cursor.rest then
        return ⟨text, cursor, gap.isMultiline⟩
      let (gap, cursor) ← Gap.read? margin cursor
      if !inFlow && cursor.column < margin then return ⟨text, cursor, gap.isMultiline⟩
      plainFrom inFlow margin fuel cursor gap text

/-- The plain text from here on. -/
def plain? (inFlow : Bool) (margin : Nat) (cursor : Cursor) : Option ScalarText :=
  plainFrom inFlow margin (cursor.rest.length + 1) cursor {} []

/-! ## Quoted texts -/

/-- The character that an escape with a letter stands for. -/
def escapeMeaning? : Char → Option Char
  | '0' => some '\x00'
  | 'a' => some '\x07'
  | 'b' => some '\x08'
  | 't' => some '\t'
  | '\t' => some '\t'
  | 'n' => some '\n'
  | 'v' => some '\x0b'
  | 'f' => some '\x0c'
  | 'r' => some '\r'
  | 'e' => some '\x1b'
  | ' ' => some ' '
  | '"' => some '"'
  | '/' => some '/'
  | '\\' => some '\\'
  | 'N' => some '\u0085'
  | '_' => some '\u00a0'
  | 'L' => some '\u2028'
  | 'P' => some '\u2029'
  | _ => none

/-- How many digits an escape by number has. -/
def escapeDigits? : Char → Option Nat
  | 'x' => some 2
  | 'u' => some 4
  | 'U' => some 8
  | _ => none

/-- The character of a number, unless it is none. -/
def charOfNumber? (n : Nat) : Option Char :=
  if h : n.isValidChar then some (Char.ofNatAux n h) else none

/-- The character of an escape behind its backslash, and the length of the escape. -/
def escaped? : List Char → Option (Char × Nat)
  | [] => none
  | c :: rest =>
    match escapeDigits? c with
    | some n => do
      let digits := rest.take n
      if digits.length < n then none
      let value ← digitsValue? 16 0 digits
      let c ← charOfNumber? value
      return (c, n + 1)
    | none => (escapeMeaning? c).map fun c => (c, 1)

/-- Reads a quoted text on, up to its closing quote. Between double quotes a backslash escapes a
character or the end of the line; between single quotes a quote is written twice. -/
def quotedFrom (quote : Char) : Nat → Cursor → List Char → Option ScalarText
  | 0, _, _ => none
  | fuel + 1, cursor, text =>
    match cursor.rest with
    | [] => none
    | c :: rest =>
      if c = '\'' && quote = '\'' && rest.head? = some '\'' then
        quotedFrom quote fuel (cursor.skip 2) (text ++ ['\''])
      else if c = quote then some { text, rest := cursor.skip 1 }
      else if c = '\\' && quote = '"' then
        if rest.head?.any isBreak then
          readGap fuel (cursor.skip 1).skipBreak { escaped := true } text
        else
          match escaped? rest with
          | some (c, n) => quotedFrom quote fuel (cursor.skip (n + 1)) (text ++ [c])
          | none => none
      else if isSpaceOrTab c || isBreak c then readGap fuel cursor {} text
      else quotedFrom quote fuel (cursor.skip 1) (text ++ [c])
where
  /-- A gap, behind which no mark between documents may stand. -/
  readGap (fuel : Nat) (cursor : Cursor) (gap : Gap) (text : List Char) : Option ScalarText :=
    match Gap.read? 0 cursor gap with
    | none => none
    | some (gap, cursor) =>
      if cursor.atDocumentMark then none else quotedFrom quote fuel cursor (text ++ gap.folded)

/-- The quoted text from here on; the cursor stands at the opening quote. -/
def quoted? (quote : Char) (cursor : Cursor) : Option ScalarText :=
  quotedFrom quote (cursor.rest.length + 1) (cursor.skip 1) []

/-! ## Blocks -/

/-- What becomes of the line ends at the end of a block. -/
inductive Chomping where
  /-- one is kept -/
  | clip
  /-- none is kept -/
  | strip
  /-- all are kept -/
  | keep
deriving DecidableEq

/-- The signs behind a block's mark: chomping and indentation, in either order. A sign is given at
most once, and the indentation is not zero. -/
def blockSigns? (cursor : Cursor) : Option (Chomping × Option Nat × Cursor) :=
  let chomping? (c : Char) : Option Chomping :=
    if c = '+' then some .keep else if c = '-' then some .strip else none
  let indent? (cursor : Cursor) : Option (Option Nat × Cursor) :=
    match cursor.rest with
    | c :: _ =>
      if isDecimalDigit c then
        if c = '0' then none else some (some (decimalValue [c]), cursor.skip 1)
      else some (none, cursor)
    | [] => some (none, cursor)
  match cursor.rest with
  | [] => some (.clip, none, cursor)
  | c :: _ =>
    match chomping? c with
    | some chomping => do
      let (indent, cursor) ← indent? (cursor.skip 1)
      return (chomping, indent, cursor)
    | none => do
      let (indent, cursor) ← indent? cursor
      if indent.isNone then return (.clip, none, cursor)
      match cursor.rest.head?.bind chomping? with
      | some chomping => return (chomping, indent, cursor.skip 1)
      | none => return (.clip, indent, cursor)

/-- Reads blank lines and the indentation of the line behind them; `widest` is the widest
indentation so far. Without a known indentation all spaces are skipped. A tab instead of a space of
the indentation is not well formed. -/
def blankLines (indent : Option Nat) :
    Nat → Nat → Cursor → List Char → Option (Nat × List Char × Cursor)
  | 0, widest, cursor, breaks => some (widest, breaks, cursor)
  | fuel + 1, widest, cursor, breaks =>
    let spaces := (cursor.run (· = ' ')).length
    let spaces := match indent with
      | some n => min spaces (n - cursor.column)
      | none => spaces
    let cursor := cursor.skip spaces
    let widest := max widest cursor.column
    match cursor.rest with
    | [] => some (widest, breaks, cursor)
    | c :: _ =>
      if c = '\t' && indent.all (cursor.column < ·) then none
      else if isBreak c then
        blankLines indent fuel widest cursor.skipBreak (breaks ++ [Cursor.breakChar c])
      else some (widest, breaks, cursor)

/-- A block on its way. -/
structure BlockText where
  /-- the text so far, without the line end behind the last line -/
  text : List Char
  /-- that line end; there is none before the first line -/
  lineEnd : List Char
  /-- the line ends of the blank lines behind it -/
  blanks : List Char
  /-- whether the last line starts with a space or a tab, which keeps its neighbours unfolded -/
  afterSpaced : Bool

/-- Reads the lines of a block that have the indentation. -/
def blockLines (folds : Bool) (indent : Nat) :
    Nat → Cursor → BlockText → Option (BlockText × Cursor)
  | 0, cursor, block => some (block, cursor)
  | fuel + 1, cursor, block =>
    if cursor.column = indent && !cursor.rest.isEmpty then do
      let spaced := cursor.rest.head?.any isSpaceOrTab
      let joint :=
        if folds && block.lineEnd.head? == some '\n' && !block.afterSpaced && !spaced then
          if block.blanks.isEmpty then [' '] else []
        else block.lineEnd
      let line := cursor.run fun c => !isBreak c
      let cursor := cursor.skip line.length
      let lineEnd := match cursor.rest with
        | [] => []
        | c :: _ => [Cursor.breakChar c]
      let cursor := cursor.skipBreak
      let (_, blanks, cursor) ← blankLines (some indent) (cursor.rest.length + 1) 0 cursor []
      blockLines folds indent fuel cursor
        ⟨block.text ++ joint ++ block.blanks ++ line, lineEnd, blanks, spaced⟩
    else some (block, cursor)

/-- The block from here on; the cursor stands at its mark. `parent` is the indentation of what is
around it; −1 stands for nothing. -/
def block? (parent : Int) (cursor : Cursor) : Option ScalarText := do
  let folds := cursor.rest.head? == some '>'
  let (chomping, signed, cursor) ← blockSigns? (cursor.skip 1)
  let cursor := (cursor.skipRun isSpaceOrTab).skipComment
  if !atLineEnd cursor.rest then none
  let cursor := cursor.skipBreak
  let known := signed.map fun n => parent.toNat + n
  let (widest, blanks, cursor) ← blankLines known (cursor.rest.length + 1) 0 cursor []
  let indent := known.getD (max (max widest (parent + 1).toNat) 1)
  let (block, cursor) ←
    blockLines folds indent (cursor.rest.length + 1) cursor ⟨[], [], blanks, false⟩
  let tail := match chomping with
    | .strip => []
    | .clip => block.lineEnd
    | .keep => block.lineEnd ++ block.blanks
  return { text := block.text ++ tail, rest := cursor, endsLine := true }

end Yaml
end GatewayRouting
