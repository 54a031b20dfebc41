import GatewayRouting.Yaml.Text

/-!
# Texts of scalars in settings

A settings file is stricter about indentation than a routes file and freer about characters. Only
line feeds and carriage returns end a line, and every end of a line inside a text is read as a line
feed. A text that runs over several lines has to stay right of the block that it is in: a plain text
ends left of it, a quoted one is then not well formed.

Each reader gives the text and the place behind it, or nothing where the text is not well formed.
-/

namespace GatewayRouting
namespace SettingsYaml

open Yaml (Cursor Gap ScalarText Chomping isSpaceOrTab isFlowMark)

/-! ## Lines -/

/-- A character that ends a line. -/
def isLineEnd (c : Char) : Bool :=
  c = '\n' || c = '\r'

/-- Whether a text starts with the end of a line, or is at its end. -/
def atLineEnd : List Char → Bool
  | [] => true
  | c :: _ => isLineEnd c

/-- Whether a text starts with a space, a tab or the end of a line, or is at its end. -/
def atGap : List Char → Bool
  | [] => true
  | c :: _ => isSpaceOrTab c || isLineEnd c

/-- Whether a text starts with a bracket, a brace or a comma. -/
def atFlowMark (text : List Char) : Bool :=
  text.head?.any isFlowMark

/-- Whether a line starts here with the mark at the end of a document. -/
def atDocumentEnd (cursor : Cursor) : Bool :=
  cursor.column = 0 &&
    match cursor.rest with
    | '.' :: '.' :: '.' :: rest => atGap rest
    | _ => false

/-- Whether a line starts here with the mark at the start of a document. -/
def atDocumentStart (cursor : Cursor) : Bool :=
  cursor.column = 0 &&
    match cursor.rest with
    | '-' :: '-' :: '-' :: rest => atGap rest
    | _ => false

/-- Whether a line starts here with one of the marks between documents. -/
def atDocumentMark (cursor : Cursor) : Bool :=
  atDocumentStart cursor || atDocumentEnd cursor

/-- What is passed between a token and the end of its line, or the next token on it. -/
structure Passed where
  /-- the place behind it -/
  rest : Cursor
  /-- whether there was a space -/
  hasSpace : Bool
  /-- whether there was a tab -/
  hasTab : Bool

/-- Passes spaces, tabs and a comment. Before a comment there has to be a space or a tab. -/
def passBlanks? (cursor : Cursor) : Option Passed :=
  let blanks := cursor.run isSpaceOrTab
  let rest := cursor.skip blanks.length
  let passed (rest : Cursor) : Passed := ⟨rest, blanks.contains ' ', blanks.contains '\t'⟩
  if rest.rest.head? == some '#' then
    if blanks.isEmpty then none else some (passed (rest.skipRun fun c => !isLineEnd c))
  else some (passed rest)

/-! ## Gaps -/

/-- Reads on through spaces and line ends. With `onTab` a tab that starts a new line left of
`margin` is passed. A comment passed so takes the end of its line along. -/
def gapOn (margin : Int) (onTab : Cursor → Option Cursor) :
    Nat → Cursor → Gap → Option (Gap × Cursor)
  | 0, cursor, gap => some (gap, cursor)
  | fuel + 1, cursor, gap =>
    match cursor.rest with
    | [] => some (gap, cursor)
    | c :: _ =>
      if isSpaceOrTab c then
        if !gap.isMultiline then
          gapOn margin onTab fuel (cursor.skip 1) { gap with spaces := gap.spaces ++ [c] }
        else if c = '\t' && cursor.column < margin then
          match onTab cursor with
          | none => none
          | some cursor =>
            gapOn margin onTab fuel (if cursor.leads then cursor else cursor.skipBreak) gap
        else gapOn margin onTab fuel (cursor.skip 1) gap
      else if isLineEnd c then
        gapOn margin onTab fuel cursor.skipBreak { gap with breaks := gap.breaks ++ ['\n'] }
      else some (gap, cursor)

/-- The gap from here on inside a plain text, in which such a tab may stand on a line without
anything else. -/
def plainGap? (margin : Int) (cursor : Cursor) : Option (Gap × Cursor) :=
  let onTab (cursor : Cursor) : Option Cursor :=
    match passBlanks? cursor with
    | some passed => if atLineEnd passed.rest.rest then some passed.rest else none
    | none => none
  gapOn margin onTab cursor.rest.length cursor {}

/-- The gap from here on inside a quoted text, in which no such tab may stand. -/
def quotedGap? (indent : Int) (cursor : Cursor) (gap : Gap) : Option (Gap × Cursor) :=
  gapOn indent (fun _ => none) cursor.rest.length cursor gap

/-! ## Plain texts -/

/-- Whether a plain text ends at a character that is no gap: at a colon before a gap, and inside
brackets at their marks and at a colon before one of those. -/
def endsPlain (inFlow : Bool) (c : Char) (rest : List Char) : Bool :=
  (c = ':' && (atGap rest || (inFlow && atFlowMark rest))) || (inFlow && isFlowMark c)

/-- A piece of a plain text without spaces. -/
def plainPiece (inFlow : Bool) : List Char → List Char
  | [] => []
  | c :: rest =>
    if isSpaceOrTab c || isLineEnd c || endsPlain inFlow c rest then []
    else c :: plainPiece inFlow rest

/-- Reads a plain text on, behind a gap. Outside brackets it ends with the first line that starts
left of `margin`; inside brackets no piece may be a dash before a mark. -/
def plainFrom (inFlow : Bool) (margin : Int) :
    Nat → Cursor → Gap → List Char → Option ScalarText
  | 0, cursor, gap, text => some ⟨text, cursor, gap.isMultiline⟩
  | fuel + 1, cursor, gap, text =>
    if atDocumentMark cursor || cursor.rest.head? == some '#' then
      some ⟨text, cursor, gap.isMultiline⟩
    else if inFlow && cursor.rest.head? == some '-' && atFlowMark cursor.rest.tail then none
    else do
      let piece := plainPiece inFlow cursor.rest
      let text := if piece.isEmpty then text else text ++ gap.folded ++ piece
      let gap := if piece.isEmpty then gap else {}
      let cursor := cursor.skip piece.length
      if piece.isEmpty || cursor.rest.isEmpty || !atGap cursor.rest then
        return ⟨text, cursor, gap.isMultiline⟩
      let (gap, cursor) ← plainGap? margin cursor
      if !inFlow && cursor.column < margin then return ⟨text, cursor, gap.isMultiline⟩
      plainFrom inFlow margin fuel cursor gap text

/-- The plain text from here on, which is not empty; `indent` is the indentation of the block that
it is in. Inside brackets it has to start right of that. -/
def plain? (inFlow : Bool) (indent : Int) (cursor : Cursor) : Option ScalarText := do
  if inFlow && cursor.column < indent + 1 then none
  let text ← plainFrom inFlow (indent + 1) (cursor.rest.length + 1) cursor {} []
  if text.text.isEmpty then none else some text

/-! ## Quoted texts -/

/-- Reads a quoted text on, up to its closing quote. Between double quotes a backslash escapes a
character or the end of the line; between single quotes a quote is written twice. -/
def quotedFrom (quote : Char) (indent : Int) : Nat → Cursor → List Char → Option ScalarText
  | 0, _, _ => none
  | fuel + 1, cursor, text =>
    match cursor.rest with
    | [] => none
    | c :: rest =>
      if c = '\'' && quote = '\'' && rest.head? = some '\'' then
        quotedFrom quote indent fuel (cursor.skip 2) (text ++ ['\''])
      else if c = quote then some { text, rest := cursor.skip 1 }
      else if c = '\\' && quote = '"' then
        if rest.head?.any isLineEnd then
          let cursor := (cursor.skip 1).skipBreak
          if cursor.rest.head? = some quote then some { text, rest := cursor.skip 1 }
          else readGap fuel cursor { escaped := true } text
        else
          match Yaml.escaped? rest with
          | some (c, n) => quotedFrom quote indent fuel (cursor.skip (n + 1)) (text ++ [c])
          | none => none
      else if isSpaceOrTab c || isLineEnd c then readGap fuel cursor {} text
      else quotedFrom quote indent fuel (cursor.skip 1) (text ++ [c])
where
  /-- A gap, behind which the text has to go on right of the indentation, and not with a mark
  between documents. -/
  readGap (fuel : Nat) (cursor : Cursor) (gap : Gap) (text : List Char) : Option ScalarText :=
    match quotedGap? indent cursor gap with
    | none => none
    | some (gap, cursor) =>
      if atDocumentMark cursor || cursor.column < indent then none
      else quotedFrom quote indent fuel cursor (text ++ gap.folded)

/-- What may follow a quoted text on its line: nothing, a colon, and inside brackets what goes on
with the list or map. Outside brackets the colon has to be on the line where the text starts. -/
def mayFollowQuoted (inFlow : Bool) (startLine : Nat) (cursor : Cursor) : Bool :=
  match cursor.rest with
  | [] => true
  | c :: _ =>
    isLineEnd c || (inFlow && (c = ',' || c = '}' || c = ']' || c = ':')) ||
      (c = ':' && startLine = cursor.line)

/-- The quoted text from here on, with the spaces and the comment behind it; the cursor stands at
the opening quote. -/
def quoted? (quote : Char) (inFlow : Bool) (indent : Int) (cursor : Cursor) :
    Option ScalarText := do
  let text ← quotedFrom quote indent (cursor.rest.length + 1) (cursor.skip 1) []
  let passed ← passBlanks? text.rest
  if mayFollowQuoted inFlow cursor.line passed.rest then some { text with rest := passed.rest }
  else none

/-! ## Blocks -/

/-- Reads blank lines and the indentation of the line behind them; `widest` is the widest
indentation so far. Without a known indentation all spaces are skipped. -/
def blankLines (indent : Option Nat) : Nat → Nat → Cursor → List Char → Nat × List Char × Cursor
  | 0, widest, cursor, breaks => (widest, breaks, cursor)
  | fuel + 1, widest, cursor, breaks =>
    let spaces := (cursor.run (· = ' ')).length
    let cursor := cursor.skip (indent.elim spaces fun n => min spaces (n - cursor.column))
    let widest := max widest cursor.column
    if cursor.rest.head?.any isLineEnd then
      blankLines indent fuel widest cursor.skipBreak (breaks ++ ['\n'])
    else (widest, breaks, cursor)

/-- Reads the lines of a block that have the indentation. -/
def blockLines (folds : Bool) (indent : Nat) :
    Nat → Cursor → Yaml.BlockText → Yaml.BlockText × Cursor
  | 0, cursor, block => (block, cursor)
  | fuel + 1, cursor, block =>
    if cursor.column ≠ indent || cursor.rest.isEmpty || atDocumentEnd cursor then (block, cursor)
    else
      let spaced := cursor.rest.head?.any isSpaceOrTab
      let joint :=
        if folds && !block.lineEnd.isEmpty && !block.afterSpaced && !spaced then
          if block.blanks.isEmpty then [' '] else []
        else block.lineEnd
      let line := cursor.run fun c => !isLineEnd c
      let text := block.text ++ joint ++ block.blanks ++ line
      let cursor := cursor.skip line.length
      if cursor.rest.isEmpty then (⟨text, [], [], spaced⟩, cursor)
      else
        let cursor := cursor.skipBreak
        let (_, blanks, cursor) := blankLines (some indent) (cursor.rest.length + 1) 0 cursor []
        blockLines folds indent fuel cursor ⟨text, ['\n'], blanks, spaced⟩

/-- The text of a block without lines, by the end of the line with its mark and the blank lines
behind that. -/
def emptyBlock (chomping : Chomping) (lineEnd blanks : List Char) : List Char :=
  if lineEnd.isEmpty then []
  else
    match chomping with
    | .strip => []
    | .clip => lineEnd
    | .keep => if blanks.isEmpty then lineEnd else blanks

/-- What stays of the end of a block. A last line that the text ends in the middle of counts as
ended. -/
def blockTail (chomping : Chomping) (indent : Nat) (cursor : Cursor) (block : Yaml.BlockText) :
    List Char :=
  let cut := if cursor.rest.isEmpty && max indent 1 ≤ cursor.column then ['\n'] else []
  match chomping with
  | .strip => []
  | .clip => block.lineEnd ++ cut
  | .keep => block.lineEnd ++ cut ++ block.blanks

/-- The block from here on; the cursor stands at its mark. `parent` is the indentation of what is
around it; −1 stands for nothing. -/
def block? (parent : Int) (cursor : Cursor) : Option ScalarText := do
  let folds := cursor.rest.head? == some '>'
  let (chomping, signed, cursor) ← Yaml.blockSigns? (cursor.skip 1)
  let cursor := (← passBlanks? cursor).rest
  if !atLineEnd cursor.rest then none
  let lineEnd := if cursor.rest.isEmpty then [] else ['\n']
  let cursor := cursor.skipBreak
  if cursor.rest.head? == some '\t' then none
  let known := signed.map fun n => parent.toNat + n
  let (widest, blanks, cursor) := blankLines known (cursor.rest.length + 1) 0 cursor []
  let found := max widest (parent + 1).toNat
  let indent := known.getD (if 0 < parent then max found 1 else found)
  if cursor.rest.isEmpty then
    return { text := emptyBlock chomping lineEnd blanks, rest := cursor, endsLine := true }
  if cursor.column < indent && parent < cursor.column then none
  let (block, cursor) :=
    blockLines folds indent (cursor.rest.length + 1) cursor ⟨[], [], blanks, false⟩
  return {
    text := block.text ++ blockTail chomping indent cursor block
    rest := cursor
    endsLine := true }

end SettingsYaml
end GatewayRouting
