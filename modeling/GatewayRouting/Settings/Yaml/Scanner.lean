import GatewayRouting.Settings.Yaml.Tag
import GatewayRouting.Yaml.Candidate
import GatewayRouting.Yaml.Token

/-!
# The tokens of settings

Tokens are found from left to right, with two memories. One holds the columns of the blocks that
are open; behind the start of an entry the text has to stay right of that column, which is kept as
the column of a margin, by one larger than the block's. The other holds the tokens that could be
keys: outside brackets such a token has to end on its line, and within 1024 characters.

An entry alone between brackets, without braces, is a map of its own. Where it begins is found out
at its colon, and it ends at the next comma or closing bracket.
-/

namespace GatewayRouting
namespace SettingsYaml

open Yaml (Cursor Token Tokens Candidate Candidates ScalarText insertToken)

/-- What is known at a place of the text. -/
structure Scanner where
  /-- the place -/
  cursor : Cursor
  /-- the tokens so far, the last first -/
  tokens : List Token := []
  /-- the column of the innermost open block or margin; −1 if there is none -/
  indent : Int := -1
  /-- the columns around it, the innermost first, each with whether the one inside is a block's -/
  outer : List (Int × Bool) := []
  /-- what could be a key -/
  candidates : Candidates := [none]
  /-- whether a key can start here -/
  keyAllowed : Bool := true
  /-- the place behind a quoted text or a closing bracket, where a colon needs no gap behind it -/
  adjacent : Option Nat := none
  /-- whether what is between brackets is taken for entries of a map -/
  inEntries : Bool := false
  /-- for every open bracket of a list, whether an entry alone is open in it -/
  alone : List Bool := []
deriving Inhabited

namespace Scanner

/-- Whether the place is inside brackets. -/
def inFlow (s : Scanner) : Bool :=
  s.candidates.inFlow

/-- Adds a token. -/
def push (s : Scanner) (token : Token) : Scanner :=
  { s with tokens := token :: s.tokens }

/-- Puts a token at a position among those so far. -/
def insertAt (s : Scanner) (position : Nat) (token : Token) : Scanner :=
  { s with tokens := insertToken position token s.tokens }

/-- Says whether a key can start behind this. -/
def allowKey (s : Scanner) (allowed : Bool) : Scanner :=
  { s with keyAllowed := allowed }

/-- Goes on by some characters, and past the spaces and the comment behind them. -/
def pass? (s : Scanner) (n : Nat) : Option Scanner :=
  (passBlanks? (s.cursor.skip n)).map fun passed => { s with cursor := passed.rest }

/-! ## Candidates -/

/-- Whether a candidate can still be a key. -/
def isFresh (s : Scanner) (candidate : Candidate) : Bool :=
  s.inFlow || (s.cursor.line ≤ candidate.place.line &&
    s.cursor.index ≤ candidate.place.index + 1024)

/-- Drops the candidates that cannot be keys any more. None of them may have been required. -/
def dropStale? (s : Scanner) : Option Scanner :=
  (s.candidates.dropStale? s.isFresh).map fun candidates => { s with candidates }

/-- Drops the innermost candidate, which may not have been required. -/
def dropCandidate? (s : Scanner) : Option Scanner :=
  s.candidates.dropInnermost?.map fun candidates => { s with candidates }

/-- Whether the innermost column is a block's, and not a margin's. -/
def atBlock (s : Scanner) : Bool :=
  s.outer.head?.any (·.2)

/-- Remembers that the next token could be a key, if one can start here. -/
def remember (s : Scanner) : Scanner :=
  if s.keyAllowed then
    let required := !s.inFlow && s.indent == s.cursor.column && s.atBlock
    { s with candidates := some ⟨required, s.tokens.length, s.cursor⟩ :: s.candidates.tail }
  else s

/-! ## Indentation -/

/-- Gives up the margins inside the innermost block. -/
def dropMargins (s : Scanner) : Scanner :=
  go s.outer s
where
  /-- One margin after the other. -/
  go : List (Int × Bool) → Scanner → Scanner
    | (indent, false) :: outer, s => go outer { s with indent, outer }
    | _, s => s

/-- Opens a block at a column right of the innermost one. A margin at or left of the column gives
way. The block's token goes to a position if one is given, and to the end otherwise. -/
def openBlock (s : Scanner) (column : Nat) (position : Option Nat) (token : Token) : Scanner :=
  if s.inFlow then s
  else
    let s := match s.outer with
      | (indent, false) :: outer => if s.indent ≤ column then { s with indent, outer } else s
      | _ => s
    if (column : Int) ≤ s.indent then s
    else
      let s := { s with outer := (s.indent, true) :: s.outer, indent := column }
      match position with
      | some position => s.insertAt position token
      | none => s.push token

/-- Sets a margin right of the innermost block. -/
def openMargin (s : Scanner) : Scanner :=
  if !s.inFlow && s.atBlock then
    { s with outer := (s.indent, false) :: s.outer, indent := s.indent + 1 }
  else s

/-- Closes the blocks and margins right of a column. -/
def closeBlocks (s : Scanner) (column : Int) : Scanner :=
  if s.inFlow then s else go s.outer s
where
  /-- One after the other. -/
  go : List (Int × Bool) → Scanner → Scanner
    | [], s => s
    | (indent, isBlock) :: outer, s =>
      if s.indent ≤ column then s
      else
        let tokens := if isBlock then .blockEnd :: s.tokens else s.tokens
        go outer { s with tokens, indent, outer }

/-! ## To the next token -/

/-- Goes on to the next token, past spaces, comments and line ends. A new line allows a key. A tab
left of the innermost column may start only a line without anything else. -/
def skipToToken? : Nat → Scanner → Option Scanner
  | 0, s => some s
  | fuel + 1, s =>
    match s.cursor.rest with
    | [] => some s
    | c :: _ =>
      if c = '\t' && !s.outer.isEmpty && s.cursor.leads && s.cursor.column < s.indent then do
        let s ← s.pass? 0
        if atLineEnd s.cursor.rest then skipToToken? fuel s else none
      else if Yaml.isSpaceOrTab c then skipToToken? fuel { s with cursor := s.cursor.skip 1 }
      else if isLineEnd c then
        skipToToken? fuel
          { s with cursor := s.cursor.skipBreak, keyAllowed := s.keyAllowed || !s.inFlow }
      else if c = '#' then
        skipToToken? fuel { s with cursor := s.cursor.skipRun fun c => !isLineEnd c }
      else some s

/-- Goes on to the next token. -/
def toToken? (s : Scanner) : Option Scanner :=
  s.skipToToken? (s.cursor.rest.length + 1)

/-- Passes what has to stand behind the mark of a key: spaces, comments and line ends, but no
tab. -/
def gapBehindKey? : Nat → Scanner → Option Scanner
  | 0, s => some s
  | fuel + 1, s =>
    match s.cursor.rest with
    | [] => some s
    | c :: _ =>
      if c = '\t' then none
      else if c = ' ' then gapBehindKey? fuel { s with cursor := s.cursor.skip 1 }
      else if isLineEnd c then
        gapBehindKey? fuel
          { s with cursor := s.cursor.skipBreak, keyAllowed := s.keyAllowed || !s.inFlow }
      else if c = '#' then
        gapBehindKey? fuel { s with cursor := s.cursor.skipRun fun c => !isLineEnd c }
      else some s

/-! ## One step -/

/-- A direction or a mark between documents, which ends everything before it. -/
def betweenDocuments? (s : Scanner) : Option Scanner := do
  let s ← (s.closeBlocks (-1)).dropCandidate?
  return s.allowKey false

/-- How many brackets may be open. -/
def deepest : Nat := 255

/-- An opening bracket. It could be the start of a key, and so could what is behind it. -/
def openBracket? (s : Scanner) (token : Token) : Option Scanner := do
  if deepest < s.candidates.length then none
  let s := s.remember.openMargin
  let s := { s with candidates := none :: s.candidates }.allowKey true
  let s := if token = .openEntries then { s with inEntries := true }
    else { s with alone := false :: s.alone }
  return (← s.pass? 1).push token

/-- Ends the entry that is alone in a list, if one is open. -/
def closeAlone (s : Scanner) : Scanner :=
  match s.alone with
  | true :: outer => { s with inEntries := false, alone := false :: outer }.push .closeEntries
  | _ => s

/-- A closing bracket. -/
def closeBracket? (s : Scanner) (token : Token) : Option Scanner := do
  let s ← s.dropCandidate?
  let candidates := if s.inFlow then s.candidates.tail else s.candidates
  let s := { s with candidates }.allowKey false
  let s := if token = .closeItems then { s.closeAlone with alone := s.alone.tail } else s
  let s ← s.pass? 1
  return { s with adjacent := if s.inFlow then some s.cursor.index else s.adjacent }.push token

/-- A comma. -/
def comma? (s : Scanner) : Option Scanner := do
  let s ← s.dropCandidate?
  return (← ((s.allowKey true).closeAlone).pass? 1).push .comma

/-- A dash before an item of a block. If another dash follows it, spaces have to stand between
them. -/
def dash? (s : Scanner) : Option Scanner := do
  if s.inFlow || !s.keyAllowed then none
  let passed ← passBlanks? (s.cursor.skip 1)
  let next := passed.rest.rest
  if passed.hasTab && next.head? == some '-' && atGap next.tail then none
  let s := { s.openBlock s.cursor.column none .blockItems with cursor := passed.rest }
  let s := if next.head?.any isLineEnd || atFlowMark next then s.openMargin else s
  let s ← s.dropCandidate?
  return (s.allowKey true).push .item

/-- A question mark before a key. -/
def keyMark? (s : Scanner) : Option Scanner := do
  if !s.inFlow && !s.keyAllowed then none
  let s := if s.inFlow then { s with inEntries := true }
    else s.openBlock s.cursor.column none .blockEntries
  let s := (← s.dropCandidate?).allowKey !s.inFlow
  let s := { s with cursor := s.cursor.skip 1 }
  if !atGap s.cursor.rest || s.cursor.rest.isEmpty then none
  return (← s.gapBehindKey? (s.cursor.rest.length + 1)).push .key

/-- Goes on past a colon. Between it and a word on the same line there may be tabs only if there is
a space too. -/
def passColon? (s : Scanner) : Option Scanner :=
  let cursor := s.cursor.skip 1
  if cursor.rest.head? == some '\t' then
    match passBlanks? cursor with
    | none => none
    | some passed =>
      if !passed.hasSpace && passed.rest.rest.head?.any Yaml.isNameChar then none
      else some { s with cursor := passed.rest }
  else some { s with cursor }

/-- A colon before a value. If a key was waiting for it, the key token goes before that, and a
block is opened at its column. -/
def valueMark? (s : Scanner) : Option Scanner := do
  let place := s.cursor
  let isAlone := !s.alone.isEmpty && !s.inEntries
  let s := if isAlone then { s with alone := true :: s.alone.tail } else s
  let s ← s.passColon?
  match s.candidates with
  | some candidate :: candidates =>
    if isAlone && candidate.place.line < place.line then none
    let s := { s with candidates := none :: candidates }
    let s := s.insertAt candidate.position .key
    let s := if isAlone then s.insertAt candidate.position .openEntries else s
    let s := s.openBlock candidate.place.column (some candidate.position) .blockEntries
    return (s.openMargin.allowKey false).push .value
  | _ =>
    let s := if isAlone then s.push .openEntries else s
    if !s.inFlow && !s.keyAllowed then none
    let s := s.openBlock place.column none .blockEntries
    return (s.openMargin.allowKey !s.inFlow).push .value

/-- The characters of the names of anchors. -/
def isAnchorChar (c : Char) : Bool :=
  !Yaml.isSpaceOrTab c && !isLineEnd c && !Yaml.isFlowMark c && c ≠ '\uFEFF'

/-- A name with the mark of an anchor or an alias before it. -/
def named? (s : Scanner) (token : String → Token) : Option Scanner :=
  let name := (s.cursor.skip 1).run isAnchorChar
  let s := s.remember.allowKey false
  if name.isEmpty then none
  else
    some { s.push (token (String.ofList name)) with cursor := s.cursor.skip (name.length + 1) }

/-- A tag. -/
def tag? (s : Scanner) : Option Scanner := do
  let s := s.remember.allowKey false
  let (token, cursor) ← SettingsYaml.tag? s.inFlow s.cursor
  return { s.push token with cursor }

/-- A scalar. -/
def scalar (s : Scanner) (isPlain : Bool) (text : ScalarText) : Scanner :=
  { s.push (.scalar (String.ofList text.text) isPlain) with
    cursor := text.rest
    keyAllowed := text.endsLine }

/-- A scalar that is written as a block. -/
def block? (s : Scanner) : Option Scanner := do
  let s := s.remember.dropMargins
  return s.scalar false (← SettingsYaml.block? s.indent s.cursor)

/-- A scalar between quotes, and the way to the next token. -/
def quoted? (s : Scanner) (quote : Char) : Option Scanner := do
  let s := s.remember
  let s ← (s.scalar false (← SettingsYaml.quoted? quote s.inFlow s.indent s.cursor)).toToken?
  return { s with adjacent := some s.cursor.index }

/-- A scalar that is written plainly. -/
def plain? (s : Scanner) : Option Scanner := do
  let s := s.remember.dropMargins
  return s.scalar true (← SettingsYaml.plain? s.inFlow s.indent s.cursor)

/-- Whether a colon here, with that behind it, comes before a value. -/
def isValueMark (s : Scanner) (rest : List Char) : Bool :=
  atGap rest || (s.inFlow && (atFlowMark rest || s.adjacent = some s.cursor.index))

/-- The next token at a place right of the innermost column; `c` is the character there. -/
def token? (s : Scanner) (c : Char) (rest : List Char) : Option Scanner :=
  if c = '[' then s.openBracket? .openItems
  else if c = '{' then s.openBracket? .openEntries
  else if c = ']' then s.closeBracket? .closeItems
  else if c = '}' then s.closeBracket? .closeEntries
  else if c = ',' then s.comma?
  else if c = '-' && atGap rest then s.dash?
  else if c = '?' && atGap rest then s.keyMark?
  else if c = ':' && s.isValueMark rest then s.valueMark?
  else if c = '*' then s.named? .alias
  else if c = '&' then s.named? .anchor
  else if c = '!' then s.tag?
  else if (c = '|' || c = '>') && !s.inFlow then s.block?
  else if c = '\'' || c = '"' then s.quoted? c
  else if c = '%' || c = '@' || c = '\x60' then none
  else s.plain?

/-- The end of the text, which closes all blocks. No token may have to be a key any more. -/
def ending? (s : Scanner) : Option Scanner :=
  if s.candidates.any fun c => c.any (·.required) then none
  else some ((s.closeBlocks (-1)).push .ending)

/-- The next token and all that it entails. -/
def step? (s : Scanner) : Option Scanner := do
  let s ← (← s.toToken?).dropStale?
  let s := s.closeBlocks s.cursor.column
  match s.cursor.rest with
  | [] => s.ending?
  | c :: rest =>
    if s.cursor.column = 0 && c = '%' then
      let s ← s.betweenDocuments?
      let (token, cursor) ← direction? s.cursor
      return { s.push token with cursor }
    else if atDocumentStart s.cursor then
      let s ← s.betweenDocuments?
      return { s.push .documentStart with cursor := s.cursor.skip 3 }
    else if atDocumentEnd s.cursor then
      let s ← (← s.betweenDocuments?).pass? 3
      if !atLineEnd s.cursor.rest then none
      return s.push .documentEnd
    else if s.cursor.column < s.indent then none
    else s.token? c rest

/-- Scans to the end. -/
def toEnd : Nat → Scanner → Option Tokens
  | 0, _ => none
  | fuel + 1, s => do
    let next ← s.step?
    if next.tokens.head? = some .ending then return next.tokens.reverse
    toEnd fuel next

end Scanner

/-- The tokens of a text, if it is well formed. The text ends at the first NUL character in it.
Every token but those that close blocks takes a character at least, which bounds the number of
steps. -/
def tokens? (text : List Char) : Option Tokens :=
  let text := text.takeWhile (· ≠ '\x00')
  Scanner.toEnd (text.length + 2) { cursor := { rest := text } }

end SettingsYaml
end GatewayRouting
