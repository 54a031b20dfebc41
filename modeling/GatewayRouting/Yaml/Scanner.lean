import GatewayRouting.Yaml.Candidate
import GatewayRouting.Yaml.Tag
import GatewayRouting.Yaml.Text
import GatewayRouting.Yaml.Token

/-!
# From text to tokens

Tokens are found from left to right. Two things need a memory. The indentation of the blocks that
are open decides where blocks end. And a text before a colon turns out to be a key only at the
colon, so a token that could be a key is remembered (`Candidate`) until it is one or cannot be one
any more: it has to end on its line, and within 1024 bytes. A key token, and the token that opens
its block, are then put before it.
-/

namespace GatewayRouting
namespace Yaml

/-- What is known at a place of the text. -/
structure Scanner where
  /-- the place -/
  cursor : Cursor
  /-- the tokens so far, the last first -/
  tokens : List Token := []
  /-- the column of the innermost open block; −1 if there is none -/
  indent : Int := -1
  /-- the columns of the blocks around it, the innermost first -/
  outer : List Int := []
  /-- what could be a key -/
  candidates : Candidates := [none]
  /-- whether a key can start here -/
  keyAllowed : Bool := true
deriving Inhabited

namespace Scanner

/-- Whether the place is inside brackets. -/
def inFlow (s : Scanner) : Bool :=
  s.candidates.inFlow

/-- Adds a token. -/
def push (s : Scanner) (token : Token) : Scanner :=
  { s with tokens := token :: s.tokens }

/-- Adds a token that takes some characters. -/
def take (s : Scanner) (n : Nat) (token : Token) : Scanner :=
  { s.push token with cursor := s.cursor.skip n }

/-- Puts a token at a position among those so far. -/
def insertAt (s : Scanner) (position : Nat) (token : Token) : Scanner :=
  { s with tokens := insertToken position token s.tokens }

/-- Says whether a key can start behind this. -/
def allowKey (s : Scanner) (allowed : Bool) : Scanner :=
  { s with keyAllowed := allowed }

/-! ## Candidates -/

/-- Whether a candidate can still be a key: it starts on this line and not too far back. -/
def isFresh (s : Scanner) (candidate : Candidate) : Bool :=
  s.cursor.line ≤ candidate.place.line && s.cursor.bytes ≤ candidate.place.bytes + 1024

/-- Drops the candidates that cannot be keys any more. None of them may have been required. -/
def dropStale? (s : Scanner) : Option Scanner :=
  (s.candidates.dropStale? s.isFresh).map fun candidates => { s with candidates }

/-- Drops the innermost candidate, which may not have been required. -/
def dropCandidate? (s : Scanner) : Option Scanner :=
  s.candidates.dropInnermost?.map fun candidates => { s with candidates }

/-- Remembers that the next token could be a key, if one can start here. -/
def remember? (s : Scanner) : Option Scanner :=
  if s.keyAllowed then do
    let s ← s.dropCandidate?
    let candidate : Candidate :=
      ⟨!s.inFlow && s.indent == s.cursor.column, s.tokens.length, s.cursor⟩
    return { s with candidates := some candidate :: s.candidates.tail }
  else some s

/-! ## Indentation -/

/-- Opens a block at a column right of the innermost one. Its token goes to a position if one is
given, and to the end otherwise. -/
def openBlock (s : Scanner) (column : Nat) (position : Option Nat) (token : Token) : Scanner :=
  if s.inFlow || (column : Int) ≤ s.indent then s
  else
    let s := { s with outer := s.indent :: s.outer, indent := column }
    match position with
    | some position => s.insertAt position token
    | none => s.push token

/-- Closes the blocks right of a column. -/
def closeBlocks (s : Scanner) (column : Int) : Scanner :=
  if s.inFlow then s else go s.outer s
where
  /-- One block after the other. -/
  go : List Int → Scanner → Scanner
    | [], s => s
    | indent :: outer, s =>
      if s.indent ≤ column then s
      else go outer { s with tokens := .blockEnd :: s.tokens, indent, outer }

/-! ## Tokens of one line -/

/-- Goes on to the next token, past spaces, comments and line ends. A new line allows a key. Tabs
are skipped only where no key can start, and a byte order mark only at the start of a line. -/
def skipToToken : Nat → Scanner → Scanner
  | 0, s => s
  | fuel + 1, s =>
    let tabs := s.inFlow || !s.keyAllowed
    let marked := s.cursor.column = 0 && s.cursor.rest.head? == some '\uFEFF'
    let cursor := s.cursor.skip (if marked then 1 else 0)
    let cursor := (cursor.skipRun fun c => c = ' ' || (tabs && c = '\t')).skipComment
    match cursor.rest with
    | c :: _ =>
      if isBreak c then
        skipToToken fuel
          { s with cursor := cursor.skipBreak, keyAllowed := s.keyAllowed || !s.inFlow }
      else { s with cursor }
    | [] => { s with cursor }

/-- A tag: in angle brackets, or a handle with what follows it, or a mark with a name. -/
def tag? (s : Scanner) : Option Scanner := do
  let (handle, rest, cursor) ←
    match s.cursor.rest with
    | '!' :: '<' :: _ => do
      let (text, cursor) ← tagRun? true (s.cursor.skip 2)
      if text.isEmpty || cursor.rest.head? ≠ some '>' then none
      else some ([], text, cursor.skip 1)
    | _ => do
      let (handle, cursor) ← handle? s.cursor
      let (text, cursor) ← tagRun? false cursor
      if 1 < handle.length && handle.getLast? == some '!' then
        if text.isEmpty then none else some (handle, text, cursor)
      else
        let rest := handle.tail ++ text
        if rest.isEmpty then some ([], ['!'], cursor) else some (['!'], rest, cursor)
  if !atGap cursor.rest && !(s.inFlow && cursor.rest.head? == some ',') then none
  return { s.push (.tag (String.ofList handle) (String.ofList rest)) with cursor }

/-- A line of directions: a version, or a handle with its meaning. -/
def direction? (s : Scanner) : Option Scanner := do
  let cursor := s.cursor.skip 1
  let name := cursor.run isNameChar
  let cursor := cursor.skip name.length
  if name.isEmpty || !atGap cursor.rest then none
  let cursor := cursor.skipRun isSpaceOrTab
  let (token, cursor) ←
    match String.ofList name with
    | "YAML" => do
      let (major, cursor) ← versionNumber? cursor
      if cursor.rest.head? ≠ some '.' then none
      let (minor, cursor) ← versionNumber? (cursor.skip 1)
      some (Token.version major minor, cursor)
    | "TAG" => do
      let (handle, cursor) ← handle? cursor
      if handle.getLast? ≠ some '!' || !(cursor.rest.head?.any isSpaceOrTab) then none
      let (text, cursor) ← tagRun? true (cursor.skipRun isSpaceOrTab)
      if text.isEmpty || !atGap cursor.rest then none
      some (.tagHandle (String.ofList handle) (String.ofList text), cursor)
    | _ => none
  let cursor := (cursor.skipRun isSpaceOrTab).skipComment
  if !atLineEnd cursor.rest then none
  return { s.push token with cursor := cursor.skipBreak }

/-- A name with the mark of an anchor or an alias before it. -/
def named? (s : Scanner) (token : String → Token) : Option Scanner :=
  let name := (s.cursor.skip 1).run isNameChar
  let cursor := s.cursor.skip (name.length + 1)
  let ends := atGap cursor.rest || cursor.rest.head?.any fun c => "?:,]\x7d%@\x60".contains c
  if name.isEmpty || !ends then none
  else some { s.push (token (String.ofList name)) with cursor }

/-- A scalar. -/
def scalar (s : Scanner) (isPlain : Bool) (text : ScalarText) : Scanner :=
  { s.push (.scalar (String.ofList text.text) isPlain) with
    cursor := text.rest
    keyAllowed := text.endsLine }

/-! ## One step -/

/-- An indicator of the structure of a block: a key can start behind it, and outside brackets it
has to stand where a key can start. -/
def blockMark? (s : Scanner) (opens token : Token) : Option Scanner := do
  if !s.inFlow && !s.keyAllowed then none
  let s := s.openBlock s.cursor.column none opens
  let s ← s.dropCandidate?
  return s.take 1 token

/-- A colon before a value. If a key was waiting for it, the key token goes before that, and a
block is opened at its column. -/
def valueMark? (s : Scanner) : Option Scanner :=
  match s.candidates with
  | some candidate :: candidates =>
    let s := { s with candidates := none :: candidates }
    let s := s.insertAt candidate.position .key
    let s := s.openBlock candidate.place.column (some candidate.position) .blockEntries
    some ((s.allowKey false).take 1 .value)
  | _ =>
    if s.inFlow then some ((s.allowKey false).take 1 .value)
    else if s.keyAllowed then
      some (((s.openBlock s.cursor.column none .blockEntries).allowKey true).take 1 .value)
    else none

/-- An opening bracket. It could be the start of a key, and so could what is behind it. -/
def openBracket? (s : Scanner) (token : Token) : Option Scanner := do
  let s ← s.remember?
  return ({ s with candidates := none :: s.candidates }.allowKey true).take 1 token

/-- A closing bracket. -/
def closeBracket? (s : Scanner) (token : Token) : Option Scanner := do
  let s ← s.dropCandidate?
  let candidates := if s.inFlow then s.candidates.tail else s.candidates
  return ({ s with candidates }.allowKey false).take 1 token

/-- The characters that cannot start a plain text, whatever follows. -/
def isIndicator (c : Char) : Bool :=
  "-?:,[]\x7b\x7d#&*!|>'\"%@\x60".contains c

/-- Whether a plain text can start here. -/
def startsPlain (s : Scanner) (c : Char) (rest : List Char) : Bool :=
  (!isIndicator c && !isSpaceOrTab c) || (c = '-' && !(rest.head?.any isSpaceOrTab)) ||
    (!s.inFlow && (c = '?' || c = ':') && !atGap rest)

/-- The next token, at a place that is no gap; `c` is the character there. -/
def token? (s : Scanner) (c : Char) (rest : List Char) : Option Scanner :=
  if s.cursor.column = 0 && c = '%' then do
    let s ← (s.closeBlocks (-1)).dropCandidate?
    (s.allowKey false).direction?
  else if s.cursor.atDocumentMark then do
    let s ← (s.closeBlocks (-1)).dropCandidate?
    return (s.allowKey false).take 3 (if c = '-' then .documentStart else .documentEnd)
  else if c = '[' then s.openBracket? .openItems
  else if c = '{' then s.openBracket? .openEntries
  else if c = ']' then s.closeBracket? .closeItems
  else if c = '}' then s.closeBracket? .closeEntries
  else if c = ',' then do
    let s ← s.dropCandidate?
    return (s.allowKey true).take 1 .comma
  else if c = '-' && atGap rest then (s.blockMark? .blockItems .item).map (·.allowKey true)
  else if c = '?' && (s.inFlow || atGap rest) then
    (s.blockMark? .blockEntries .key).map (·.allowKey !s.inFlow)
  else if c = ':' && (s.inFlow || atGap rest) then s.valueMark?
  else if c = '*' then do
    let s ← s.remember?
    (s.allowKey false).named? .alias
  else if c = '&' then do
    let s ← s.remember?
    (s.allowKey false).named? .anchor
  else if c = '!' then do
    let s ← s.remember?
    (s.allowKey false).tag?
  else if (c = '|' || c = '>') && !s.inFlow then do
    let s ← s.dropCandidate?
    return s.scalar false (← block? s.indent s.cursor)
  else if c = '\'' || c = '"' then do
    let s ← s.remember?
    return s.scalar false (← quoted? c s.cursor)
  else if s.startsPlain c rest then do
    let s ← s.remember?
    return s.scalar true (← plain? s.inFlow (s.indent + 1).toNat s.cursor)
  else none

/-- The end of the text, which closes all blocks. -/
def ending? (s : Scanner) : Option Scanner := do
  let s ← (s.closeBlocks (-1)).dropCandidate?
  return s.push .ending

/-- The next token and all that it entails. -/
def step? (s : Scanner) : Option Scanner := do
  let s := s.skipToToken (s.cursor.rest.length + 1)
  let s ← s.dropStale?
  let s := s.closeBlocks s.cursor.column
  match s.cursor.rest with
  | [] => s.ending?
  | c :: rest => s.token? c rest

/-- Scans to the end. A plain text may have gone on to another line, so candidates are looked at
again behind every token. -/
def toEnd : Nat → Scanner → Option Tokens
  | 0, _ => none
  | fuel + 1, s => do
    let next ← s.step?.bind dropStale?
    if next.tokens.head? = some .ending then return next.tokens.reverse
    toEnd fuel next

end Scanner

/-- The tokens of a text, if it is well formed. Every token but those that close blocks takes a
character at least, which bounds the number of steps. -/
def Token.scan? (text : List Char) : Option Tokens :=
  if text.all isAllowed then
    Scanner.toEnd (text.length + 2) { cursor := { rest := text } }
  else none

end Yaml
end GatewayRouting
