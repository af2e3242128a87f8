import CombatPlan.Yaml.Text

/-!
# Tokens of a document

Tokens are read off a document as they are asked for. Indentation becomes tokens that open and close blocks. That a
text was a key shows only at the colon behind it, so places where a key may have started are kept, one for each
level of brackets, and the key token is put in there afterwards. A token is handed out once no key can start in
front of it any more, and nothing behind it is looked at before the next one is asked for.
-/

namespace CombatPlan.Yaml

inductive Token where
  | documentStart
  | documentEnd
  | blockSequence
  | blockMapping
  | blockEnd
  | openList
  | closeList
  | openMap
  | closeMap
  | dash
  | comma
  | key
  | value
  | reference (name : String)
  | anchor (name : String)
  | text (plain : Bool) (s : String)
  | textEnd
  deriving DecidableEq, Repr

/-- A place among the tokens where a key may have started. In a block it must turn out to be a key if it stands at
the block's indentation. -/
structure Candidate where
  level : Nat
  place : Nat
  required : Bool
  index : Nat
  line : Nat
  column : Nat

structure Lexer where
  cursor : Cursor
  level : Nat := 0
  indent : Int := -1
  outerIndents : List Int := []
  keyAllowed : Bool := true
  candidates : List Candidate := []
  waiting : List Token := []
  taken : Nat := 0
  finished : Bool := false

abbrev Lex := StateT Lexer (Except DocumentFault)

namespace Lex

def malformed {α : Type} : Lex α :=
  throw .malformed

def emit (t : Token) : Lex Unit :=
  modify fun s => { s with waiting := s.waiting ++ [t] }

def emitAt (place : Nat) (t : Token) : Lex Unit :=
  modify fun s =>
    let ahead := place - s.taken
    { s with waiting := s.waiting.take ahead ++ t :: s.waiting.drop ahead }

def moveTo (c : Cursor) : Lex Unit :=
  modify fun s => { s with cursor := c }

def allowKey (b : Bool) : Lex Unit :=
  modify fun s => { s with keyAllowed := b }

/-! ## Blocks -/

/-- Closes the blocks that are indented further than `column`. Within brackets indentation means nothing. -/
def closeBlocks (column : Int) : Lex Unit :=
  modify fun s =>
    if s.level ≠ 0 then s
    else
      let rec close (indent : Int) (waiting : List Token) : List Int → Lexer
        | [] => { s with indent, outerIndents := [], waiting }
        | outer :: more =>
          if column < indent then close outer (waiting ++ [.blockEnd]) more
          else { s with indent, outerIndents := outer :: more, waiting }
      close s.indent s.waiting s.outerIndents

def openBlock (column : Nat) : Lex Bool := do
  let s ← get
  if s.indent < column then
    set { s with indent := column, outerIndents := s.indent :: s.outerIndents }
    return true
  else return false

/-! ## Candidates for keys -/

def candidate? : Lex (Option Candidate) := do
  let s ← get
  return s.candidates.find? (·.level == s.level)

/-- Forgets the candidates that satisfy `p`; none of them may be required. -/
def forget (p : Candidate → Bool) : Lex Unit := do
  let s ← get
  if s.candidates.any fun k => p k && k.required then malformed
  else set { s with candidates := s.candidates.filter (!p ·) }

def forgetHere : Lex Unit := do
  let level := (← get).level
  forget (·.level == level)

/-- A key stands on one line and has no more than 1024 characters. -/
def forgetStale : Lex Unit := do
  let c := (← get).cursor
  forget fun k => k.line ≠ c.line || 1024 < c.index - k.index

def noteCandidate : Lex Unit := do
  let s ← get
  if s.keyAllowed then
    forgetHere
    let c := s.cursor
    let k : Candidate :=
      { level := s.level, place := s.taken + s.waiting.length, index := c.index, line := c.line,
        column := c.column, required := s.level == 0 && s.indent == (c.column : Int) }
    modify fun s => { s with candidates := k :: s.candidates }

/-! ## Reading one token -/

/-- Skips blanks, comments and line breaks. Behind a line break outside brackets a key may start. -/
def skipGap : (fuel : Nat) → Lex Unit
  | 0 => pure ()
  | fuel + 1 => do
    let c := (← get).cursor.skip (· == ' ')
    let c := if c.peek = '#' then c.skip (!isBreak ·) else c
    if isBreak c.peek then
      modify fun s => { s with cursor := c.lineBreak.2, keyAllowed := s.keyAllowed || s.level == 0 }
      skipGap fuel
    else moveTo c

def mark (n : Nat) (t : Token) : Lex Unit := do
  moveTo ((← get).cursor.drop n)
  emit t

def separator (t : Token) : Lex Unit := do
  closeBlocks (-1)
  forgetHere
  allowKey false
  mark 3 t

def opening (t : Token) : Lex Unit := do
  noteCandidate
  modify fun s => { s with level := s.level + 1, keyAllowed := true }
  mark 1 t

def closing (t : Token) : Lex Unit := do
  forgetHere
  let s ← get
  if s.level = 0 then malformed
  set { s with level := s.level - 1, keyAllowed := false }
  mark 1 t

def comma : Lex Unit := do
  allowKey true
  forgetHere
  mark 1 .comma

def dash : Lex Unit := do
  let s ← get
  if s.level = 0 then
    if !s.keyAllowed then malformed
    if (← openBlock s.cursor.column) then emit .blockSequence
  allowKey true
  forgetHere
  mark 1 .dash

def explicitKey : Lex Unit := do
  let s ← get
  if s.level = 0 then
    if !s.keyAllowed then malformed
    if (← openBlock s.cursor.column) then emit .blockMapping
  allowKey (s.level = 0)
  forgetHere
  mark 1 .key

/-- A colon: what stood before it was a key, if a candidate is at hand; else the key is empty. -/
def value : Lex Unit := do
  let s ← get
  match ← candidate? with
  | some k =>
    set { s with candidates := s.candidates.filter (·.level != s.level) }
    emitAt k.place .key
    if s.level = 0 then
      if (← openBlock k.column) then emitAt k.place .blockMapping
    allowKey false
  | none =>
    if s.level = 0 then
      if !s.keyAllowed then malformed
      if (← openBlock s.cursor.column) then emit .blockMapping
    allowKey (s.level = 0)
    forgetHere
  mark 1 .value

def isNameChar (c : Char) : Bool :=
  c.isAlphanum || c == '-' || c == '_'

def named (t : String → Token) : Lex Unit := do
  noteCandidate
  allowKey false
  let (name, c) := (← get).cursor.next.span isNameChar
  let endsHere := isGap c.peek || ['?', ':', ',', ']', '}', '%', '@', '`'].contains c.peek
  if name = [] || !endsHere then malformed
  moveTo c
  emit (t (String.ofList name))

def block (folded : Bool) : Lex Unit := do
  allowKey true
  forgetHere
  let s ← get
  let (cs, c) ← (blockText folded s.indent s.cursor.next : Except DocumentFault _)
  moveTo c
  emit (.text false (String.ofList cs))

def quoted (quote : Char) : Lex Unit := do
  noteCandidate
  allowKey false
  let c := (← get).cursor.next
  let (cs, c) ← (quotedText quote (c.size + 1) [] c : Except DocumentFault _)
  moveTo c
  emit (.text false (String.ofList cs))

def plain : Lex Unit := do
  noteCandidate
  let s ← get
  let (cs, c, broken) :=
    plainText (s.level != 0) (s.indent + 1) (s.cursor.size + 1) [] [] false s.cursor
  allowKey broken
  moveTo c
  emit (.text true (String.ofList cs))

def startsPlain (inFlow : Bool) (ch after : Char) : Bool :=
  let indicators := ['-', '?', ':', ',', '[', ']', '{', '}', '#', '&', '*', '!', '|', '>', '\'', '"',
    '%', '@', '`']
  (!isGap ch && !indicators.contains ch)
    || (!isGap after && (ch == '-' || (!inFlow && (ch == '?' || ch == ':'))))

def token : Lex Unit := do
  let s ← get
  let c := s.cursor
  let inFlow := s.level != 0
  let gapAfter := isGap c.peekSecond
  let separates := c.column == 0 && c.atSeparator
  match c.peek with
  | '[' => opening .openList
  | '{' => opening .openMap
  | ']' => closing .closeList
  | '}' => closing .closeMap
  | ',' => comma
  | '*' => named .reference
  | '&' => named .anchor
  | '\'' => quoted '\''
  | '"' => quoted '"'
  | ch =>
    if ch = '-' && separates then separator .documentStart
    else if ch = '.' && separates then separator .documentEnd
    else if ch = '-' && gapAfter then dash
    else if ch = '?' && (inFlow || gapAfter) then explicitKey
    else if ch = ':' && (inFlow || gapAfter) then value
    else if ch = '|' && !inFlow then block false
    else if ch = '>' && !inFlow then block true
    else if startsPlain inFlow ch c.peekSecond then plain
    else if ch = '!' || (ch = '%' && c.column = 0) then throw .uncovered
    else malformed

def finish : Lex Unit := do
  closeBlocks (-1)
  forgetHere
  emit .textEnd
  modify fun s => { s with candidates := [], finished := true }

def advance : Lex Unit := do
  skipGap ((← get).cursor.size + 1)
  forgetStale
  let c := (← get).cursor
  closeBlocks c.column
  if c.rest.isEmpty then finish else token

/-! ## Handing out tokens -/

/-- Whether there is no token to hand out yet: none is waiting, or the first of them may still turn out to be a key. -/
def needsMore : Lex Bool := do
  let s ← get
  if s.finished then return false
  else if s.waiting.isEmpty then return true
  else
    forgetStale
    return (← get).candidates.any (·.place == s.taken)

/-- Reads on until there is a token to hand out. Each round reads at least one character or the end. -/
def fill : (fuel : Nat) → Lex Unit
  | 0 => malformed
  | fuel + 1 => do
    if ← needsMore then
      advance
      fill fuel

def peek : Lex Token := do
  fill ((← get).cursor.size + 3)
  return (← get).waiting.headD .textEnd

def take : Lex Unit :=
  modify fun s => { s with waiting := s.waiting.tail, taken := s.taken + 1 }

def takeIf (t : Token) : Lex Bool := do
  if (← peek) == t then
    take
    return true
  else return false

end Lex

/-- The start of a document. A byte order mark in front is skipped. -/
def Lexer.ofChars (cs : List Char) : Lexer :=
  let start := Cursor.ofChars cs
  { cursor := if start.peek = '\uFEFF' then start.next else start }

end CombatPlan.Yaml
