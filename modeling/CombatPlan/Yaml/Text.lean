import CombatPlan.Yaml.Cursor

/-!
# Texts in a document

Plain, quoted and block texts. Each reader starts at the first character of a text and stops behind it. The
`fuel` of a loop is the length of the document: every round reads at least one character.
-/

namespace CombatPlan.Yaml

open Cursor

/-! ## Plain texts -/

/-- Whether a plain text ends before `ch`, which `after` follows. -/
def endsPlain (inFlow : Bool) (ch after : Char) : Bool :=
  isGap ch
    || (ch == ':' && (isGap after || (inFlow && [',', '[', ']', '{', '}'].contains after)))
    || (inFlow && [',', '?', '[', ']', '{', '}'].contains ch)

def plainRun (inFlow : Bool) : List Char → List Char
  | [] => []
  | ch :: cs => if endsPlain inFlow ch (cs.headD '\x00') then [] else ch :: plainRun inFlow cs

/-- Further line breaks within a plain text, up to one that a separator follows. -/
def plainBreaksFrom : (fuel : Nat) → List Char → Cursor → Option (List Char) × Cursor
  | 0, acc, c => (some acc, c)
  | fuel + 1, acc, c =>
    if c.peek = ' ' then plainBreaksFrom fuel acc c.next
    else if isBreak c.peek then
      let (b, c) := c.lineBreak
      if c.atSeparator then (none, c) else plainBreaksFrom fuel (acc ++ b) c
    else (some acc, c)

/-- The blanks behind a piece of plain text: what they stand for, if more may follow, the place after them, and
whether they hold a line break. -/
def plainGap (c : Cursor) : List Char × Cursor × Bool :=
  let (blanks, c) := c.span (· == ' ')
  if isBreak c.peek then
    let (first, c) := c.lineBreak
    if c.atSeparator then ([], c, true)
    else
      match plainBreaksFrom c.size [] c with
      | (some more, c) => (foldBreaks first more, c, true)
      | (none, c) => ([], c, true)
  else (blanks, c, false)

/-- A plain text after the piece `acc` and the gap `gap`; whether the last gap held a line break. -/
def plainText (inFlow : Bool) (indent : Int) :
    (fuel : Nat) → (acc gap : List Char) → (broken : Bool) → Cursor → List Char × Cursor × Bool
  | 0, acc, _, broken, c => (acc, c, broken)
  | fuel + 1, acc, gap, broken, c =>
    let run := plainRun inFlow c.rest
    if c.peek = '#' || run = [] then (acc, c, broken)
    else
      let acc := acc ++ gap ++ run
      let (gap, c, broken) := plainGap (c.drop run.length)
      if gap = [] || c.peek = '#' || (!inFlow && (c.column : Int) < indent) then (acc, c, broken)
      else plainText inFlow indent fuel acc gap broken c

/-! ## Quoted texts -/

def quotedBreaks : (fuel : Nat) → List Char → Cursor → Except DocumentFault (List Char × Cursor)
  | 0, acc, c => .ok (acc, c)
  | fuel + 1, acc, c =>
    if c.atSeparator then .error .malformed
    else
      let c := c.skip fun ch => ch == ' ' || ch == '\t'
      if isBreak c.peek then
        let (b, c) := c.lineBreak
        quotedBreaks fuel (acc ++ b) c
      else .ok (acc, c)

/-- Blanks within a quoted text: they stand for themselves unless a line break is among them. -/
def quotedGap (c : Cursor) : Except DocumentFault (List Char × Cursor) := do
  let (blanks, c) := c.span fun ch => ch == ' ' || ch == '\t'
  if isBreak c.peek then
    let (first, c) := c.lineBreak
    let (more, c) ← quotedBreaks (c.size + 1) [] c
    return (foldBreaks first more, c)
  else if c.rest.isEmpty then throw .malformed
  else return (blanks, c)

def shortEscapes : List (Char × Char) :=
  [('0', '\x00'), ('a', '\x07'), ('b', '\x08'), ('t', '\x09'), ('\t', '\x09'), ('n', '\x0A'),
    ('v', '\x0B'), ('f', '\x0C'), ('r', '\x0D'), ('e', '\x1B'), (' ', ' '), ('"', '"'),
    ('\\', '\\'), ('/', '/'), ('N', '\u0085'), ('_', '\u00A0'), ('L', '\u2028'), ('P', '\u2029')]

def escapeWidths : List (Char × Nat) :=
  [('x', 2), ('u', 4), ('U', 8)]

def hexDigit? (c : Char) : Option Nat :=
  if '0' ≤ c ∧ c ≤ '9' then some (c.toNat - 0x30)
  else if 'a' ≤ c ∧ c ≤ 'f' then some (c.toNat - 0x61 + 10)
  else if 'A' ≤ c ∧ c ≤ 'F' then some (c.toNat - 0x41 + 10)
  else none

def hexNumber? (cs : List Char) : Option Nat :=
  cs.foldl (fun n? c => do return 16 * (← n?) + (← hexDigit? c)) (some 0)

def escaped (c : Cursor) : Except DocumentFault (List Char × Cursor) :=
  match shortEscapes.lookup c.peek, escapeWidths.lookup c.peek with
  | some ch, _ => .ok ([ch], c.next)
  | none, some width =>
    let digits := c.next.rest.take width
    match hexNumber? digits with
    | some n =>
      if digits.length ≠ width then .error .malformed
      else if 0x7FFFFFFF < n then .error .oversizedCharacter
      else if 0x10FFFF < n then .error .noSuchCharacter
      else if 0xD800 ≤ n && n ≤ 0xDFFF then .error .uncovered
      else .ok ([Char.ofNat n], c.next.drop width)
    | none => .error .malformed
  | none, none =>
    if isBreak c.peek then quotedBreaks (c.size + 1) [] c.lineBreak.2
    else .error .malformed

/-- A quoted text behind its opening quote, after the part `acc`, which is kept in reverse. -/
def quotedText (quote : Char) :
    (fuel : Nat) → (acc : List Char) → Cursor → Except DocumentFault (List Char × Cursor)
  | 0, _, _ => .error .malformed
  | fuel + 1, acc, c => do
    let ch := c.peek
    if c.rest.isEmpty then throw .malformed
    else if ch = quote then
      if quote = '\'' && c.peekSecond = '\'' then quotedText quote fuel ('\'' :: acc) (c.drop 2)
      else return (acc.reverse, c.next)
    else if quote = '"' && ch = '\\' then
      let (cs, c) ← escaped c.next
      quotedText quote fuel (cs.reverse ++ acc) c
    else if isGap ch then
      let (cs, c) ← quotedGap c
      quotedText quote fuel (cs.reverse ++ acc) c
    else quotedText quote fuel (ch :: acc) c.next

/-! ## Block texts -/

/-- What happens to the line breaks at the end of a block text. -/
inductive Chomp where
  | strip
  | clip
  | keep
  deriving DecidableEq, Repr

structure BlockHeader where
  chomp : Chomp := .clip
  indent? : Option Nat := none

def chompOf? (ch : Char) : Option Chomp :=
  [('+', Chomp.keep), ('-', Chomp.strip)].lookup ch

/-- A digit other than zero. -/
def indentOf? (ch : Char) : Option Nat :=
  if ch.isDigit && ch != '0' then some (ch.toNat - 0x30) else none

/-- The signs behind the mark of a block text, in either order. -/
def blockHeader (c : Cursor) : BlockHeader × Cursor :=
  match chompOf? c.peek with
  | some chomp =>
    match indentOf? c.peekSecond with
    | some n => ({ chomp, indent? := some n }, c.drop 2)
    | none => ({ chomp }, c.next)
  | none =>
    match indentOf? c.peek with
    | some n =>
      match chompOf? c.peekSecond with
      | some chomp => ({ chomp, indent? := some n }, c.drop 2)
      | none => ({ indent? := some n }, c.next)
    | none => ({}, c)

/-- The rest of a header line: blanks, a comment if any, and the line break. -/
def headerEnd (c : Cursor) : Except DocumentFault Cursor :=
  if c.peek ≠ ' ' && !isBreakOrEnd c.peek then .error .malformed
  else
    let c := c.skip (· == ' ')
    let c := if c.peek = '#' then c.skip (!isBreak ·) else c
    if isBreakOrEnd c.peek then .ok c.lineBreak.2 else .error .malformed

/-- Empty lines before a block text, and the widest indentation seen. -/
def leadingLines : (fuel : Nat) → (acc : List Char) → (widest : Nat) → Cursor → List Char × Nat × Cursor
  | 0, acc, widest, c => (acc, widest, c)
  | fuel + 1, acc, widest, c =>
    if c.peek = ' ' then leadingLines fuel acc (max widest c.next.column) c.next
    else if isBreak c.peek then
      let (b, c) := c.lineBreak
      leadingLines fuel (acc ++ b) widest c
    else (acc, widest, c)

def skipIndent (indent : Nat) : (fuel : Nat) → Cursor → Cursor
  | 0, c => c
  | fuel + 1, c =>
    if c.column < indent && c.peek == ' ' then skipIndent indent fuel c.next else c

/-- Empty lines within a block text, and the indentation behind them. -/
def emptyLines (indent : Nat) : (fuel : Nat) → (acc : List Char) → Cursor → List Char × Cursor
  | 0, acc, c => (acc, c)
  | fuel + 1, acc, c =>
    let c := skipIndent indent indent c
    if isBreak c.peek then
      let (b, c) := c.lineBreak
      emptyLines indent fuel (acc ++ b) c
    else (acc, c)

structure BlockLines where
  text : List Char
  lastBreak : List Char
  emptyLines : List Char
  cursor : Cursor

/-- The lines of a block text. Folding joins two lines of which neither starts with a blank. -/
def blockLines (folded : Bool) (indent : Nat) : (fuel : Nat) → BlockLines → BlockLines
  | 0, b => b
  | fuel + 1, b =>
    let c := b.cursor
    if c.column ≠ indent || c.rest.isEmpty then b
    else
      let isBlank (ch : Char) : Bool := ch == ' ' || ch == '\t'
      let startsFull := !isBlank c.peek
      let (line, c) := c.span (!isBreak ·)
      let (lastBreak, c) := c.lineBreak
      let (empty, c) := emptyLines indent (c.size + 1) [] c
      let text := b.text ++ line
      if c.column = indent && !c.rest.isEmpty then
        let text :=
          if folded && lastBreak == ['\n'] && startsFull && !isBlank c.peek then
            if empty = [] then text ++ [' '] else text
          else text ++ lastBreak
        blockLines folded indent fuel ⟨text ++ empty, lastBreak, [], c⟩
      else ⟨text, lastBreak, empty, c⟩

/-- A block text behind its mark, in a block of the given indentation. -/
def blockText (folded : Bool) (outer : Int) (c : Cursor) : Except DocumentFault (List Char × Cursor) := do
  let (header, c) := blockHeader c
  let c ← headerEnd c
  let least := (max 1 (outer + 1)).toNat
  let (empty, indent, c) :=
    match header.indent? with
    | some n =>
      let indent := least + n - 1
      let (empty, c) := emptyLines indent (c.size + 1) [] c
      (empty, indent, c)
    | none =>
      let (empty, widest, c) := leadingLines (c.size + 1) [] 0 c
      (empty, max least widest, c)
  let start : BlockLines :=
    if c.column = indent && !c.rest.isEmpty then ⟨empty, [], [], c⟩ else ⟨[], [], empty, c⟩
  let b := blockLines folded indent (c.size + 1) start
  let text := if header.chomp = .strip then b.text else b.text ++ b.lastBreak
  return (if header.chomp = .keep then text ++ b.emptyLines else text, b.cursor)

end CombatPlan.Yaml
