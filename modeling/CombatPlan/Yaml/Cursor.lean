import CombatPlan.Datum.Calendar
import CombatPlan.Number.Reading

/-!
# A place in a document

What is left of a document, with the line and column where it starts. A document is made of printable
characters and blanks; the end of it reads as the null character, which no document contains.
-/

namespace CombatPlan.Yaml

inductive DocumentFault where
  | malformed
  | calendar (f : CalendarFault)
  /-- A number in a base, with the mark of the base and no digits. -/
  | noDigits (base : Nat)
  | oversizedInteger (digits : Nat)
  /-- A number in base sixty with so many parts that the power of sixty in front is beyond all numbers. -/
  | oversizedPower
  /-- An escape for a number beyond the last character. -/
  | noSuchCharacter
  /-- An escape for a number that does not fit into 31 bits. -/
  | oversizedCharacter
  /-- Something that is not covered here. -/
  | uncovered
  deriving DecidableEq, Repr

def DocumentFault.message : DocumentFault → String
  | malformed => "malformed document"
  | calendar f => f.message
  | noDigits base => "invalid literal for int() with base " ++ toString base ++ ": ''"
  | oversizedInteger n => Number.oversizedMessage n
  | oversizedPower => "int too large to convert to float"
  | noSuchCharacter => "chr() arg not in range(0x110000)"
  | oversizedCharacter => "Python int too large to convert to C int"
  | uncovered => "document not covered"

/-! ## Characters -/

def isBreak (c : Char) : Bool :=
  c == '\n' || c == '\u0085' || c == '\u2028' || c == '\u2029'

def isEnd (c : Char) : Bool :=
  c == '\x00'

def isBreakOrEnd (c : Char) : Bool :=
  isBreak c || isEnd c

/-- A space, a tab, a line break or the end. -/
def isGap (c : Char) : Bool :=
  c == ' ' || c == '\t' || isBreakOrEnd c

def isAllowed (c : Char) : Bool :=
  let n := c.toNat
  n == 0x09 || n == 0x0A || n == 0x0D || (0x20 ≤ n && n ≤ 0x7E) || n == 0x85
    || (0xA0 ≤ n && n ≤ 0xD7FF) || (0xE000 ≤ n && n ≤ 0xFFFD) || 0x10000 ≤ n

/-- A document is looked at in parts: a first one and others of half its length. -/
def partLength : Nat := 4096

/-- The part of a document in front of the one that holds the first character that no document may hold. -/
def legible (cs : List Char) : List Char :=
  let good := (cs.takeWhile isAllowed).length
  if good = cs.length then cs else cs.take (if good < 2 * partLength then 0 else good / partLength * partLength)

theorem legible_isPrefix (cs : List Char) : legible cs <+: cs := by
  unfold legible
  simp only
  split
  · exact List.prefix_refl cs
  · exact List.take_prefix _ _

/-- The document with a line feed for each carriage return, alone or before a line feed. -/
def plainBreaks : List Char → List Char
  | [] => []
  | '\r' :: '\n' :: cs => '\n' :: plainBreaks cs
  | '\r' :: cs => '\n' :: plainBreaks cs
  | c :: cs => c :: plainBreaks cs

/-! ## Cursors -/

structure Cursor where
  rest : List Char
  size : Nat
  index : Nat := 0
  line : Nat := 0
  column : Nat := 0

namespace Cursor

def ofChars (cs : List Char) : Cursor :=
  { rest := cs, size := cs.length }

def peek (c : Cursor) : Char :=
  c.rest.headD '\x00'

def peekSecond (c : Cursor) : Char :=
  c.rest.tail.headD '\x00'

/-- One character further. A byte order mark takes no column. -/
def next (c : Cursor) : Cursor :=
  match c.rest with
  | [] => c
  | ch :: rest =>
    if isBreak ch then { c with rest, index := c.index + 1, line := c.line + 1, column := 0 }
    else { c with rest, index := c.index + 1, column := c.column + (if ch = '\uFEFF' then 0 else 1) }

def drop : Nat → Cursor → Cursor
  | 0, c => c
  | n + 1, c => drop n c.next

def span (p : Char → Bool) (c : Cursor) : List Char × Cursor :=
  let cs := c.rest.takeWhile p
  (cs, c.drop cs.length)

def skip (p : Char → Bool) (c : Cursor) : Cursor :=
  (c.span p).2

/-- Whether three hyphens or three dots stand here, with a gap behind. -/
def atSeparator (c : Cursor) : Bool :=
  let gapAfter := isGap ((c.rest.drop 3).headD '\x00')
  (c.rest.take 3 == ['-', '-', '-'] || c.rest.take 3 == ['.', '.', '.']) && gapAfter

/-- What a line break stands for within a text, and the place after it; nothing if there is none. -/
def lineBreak (c : Cursor) : List Char × Cursor :=
  let ch := c.peek
  if ch = '\n' || ch = '\u0085' then (['\n'], c.next)
  else if isBreak ch then ([ch], c.next)
  else ([], c)

end Cursor

/-- A line break folds into a space, unless more breaks follow, which then stand for themselves. -/
def foldBreaks (first more : List Char) : List Char :=
  if first ≠ ['\n'] then first ++ more
  else if more = [] then [' ']
  else more

end CombatPlan.Yaml
