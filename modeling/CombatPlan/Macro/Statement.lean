import CombatPlan.Program.Basic
import CombatPlan.Text.Split

/-!
# Combat macros

A macro is a row of statements with semicolons between them. An attempt is three statements: a condition,
the use, and the end of the condition. A branch is its condition, the statements of its body, and
the end. An opponent is told by its number if it has one, by its name if not.
-/

namespace CombatPlan

/-! ## Marks -/

inductive Mark where
  | id (n : Nat)
  | name (s : String)
  deriving DecidableEq, Repr

def Opponent.mark (o : Opponent) : Mark :=
  match o.monsterId with
  | some n => .id n
  | none => .name o.name

namespace Mark

def idWord : String := "monsterid "
def nameWord : String := "monstername \""

def chars : Mark → List Char
  | id n => idWord.toList ++ Nat.toDigits 10 n
  | name s => nameWord.toList ++ s.toList ++ ['"']

/-- A number in its shortest form, or a name in quotes that holds none. -/
def ofChars? (cs : List Char) : Option Mark :=
  match idWord.toList.isPrefixOf? cs, nameWord.toList.isPrefixOf? cs with
  | some ds, _ =>
    let n := Nat.ofDigitChars 10 ds 0
    if Nat.toDigits 10 n = ds then some (id n) else none
  | none, some cs =>
    match cs.reverse with
    | '"' :: letters =>
      if letters = [] ∨ '"' ∈ letters then none else some (name (String.ofList letters.reverse))
    | _ => none
  | none, none => none

end Mark

/-! ## Statements -/

inductive Statement where
  | use (tool : Tool) (name : String)
  | attack
  | runaway
  | again
  | abort
  | ifHas (tool : Tool) (name : String)
  | ifMark (m : Mark)
  | endIf
  deriving DecidableEq, Repr

namespace Statement

def useWord : Tool → String
  | .skill => "skill "
  | .item => "use "

def ifHasWord : Tool → String
  | .skill => "if hasskill "
  | .item => "if hascombatitem "

def chars : Statement → List Char
  | use tool name => (useWord tool).toList ++ name.toList
  | attack => "attack".toList
  | runaway => "runaway".toList
  | again => "repeat".toList
  | abort => "abort".toList
  | ifHas tool name => (ifHasWord tool).toList ++ name.toList
  | ifMark m => "if ".toList ++ m.chars
  | endIf => "endif".toList

theorem chars_use (tool : Tool) (name : String) :
    (use tool name).chars = (useWord tool).toList ++ name.toList := rfl

theorem chars_ifHas (tool : Tool) (name : String) :
    (ifHas tool name).chars = (ifHasWord tool).toList ++ name.toList := rfl

theorem chars_ifMark (m : Mark) : (ifMark m).chars = "if ".toList ++ m.chars := rfl

/-- A statement that ends in a name, which is not empty. -/
def named? (word : String) (make : String → Statement) (cs : List Char) : Option Statement :=
  match word.toList.isPrefixOf? cs with
  | some [] => none
  | some name => some (make (String.ofList name))
  | none => none

def marked? (cs : List Char) : Option Statement :=
  (("if ".toList.isPrefixOf? cs).bind Mark.ofChars?).map ifMark

def ofChars? (cs : List Char) : Option Statement :=
  ([attack, runaway, again, abort, endIf].find? (·.chars == cs))
    <|> named? (useWord .skill) (use .skill) cs
    <|> named? (useWord .item) (use .item) cs
    <|> named? (ifHasWord .skill) (ifHas .skill) cs
    <|> named? (ifHasWord .item) (ifHas .item) cs
    <|> marked? cs

def join (ss : List Statement) : String :=
  String.ofList (Text.glue ';' (ss.map chars))

/-- The statements of a macro. The empty text has none. -/
def split? (macroText : String) : Option (List Statement) :=
  if macroText = "" then some []
  else (Text.cut ';' macroText.toList).mapM ofChars?

end Statement

/-! ## Macros of programs -/

def Step.statements : Step → List Statement
  | use tool name => [.use tool name]
  | attempt tool name => [.ifHas tool name, .use tool name, .endIf]
  | attack => [.attack]
  | runaway => [.runaway]
  | again => [.again]
  | abort => [.abort]

def Program.statements : Program → List Statement
  | done => []
  | step s rest => s.statements ++ rest.statements
  | branch t body rest => .ifMark t.mark :: body.statements ++ .endIf :: rest.statements

def Opponent.condition (o : Opponent) : String :=
  String.ofList o.mark.chars

def Step.toMacro (s : Step) : String :=
  Statement.join s.statements

def Program.toMacro (p : Program) : String :=
  Statement.join p.statements

end CombatPlan
