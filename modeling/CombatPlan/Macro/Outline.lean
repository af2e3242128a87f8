import CombatPlan.Macro.Statement

/-!
# Outlines

An outline is what a macro tells of a program: all of it, but of each target only the mark. A macro is read
from its last statement to its first, so that an end comes before the part that it closes and the
condition of that part behind it.
-/

namespace CombatPlan

inductive Outline where
  | done
  | step (s : Step) (rest : Outline)
  | branch (mark : Mark) (body rest : Outline)
  deriving DecidableEq, Repr

def Program.outline : Program → Outline
  | done => .done
  | step s rest => .step s rest.outline
  | branch t body rest => .branch t.mark body.outline rest.outline

namespace Outline

/-- What has been read so far: the part in hand, and what follows each of the parts around it. -/
structure Reading where
  part : Outline
  around : List Outline

def Reading.prepend? (r : Reading) : Statement → Option Reading
  | .use tool name => some { r with part := step (.use tool name) r.part }
  | .attack => some { r with part := step .attack r.part }
  | .runaway => some { r with part := step .runaway r.part }
  | .again => some { r with part := step .again r.part }
  | .abort => some { r with part := step .abort r.part }
  | .endIf => some ⟨done, r.part :: r.around⟩
  | .ifMark m =>
    match r.around with
    | rest :: around => some ⟨branch m r.part rest, around⟩
    | [] => none
  | .ifHas tool name =>
    match r.around with
    | rest :: around =>
      if r.part = step (.use tool name) done then some ⟨step (.attempt tool name) rest, around⟩
      else none
    | [] => none

def Reading.ofStatements? : List Statement → Option Reading
  | [] => some ⟨done, []⟩
  | s :: ss => (ofStatements? ss).bind (·.prepend? s)

/-- The outline that statements spell. Each condition has its end, and the condition of an attempt holds nothing
but the use. -/
def ofStatements? (ss : List Statement) : Option Outline :=
  match Reading.ofStatements? ss with
  | some ⟨part, []⟩ => some part
  | _ => none

def ofMacro? (macroText : String) : Option Outline :=
  (Statement.split? macroText).bind ofStatements?

end Outline
end CombatPlan
