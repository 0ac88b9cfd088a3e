import FlowDecl.Formatter.Invocation
import FlowDecl.Formatter.Numerals
import FlowDecl.Formatter.Usage

/-!
# Sleeping

The filter that does nothing for a time.
-/

namespace FlowDecl
namespace Formatter
namespace Filter

open Decimal (Fraction)

def timeUnits : List (List Char × Nat) :=
  [([], 1), (['s'], 1), (['m'], 60), (['h'], 3600), (['d'], 86400)]

/-- The seconds that a filter waits that never wakes up. -/
def forever : Fraction := ⟨Nat.pow 10 12, 1⟩

/-- The seconds of a duration: a number, which may be infinite, and a unit. -/
def duration? (text : String) : Option Fraction := do
  let number ← Numerals.leading? text.toList
  let unit ← timeUnits.lookup number.rest
  match number.size with
  | .finite x => if number.negative && x.num != 0 then none else some ⟨x.num * unit, x.den⟩
  | .infinite => if number.negative then none else some forever
  | .nan => none

def sleep : Filter := fun c =>
  c.invoke [] true (Usage.textOf c.program Usage.sleep) fun i =>
    if c.arguments.isEmpty then c.misuse "missing operand"
    else
      let wrong := i.operands.filter fun a => (duration? a).isNone
      if wrong.isEmpty then
        { rest := c.input, slept := (i.operands.filterMap duration?).foldl Fraction.add ⟨0, 1⟩ }
      else
        let lines := wrong.map fun a => "invalid time interval " ++ Quoting.curled a
        c.misuse (("\n" ++ c.program ++ ": ").intercalate lines)

end Filter
end Formatter
end FlowDecl
