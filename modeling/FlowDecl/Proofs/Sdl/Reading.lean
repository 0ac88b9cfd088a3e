import FlowDecl.Proofs.Outcome
import FlowDecl.Sdl.Introspection
import Mathlib.Tactic.SplitIfs

/-!
# The standard toolkit

A type system is built from a text if its definitions follow the rules, and it is introspected
unless a deprecation in it cannot be read or it is not valid.
-/

namespace FlowDecl
namespace Sdl

theorem build_eq_ok_iff {text : String} {s : TypeSystem} :
    standardToolkit.build text = .ok s ↔
      ∃ doc, parse text = some doc ∧ (followsRules doc = true ∧ directivesRead doc = true) ∧
        TypeSystem.ofDocument doc = s := by
  rw [standardToolkit, Outcome.mapError_eq_ok_iff, build]
  cases parse text with
  | none => simp
  | some doc =>
      simp only [Option.some.injEq, exists_eq_left', Bool.and_eq_true]
      split_ifs with hrules
      · simp [hrules]
      · simp [hrules]

theorem introspect_eq_ok_iff {s : TypeSystem} {document : Json.Value} :
    standardToolkit.introspect s = .ok document ↔
      s.isUnreadable = false ∧ s.isValid = true ∧ Document.write s.toSchema = document := by
  change introspect s = .ok document ↔ _
  rw [introspect]
  split_ifs with hunreadable hvalid
  · simp [hunreadable]
  · simp [hunreadable, hvalid]
  · simp [hvalid]

end Sdl
end FlowDecl
