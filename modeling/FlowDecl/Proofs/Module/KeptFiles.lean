import FlowDecl.Proofs.Module.ModuleText

/-!
# Modules and files

The text of a module is made without a change to the files, provided that formatters change none.
-/

namespace FlowDecl

/-- What may fail and leaves the files as they are. -/
def Files.Keeps {ε α : Type} (action : ExceptT ε (StateM Files.Tree) α) : Prop :=
  ∀ tree : Files.Tree, (action.run.run tree).2 = tree

/-- A way to run commands that leaves the files as they are. -/
def Formatter.KeepsFiles (run : Formatter.Runner) : Prop :=
  ∀ command input tree, ((run command input).run tree).2 = tree

theorem Files.Keeps.bind {ε α β : Type} {action : ExceptT ε (StateM Files.Tree) α}
    {next : α → ExceptT ε (StateM Files.Tree) β} (haction : Files.Keeps action)
    (hnext : ∀ a, Files.Keeps (next a)) : Files.Keeps (action >>= next) := by
  intro tree
  have htree := haction tree
  rw [Outcome.run_bind]
  rcases hrun : action.run.run tree with ⟨result, t⟩
  rw [hrun] at htree
  cases result with
  | error fault => exact htree
  | ok a => exact (hnext a t).trans htree

namespace Formatter

variable {run : Runner} (hrun : KeepsFiles run)

include hrun

theorem keeps_format (command : Command) (text : String) :
    Files.Keeps (format run command text) := by
  rw [format]
  split
  next =>
    intro tree
    rfl
  next =>
    refine Files.Keeps.bind ?_ fun outcome => ?_
    · intro tree
      exact hrun command _ tree
    · intro tree
      cases readOutcome command outcome <;> rfl

theorem keeps_finish (p : Pipeline) (text : String) : Files.Keeps (p.finish run text) := by
  rw [Pipeline.finish]
  induction p.finishers generalizing text with
  | nil => exact fun tree => rfl
  | cons f finishers ih =>
      rw [List.foldlM_cons]
      refine Files.Keeps.bind ?_ fun finished => ih finished
      cases f with
      | banner heading => exact fun tree => rfl
      | formatter command => exact keeps_format hrun command text

/-- The text of a module is made without a change to the files. -/
theorem keeps_render (engine : Template.Engine) (recipe : Module.Recipe) :
    Files.Keeps (recipe.render engine run) := by
  intro tree
  cases hdraft : recipe.draft engine tree with
  | error fault => rw [Module.render_of_draft_error run hdraft]
  | ok text =>
      rw [Module.render_of_draft_ok run hdraft]
      exact keeps_finish hrun recipe.pipeline text tree

end Formatter

end FlowDecl
