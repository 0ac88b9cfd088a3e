import FlowDecl.CommandLine.Options
import FlowDecl.Proofs.Outcome

/-!
# Endings of sessions

The ending of a part of a session is its result or its stop, with the files that it leaves.  Most
parts look at the files only, so they come to one ending whatever was printed before and whoever was
asked before.

Printing is the exception: a terminal may refuse a text.  A part that is cut off there leaves the
files as they were, or it had nothing left to do but to tell about it.
-/

namespace FlowDecl
namespace CommandLine

open Files (Tree)

variable {α β : Type} {around : Surroundings} {tree tree' : Tree}

/-- Every text can be printed. -/
def Surroundings.TakesTexts (around : Surroundings) : Prop :=
  ∀ printed text, around.console printed text = none

theorem not_takesTexts {printed text : String} {mishap : Mishap}
    (h : around.console printed text = some mishap) : ¬around.TakesTexts := by
  intro htexts
  rw [htexts printed text] at h
  cases h

/-- How a part of a session ends and the files that it leaves. -/
abbrev Ending (α : Type) := Except Stop α × Tree

def Action.effect (action : Action α) (s : Session) : Ending α :=
  ((action.run.run s).1, (action.run.run s).2.tree)

/-- The ending that follows on a result, or its stop. -/
def Ending.after (x : Except Stop α) (tree : Tree) (next : α → Ending β) : Ending β :=
  match x with
  | .ok a => next a
  | .error stop => (.error stop, tree)

@[simp] theorem Ending.after_ok (a : α) (next : α → Ending β) :
    Ending.after (.ok a) tree next = next a := rfl

@[simp] theorem Ending.after_error (stop : Stop) (next : α → Ending β) :
    Ending.after (.error stop) tree next = (.error stop, tree) := rfl

/-- What is found instead of an ending where the terminal refuses a text. -/
structure Ending.IsCutOff (around : Surroundings) (tree : Tree) (ending found : Ending α) :
    Prop where
  refused : ∃ printed text mishap, around.console printed text = some mishap ∧
    found.1 = .error (.crash (.console mishap))
  files : found.2 = tree ∨ ∃ a, ending.1 = .ok a ∧ found.2 = ending.2

/-- From some files a part of a session comes to an ending, unless it is cut off. -/
def Action.ComesTo (around : Surroundings) (action : Action α) (tree : Tree)
    (ending : Ending α) : Prop :=
  ∀ s : Session, s.tree = tree →
    action.effect s = ending ∨ ending.IsCutOff around tree (action.effect s)

theorem effect_eq_of_comesTo {action : Action α} {ending : Ending α} (htexts : around.TakesTexts)
    (h : action.ComesTo around tree ending) : action.effect { tree } = ending := by
  refine (h { tree } rfl).resolve_right fun hcut => ?_
  obtain ⟨printed, text, mishap, hrefused, -⟩ := hcut.refused
  exact not_takesTexts hrefused htexts

theorem effect_bind (action : Action α) (next : α → Action β) (s : Session) :
    (action >>= next).effect s =
      match action.run.run s with
      | (.ok a, s') => (next a).effect s'
      | (.error stop, s') => (.error stop, s'.tree) := by
  rw [Action.effect, Outcome.run_bind]
  rcases action.run.run s with ⟨result, s'⟩
  cases result <;> rfl

theorem run_print (around : Surroundings) (text : String) (s : Session) :
    (print around text).run.run s =
      match around.console s.output text with
      | none => (.ok (), { s with output := s.output ++ text })
      | some mishap => (.error (.crash (.console mishap)), s) := by
  change ((match around.console s.output text with
    | none => set { s with output := s.output ++ text }
    | some mishap => throw (.crash (.console mishap))) : Action Unit).run.run s = _
  cases around.console s.output text <;> rfl

namespace Action.ComesTo

theorem exists_run {action : Action α} {ending : Ending α} (h : action.ComesTo around tree ending)
    {s : Session} (htree : s.tree = tree) :
    ∃ result s', action.run.run s = (result, s') ∧
      ((result, s'.tree) = ending ∨ ending.IsCutOff around tree (result, s'.tree)) :=
  ⟨_, _, rfl, h s htree⟩

theorem pure (a : α) : Action.ComesTo around (Pure.pure a) tree (.ok a, tree) :=
  fun _ htree => .inl (congrArg (Prod.mk _) htree)

theorem throw (stop : Stop) :
    Action.ComesTo around (MonadExcept.throw stop : Action α) tree (.error stop, tree) :=
  fun _ htree => .inl (congrArg (Prod.mk _) htree)

theorem get_bind {next : Session → Action β} {ending : Ending β}
    (h : ∀ s : Session, s.tree = tree → (next s).ComesTo around tree ending) :
    (get >>= next).ComesTo around tree ending :=
  fun s htree => h s htree s htree

/-! ## One part after another -/

/-- A stop ends what comes after it. -/
theorem bind_error {action : Action α} {next : α → Action β} {stop : Stop}
    (h : action.ComesTo around tree (.error stop, tree')) :
    (action >>= next).ComesTo around tree (.error stop, tree') := by
  intro s htree
  obtain ⟨result, s', hrun, heffect | hcut⟩ := h.exists_run htree <;> rw [effect_bind, hrun]
  · obtain ⟨rfl, rfl⟩ := Prod.mk.inj heffect
    exact .inl rfl
  · obtain ⟨printed, text, mishap, hrefused, rfl⟩ := hcut.refused
    refine .inr ⟨⟨printed, text, mishap, hrefused, rfl⟩, .inl (hcut.files.resolve_right ?_)⟩
    rintro ⟨a, ha, -⟩
    cases ha

/-- After a part that keeps the files, the ending is that of what comes next. -/
theorem bind_ok {action : Action α} {next : α → Action β} {a : α} {ending : Ending β}
    (h : action.ComesTo around tree (.ok a, tree)) (hnext : (next a).ComesTo around tree ending) :
    (action >>= next).ComesTo around tree ending := by
  intro s htree
  obtain ⟨result, s', hrun, heffect | hcut⟩ := h.exists_run htree <;> rw [effect_bind, hrun]
  · obtain ⟨rfl, htree'⟩ := Prod.mk.inj heffect
    exact hnext s' htree'
  · obtain ⟨printed, text, mishap, hrefused, rfl⟩ := hcut.refused
    refine .inr ⟨⟨printed, text, mishap, hrefused, rfl⟩, .inl ?_⟩
    exact hcut.files.elim id fun ⟨_, _, hfiles⟩ => hfiles

/-- What is only told after a part that changes the files cannot change them again. -/
theorem bind_told {action : Action α} {next : α → Action β} {a : α} {b : β}
    (h : action.ComesTo around tree (.ok a, tree'))
    (hnext : (next a).ComesTo around tree' (.ok b, tree')) :
    (action >>= next).ComesTo around tree (.ok b, tree') := by
  intro s htree
  obtain ⟨result, s', hrun, heffect | hcut⟩ := h.exists_run htree <;> rw [effect_bind, hrun]
  · obtain ⟨rfl, htree'⟩ := Prod.mk.inj heffect
    refine (hnext s' htree').imp_right fun hcut => ⟨hcut.refused, .inr ⟨b, rfl, ?_⟩⟩
    exact hcut.files.elim id fun ⟨_, _, hfiles⟩ => hfiles
  · obtain ⟨printed, text, mishap, hrefused, rfl⟩ := hcut.refused
    refine .inr ⟨⟨printed, text, mishap, hrefused, rfl⟩, hcut.files.imp_right ?_⟩
    exact fun ⟨_, _, hfiles⟩ => ⟨b, rfl, hfiles⟩

/-- After a part that keeps the files, the ending is what follows on its result. -/
theorem bind_after {action : Action α} {next : α → Action β} {x : Except Stop α}
    {ending : α → Ending β} (h : action.ComesTo around tree (x, tree))
    (hnext : ∀ a, (next a).ComesTo around tree (ending a)) :
    (action >>= next).ComesTo around tree (Ending.after x tree ending) := by
  cases x with
  | ok a => exact h.bind_ok (hnext a)
  | error stop => exact h.bind_error

/-- Parts that keep the files come to what their results come to. -/
theorem bind {action : Action α} {next : α → Action β} {x : Except Stop α} {f : α → Except Stop β}
    (h : action.ComesTo around tree (x, tree))
    (hnext : ∀ a, (next a).ComesTo around tree (f a, tree)) :
    (action >>= next).ComesTo around tree (x >>= f, tree) := by
  have hafter := h.bind_after hnext
  cases x with
  | ok a => exact hafter
  | error stop => exact hafter

theorem mapM {f : α → Action β} {g : α → Except Stop β}
    (h : ∀ a, (f a).ComesTo around tree (g a, tree)) (as : List α) :
    (as.mapM f).ComesTo around tree (as.mapM g, tree) := by
  induction as with
  | nil => exact pure []
  | cons a as ih =>
      rw [List.mapM_cons, List.mapM_cons]
      exact bind (h a) fun b => bind ih fun bs => pure (b :: bs)

/-! ## Telling -/

theorem print (text : String) :
    (CommandLine.print around text).ComesTo around tree (.ok (), tree) := by
  rintro s rfl
  rw [Action.effect, run_print]
  cases hconsole : around.console s.output text with
  | none => exact .inl rfl
  | some mishap => exact .inr ⟨⟨s.output, text, mishap, hconsole, rfl⟩, .inl rfl⟩

theorem echo (line : String) :
    (CommandLine.echo around line).ComesTo around tree (.ok (), tree) :=
  print (line ++ "\n")

theorem forM_echo (lines : List String) :
    (lines.forM (CommandLine.echo around)).ComesTo around tree (.ok (), tree) := by
  induction lines with
  | nil => exact pure ()
  | cons line lines ih => exact bind_ok (echo line) ih

theorem orUsage (page : Page) (x : Except String α) :
    (CommandLine.orUsage page x).ComesTo around tree (x.mapError (.usage page), tree) := by
  cases x with
  | ok a => exact pure a
  | error message => exact throw _

end Action.ComesTo

/-! ## Outcomes -/

def stop? : Except Stop α → Option Stop
  | .ok _ => none
  | .error stop => some stop

/-- The failure that a stop stands for, if it is one. -/
def Stop.crash? : Stop → Option Crash
  | .crash failure => some failure
  | _ => none

/-- A run has the outcome of an ending: the text of the stop, if there is one, is told last. -/
structure Outcome.IsOf (o : Outcome) (ending : Ending Unit) : Prop where
  files : o.session.tree = ending.2
  status : o.status = (stop? ending.1).elim 0 Stop.status
  crash : o.crash = (stop? ending.1).bind Stop.crash?
  told : ∃ told, o.session.output = told ++ (stop? ending.1).elim "" Stop.text

/-- A run failed because a text could not be printed. -/
def Outcome.FailedToPrint (o : Outcome) : Prop :=
  ∃ mishap, o.crash = some (.console mishap)

/-- A run that was cut off where the terminal refused a text.  The files are as they were, or as
they are after the ending if it stands for no failure of its own. -/
structure Outcome.IsCutOff (o : Outcome) (around : Surroundings) (tree : Tree)
    (ending : Ending Unit) : Prop where
  refuses : ¬around.TakesTexts
  failed : o.FailedToPrint
  status : o.status = 1
  files : o.session.tree = tree ∨
    (stop? ending.1).bind Stop.crash? = none ∧ o.session.tree = ending.2

theorem run_stopPrint {stop : Stop} (hcrash : stop.crash? = none) (s : Session) :
    (stop.print around).run.run s =
      match around.console s.output stop.text with
      | none => (.error stop, { s with output := s.output ++ stop.text })
      | some mishap => (.error (.crash (.console mishap)), s) := by
  have hprint : stop.print around = (do print around stop.text; throw stop) := by
    cases stop with
    | crash crash => cases hcrash
    | _ => rfl
  rw [hprint, Outcome.run_bind, run_print]
  cases around.console s.output stop.text <;> rfl

theorem outcome_eq (action : Action Unit) (tree : Tree) :
    action.outcome around tree =
      match action.run.run { tree } with
      | (.ok (), session) => { status := 0, session }
      | (.error stop, session) =>
        match (stop.print around).run.run session with
        | (.ok (), session) => { status := 0, session }
        | (.error stop, session) =>
          { status := stop.status, session, crash := stop.crash? } := by
  rw [Action.outcome, Outcome.run_tryCatch]
  rcases action.run.run { tree } with ⟨result, session⟩
  cases result with
  | ok _ => rfl
  | error stop =>
      simp only
      rcases (stop.print around).run.run session with ⟨result, session⟩
      cases result with
      | ok _ => rfl
      | error stop => cases stop <;> rfl

/-- A run has the outcome of the ending that it comes to unless it is cut off. -/
theorem outcome_of_comesTo {action : Action Unit} {ending : Ending Unit}
    (h : action.ComesTo around tree ending) :
    (action.outcome around tree).IsOf ending ∨
      (action.outcome around tree).IsCutOff around tree ending := by
  obtain ⟨result, session, hrun, heffect | hcut⟩ := h.exists_run (s := { tree }) rfl <;>
    rw [outcome_eq, hrun]
  · subst heffect
    cases result with
    | ok _ => exact .inl ⟨rfl, rfl, rfl, session.output, (String.append_empty).symm⟩
    | error stop =>
        cases hcrash : stop.crash? with
        | some crash =>
            obtain ⟨crash, rfl⟩ : ∃ crash, stop = .crash crash := by
              cases stop with
              | crash crash => exact ⟨crash, rfl⟩
              | _ => cases hcrash
            exact .inl ⟨rfl, rfl, rfl, session.output, (String.append_empty).symm⟩
        | none =>
            simp only [run_stopPrint hcrash]
            cases hconsole : around.console session.output stop.text with
            | none => exact .inl ⟨rfl, hcrash.symm ▸ rfl, rfl, session.output, rfl⟩
            | some mishap =>
                exact .inr ⟨not_takesTexts hconsole, ⟨mishap, rfl⟩, rfl, .inr ⟨hcrash, rfl⟩⟩
  · obtain ⟨printed, text, mishap, hrefused, rfl⟩ := hcut.refused
    refine .inr ⟨not_takesTexts hrefused, ⟨mishap, rfl⟩, rfl, hcut.files.imp_right ?_⟩
    rintro ⟨a, ha, hfiles⟩
    exact ⟨by rw [ha]; rfl, hfiles⟩

theorem isOf_of_comesTo {action : Action Unit} {ending : Ending Unit} (htexts : around.TakesTexts)
    (h : action.ComesTo around tree ending) : (action.outcome around tree).IsOf ending :=
  (outcome_of_comesTo h).resolve_right fun hcut => hcut.refuses htexts

end CommandLine
end FlowDecl
