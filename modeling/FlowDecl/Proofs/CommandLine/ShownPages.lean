import FlowDecl.Proofs.CommandLine.Generating
import FlowDecl.Proofs.CommandLine.Requests

/-!
# Pages that are shown

A run that ends without a failure and without its work is one that was asked for a page: the
arguments have an option for help or for the version.  Every other stop is a failure.
-/

namespace FlowDecl
namespace CommandLine

variable {α β : Type}

/-- What ends with a page that is shown. -/
def Shows (x : Except Stop α) : Prop :=
  ∃ page, x = .error (.shown page)

theorem Stop.status_eq_zero_iff {stop : Stop} : stop.status = 0 ↔ ∃ page, stop = .shown page := by
  cases stop <;> simp [Stop.status]

/-! ## Results -/

theorem not_shows_ok (a : α) : ¬Shows (.ok a : Except Stop α) := by
  rintro ⟨page, h⟩
  cases h

theorem not_shows_error {stop : Stop} (h : stop.status ≠ 0) :
    ¬Shows (.error stop : Except Stop α) := by
  rintro ⟨page, hpage⟩
  exact h (Stop.status_eq_zero_iff.mpr ⟨page, Except.error.inj hpage⟩)

theorem shows_bind_iff {x : Except Stop α} {f : α → Except Stop β} :
    Shows (x >>= f) ↔ Shows x ∨ ∃ a, x = .ok a ∧ Shows (f a) := by
  cases x with
  | error stop => simp [Shows, bind, Except.bind]
  | ok a => simp [Shows, bind, Except.bind]

theorem shows_map_iff {x : Except Stop α} {f : α → β} : Shows (f <$> x) ↔ Shows x := by
  cases x with
  | error stop => simp [Shows, Functor.map, Except.map]
  | ok a => simp [Shows, Functor.map, Except.map]

theorem not_shows_forM {κ : Type} {check : κ → Except Stop Unit} (h : ∀ key, ¬Shows (check key))
    (keys : List κ) : ¬Shows (keys.forM check) := by
  induction keys with
  | nil => exact not_shows_ok ()
  | cons key keys ih =>
      intro hshows
      rcases shows_bind_iff.mp hshows with hkey | ⟨_, -, hkeys⟩
      · exact h key hkey
      · exact ih hkeys

/-! ## Arguments -/

theorem not_shows_mapError_argumentStop (page : Page) (x : Except ArgumentFault α) :
    ¬Shows (x.mapError (argumentStop page)) := by
  cases x with
  | ok a => exact not_shows_ok a
  | error fault => cases fault <;> exact not_shows_error (Nat.succ_ne_zero 1)

theorem not_shows_lookAt (tree : Files.Tree) (path : String) : ¬Shows (lookAt tree path) := by
  rw [lookAt]
  split
  · exact not_shows_ok _
  · exact not_shows_error (Nat.succ_ne_zero 0)
  · exact not_shows_ok _

theorem not_shows_checkFile (page : Page) (tree : Files.Tree) (wanted : Bool)
    (hint path : String) : ¬Shows (checkFile page tree wanted hint path) := by
  rw [checkFile, shows_bind_iff]
  rintro (hlook | ⟨node, -, hnode⟩)
  · exact not_shows_lookAt tree path hlook
  · revert hnode
    split
    · split
      · exact not_shows_error (Nat.succ_ne_zero 1)
      · exact not_shows_ok ()
    · exact not_shows_error (Nat.succ_ne_zero 1)
    · exact not_shows_ok ()

theorem not_shows_checkDirectory (page : Page) (tree : Files.Tree) (hint path : String) :
    ¬Shows (checkDirectory page tree hint path) := by
  rw [checkDirectory, shows_bind_iff]
  rintro (hlook | ⟨node, -, hnode⟩)
  · exact not_shows_lookAt tree path hlook
  · revert hnode
    split
    · exact not_shows_error (Nat.succ_ne_zero 1)
    · exact not_shows_ok ()
    · exact not_shows_error (Nat.succ_ne_zero 1)

theorem not_shows_readTimeout (page : Page) (text : Option String) :
    ¬Shows (readTimeout page text) := by
  rw [readTimeout.eq_def]
  split
  · exact not_shows_ok _
  · split
    · exact not_shows_ok _
    · exact not_shows_error (Nat.succ_ne_zero 1)

theorem not_shows_required (page : Page) (f : OptionForm OptionKey) (value : Option String) :
    ¬Shows (required page f value) := by
  cases value with
  | some text => exact not_shows_ok text
  | none => exact not_shows_error (Nat.succ_ne_zero 1)

theorem not_shows_generate_check (tree : Files.Tree) (g : Given OptionKey) (key : OptionKey) :
    ¬Shows (Generate.check tree g key) := by
  rw [Generate.check.eq_def]
  split
  · cases g.positional.head? with
    | none => exact not_shows_ok ()
    | some path => exact not_shows_checkFile _ _ _ _ path
  · exact not_shows_checkFile _ _ _ _ _
  · cases g.value? .templates with
    | none => exact not_shows_ok ()
    | some path => exact not_shows_checkDirectory _ _ _ path
  · exact fun h => not_shows_readTimeout _ _ (shows_map_iff.mp h)
  · exact not_shows_ok ()

theorem not_shows_introspect_check (tree : Files.Tree) (g : Given OptionKey) (key : OptionKey) :
    ¬Shows (Introspect.check tree g key) := by
  rw [Introspect.check.eq_def]
  split
  · exact fun h => not_shows_required _ _ _ (shows_map_iff.mp h)
  · rw [shows_bind_iff]
    rintro (h | ⟨path, -, h⟩)
    · exact not_shows_required _ _ _ h
    · exact not_shows_checkFile _ _ _ _ path h
  · exact fun h => not_shows_readTimeout _ _ (shows_map_iff.mp h)
  · exact not_shows_ok ()

/-- A command shows a page only where help is asked for. -/
theorem help_of_shows_checkGiven {page : Page} {forms : List (OptionForm OptionKey)} {allowed : Nat}
    {check : Given OptionKey → OptionKey → Except Stop Unit} {g : Given OptionKey}
    (hcheck : ∀ key, ¬Shows (check g key)) (h : Shows (checkGiven page forms allowed check g)) :
    g.has .help = true := by
  by_contra hhelp
  rw [checkGiven, if_neg hhelp, shows_bind_iff] at h
  rcases h with h | ⟨_, -, h⟩
  · exact not_shows_forM hcheck _ h
  · revert h
    split
    · exact not_shows_ok g
    · exact not_shows_error (Nat.succ_ne_zero 1)

theorem not_shows_readEndpoint (page : Page) (around : Surroundings) (g : Given OptionKey) :
    ¬Shows (readEndpoint page around g) := by
  rw [readEndpoint, shows_bind_iff]
  rintro (h | ⟨timeout, -, h⟩)
  · exact not_shows_readTimeout _ _ h
  · exact not_shows_ok _ h

/-- The arguments of a run ask for a page: before the command, or after it. -/
inductive AsksForPage (arguments : List String) : Prop where
  | program {left : List String} {g : Given OptionKey}
      (hleft : left = arguments ∨ readProgram arguments = .ok left)
      (hread : Arguments.read programForms false left = .ok g) (hasks : g.options ≠ [])
  | generate {rest : List String} {g : Given OptionKey}
      (hcommand : readProgram arguments = .ok ("generate" :: rest))
      (hread : Arguments.read generateForms true rest = .ok g) (hasks : g.has .help = true)
  | introspect {rest : List String} {g : Given OptionKey}
      (hcommand : readProgram arguments = .ok ("introspect" :: rest))
      (hread : Arguments.read introspectForms true rest = .ok g) (hasks : g.has .help = true)

section Asks

variable {around : Surroundings} {tree : Files.Tree} {arguments rest : List String}

theorem asksForPage_of_readProgram {left : List String}
    (hleft : left = arguments ∨ readProgram arguments = .ok left) (h : Shows (readProgram left)) :
    AsksForPage arguments := by
  rw [readProgram, shows_bind_iff] at h
  rcases h with h | ⟨g, hg, h⟩
  · exact absurd h (not_shows_mapError_argumentStop _ _)
  · refine .program hleft (Outcome.mapError_eq_ok_iff.mp hg) ?_
    intro hnone
    rw [hnone] at h
    exact not_shows_ok _ h

theorem asksForPage_of_generate (hcommand : readProgram arguments = .ok ("generate" :: rest))
    (h : Shows (Generate.readRequest around tree rest)) : AsksForPage arguments := by
  rw [readRequest_generate, shows_bind_iff] at h
  rcases h with h | ⟨g, hg, h⟩
  · exact absurd h (not_shows_mapError_argumentStop _ _)
  · refine .generate hcommand (Outcome.mapError_eq_ok_iff.mp hg) ?_
    rcases shows_bind_iff.mp h with h | ⟨g', -, h⟩
    · exact help_of_shows_checkGiven (not_shows_generate_check tree g) h
    · rcases shows_bind_iff.mp h with h | ⟨endpoint, -, h⟩
      · exact absurd h (not_shows_readEndpoint _ _ _)
      · exact absurd h (not_shows_ok _)

theorem asksForPage_of_introspect (hcommand : readProgram arguments = .ok ("introspect" :: rest))
    (h : Shows (Introspect.readRequest around tree rest)) : AsksForPage arguments := by
  rw [Introspect.readRequest, readCommand_eq, shows_bind_iff, shows_bind_iff] at h
  rcases h with (h | ⟨g, hg, h⟩) | ⟨g, -, h⟩
  · exact absurd h (not_shows_mapError_argumentStop _ _)
  · exact .introspect hcommand (Outcome.mapError_eq_ok_iff.mp hg)
      (help_of_shows_checkGiven (not_shows_introspect_check tree g) h)
  · rcases shows_bind_iff.mp h with h | ⟨url, -, h⟩
    · exact absurd h (not_shows_required _ _ _)
    · rcases shows_bind_iff.mp h with h | ⟨output, -, h⟩
      · exact absurd h (not_shows_required _ _ _)
      · rcases shows_bind_iff.mp h with h | ⟨endpoint, -, h⟩
        · exact absurd h (not_shows_readEndpoint _ _ _)
        · exact absurd h (not_shows_ok _)

end Asks

/-! ## Requests -/

theorem not_shows_mapError {ε : Type} {x : Except ε α} {f : ε → Stop}
    (h : ∀ fault, (f fault).status ≠ 0) : ¬Shows (x.mapError f) := by
  cases x with
  | ok a => exact not_shows_ok a
  | error fault => exact not_shows_error (h fault)

theorem not_shows_bind {x : Except Stop α} {f : α → Except Stop β} (hx : ¬Shows x)
    (hf : ∀ a, ¬Shows (f a)) : ¬Shows (x >>= f) := by
  rw [shows_bind_iff]
  rintro (h | ⟨a, -, h⟩)
  · exact hx h
  · exact hf a h

theorem not_shows_mapM {f : α → Except Stop β} (h : ∀ a, ¬Shows (f a)) (as : List α) :
    ¬Shows (as.mapM f) := by
  induction as with
  | nil => exact not_shows_ok []
  | cons a as ih =>
      rw [List.mapM_cons]
      exact not_shows_bind (h a) fun b => not_shows_bind ih fun bs => not_shows_ok (b :: bs)

theorem fetchStop_status_ne (page : Page) (url : String) (fault : Endpoint.Fault) :
    (fetchStop page url fault).status ≠ 0 := by
  rw [fetchStop]
  cases fault.isReported
  · exact Nat.succ_ne_zero 0
  · exact Nat.succ_ne_zero 1

theorem loadStop_status_ne (fault : Load.Fault) : (loadStop fault).status ≠ 0 := by
  rw [loadStop]
  cases fault.isReported
  · exact Nat.succ_ne_zero 0
  · exact Nat.succ_ne_zero 1

theorem moduleStop_status_ne (fault : Module.Fault) : (moduleStop fault).status ≠ 0 := by
  rw [moduleStop]
  cases fault.isReported
  · exact Nat.succ_ne_zero 0
  · exact Nat.succ_ne_zero 1

theorem not_shows_documentOf (around : Surroundings) (page : Page) (url : String)
    (r : EndpointRequest) : ¬Shows (documentOf around page url r) :=
  not_shows_bind (not_shows_mapError fun _ => Nat.succ_ne_zero 1) fun _ =>
    not_shows_mapError (fetchStop_status_ne page url)

theorem not_shows_sourceOf (around : Surroundings) (tree : Files.Tree) (r : GenerateRequest) :
    ¬Shows (sourceOf around tree r) := by
  rw [sourceOf]
  cases given r.url with
  | some url =>
      exact not_shows_bind (not_shows_documentOf _ _ _ _) fun _ =>
        not_shows_mapError fun _ => Nat.succ_ne_zero 1
  | none => exact not_shows_mapError loadStop_status_ne

theorem not_shows_pipelineOf (r : GenerateRequest) : ¬Shows (pipelineOf r) := by
  refine not_shows_bind (not_shows_mapM (fun text => ?_) _) fun _ => not_shows_ok _
  exact not_shows_bind (not_shows_mapError fun _ => Nat.succ_ne_zero 1) fun _ =>
    not_shows_mapError fun _ => Nat.succ_ne_zero 1

end CommandLine
end FlowDecl
