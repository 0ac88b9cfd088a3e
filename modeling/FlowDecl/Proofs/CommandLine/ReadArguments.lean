import FlowDecl.CommandLine.Arguments
import FlowDecl.Proofs.Outcome
import Mathlib.Tactic.SplitIfs

/-!
# Arguments that stand first

Arguments are read one after the other, and what was read before has no influence on what comes
after it.  So an argument or an option that stands first can be split off: the rest reads as it does
alone, and what stood first is added to it.

An option whose check passes has no influence on the checks of the others, wherever it stands: what
is given can be checked without it.
-/

namespace FlowDecl
namespace CommandLine

variable {κ ε : Type}

/-- What was given, followed by what else was given. -/
def Given.append (g g' : Given κ) : Given κ where
  options := g.options ++ g'.options
  positional := g.positional ++ g'.positional

theorem Given.append_assoc (g g' g'' : Given κ) :
    (g.append g').append g'' = g.append (g'.append g'') := by
  simp [Given.append]

namespace Arguments

/-! ## Options take no argument back -/

theorem length_of_takeNext {key : κ} {option : String} {args rest : List String}
    {options : List (κ × String)} (h : takeNext key option args = .ok (options, rest)) :
    rest.length ≤ args.length := by
  cases args with
  | nil => cases h
  | cons value args =>
      cases h
      exact Nat.le_succ _

theorem length_of_takeShort {forms : List (OptionForm κ)} {cs : List Char}
    {args rest : List String} {options : List (κ × String)}
    (h : takeShort forms cs args = .ok (options, rest)) : rest.length ≤ args.length := by
  induction cs generalizing options with
  | nil =>
      cases h
      exact Nat.le_refl _
  | cons c cs ih =>
      rw [takeShort] at h
      split at h
      next => cases h
      next f _ =>
        split_ifs at h with hvalue hempty
        · exact length_of_takeNext h
        · cases h
          exact Nat.le_refl _
        · obtain ⟨⟨others, rest'⟩, hothers, heq⟩ := Outcome.map_eq_ok_iff.mp h
          cases heq
          exact ih hothers

theorem length_of_takeLong {forms : List (OptionForm κ)} {argument : List Char}
    {args rest : List String} {options : List (κ × String)}
    (h : takeLong forms argument args = .ok (options, rest)) : rest.length ≤ args.length := by
  rw [takeLong] at h
  split at h
  next => cases h
  next =>
    split at h
    next =>
      split_ifs at h with hvalue
      · exact length_of_takeNext h
      · cases h
        exact Nat.le_refl _
    next =>
      split_ifs at h with hvalue
      · cases h
        exact Nat.le_refl _

theorem length_of_takeOption? {forms : List (OptionForm κ)} {argument : String}
    {args rest : List String} {options : List (κ × String)}
    (h : takeOption? forms argument args = some (.ok (options, rest))) :
    rest.length ≤ args.length := by
  rw [takeOption?] at h
  split at h
  next => exact length_of_takeLong (Option.some.inj h)
  next => exact length_of_takeShort (Option.some.inj h)
  next => cases h

/-! ## What stands first -/

theorem readFrom_nil (forms : List (OptionForm κ)) (interspersed : Bool) (g : Given κ) (n : Nat) :
    readFrom forms interspersed g n [] = .ok g := by
  cases n <;> rfl

/-- With fuel for every argument, what was given before is added to what is read. -/
theorem readFrom_eq_map {forms : List (OptionForm κ)} {args : List String} {n m : Nat}
    (hn : args.length ≤ n) (hm : args.length ≤ m) (g : Given κ) :
    readFrom forms true g n args = g.append <$> readFrom forms true {} m args := by
  induction hlength : args.length using Nat.strongRecOn generalizing args n m g with
  | ind length ih =>
      cases args with
      | nil =>
          rw [readFrom_nil, readFrom_nil]
          simp [Given.append, Functor.map, Except.map]
      | cons argument rest =>
          rw [List.length_cons] at hn hm hlength
          obtain ⟨n, rfl⟩ := Nat.exists_eq_add_of_le' (Nat.le_trans (Nat.le_add_left 1 _) hn)
          obtain ⟨m, rfl⟩ := Nat.exists_eq_add_of_le' (Nat.le_trans (Nat.le_add_left 1 _) hm)
          -- What is read at this argument is added to what was given, and to nothing.
          have hstep : ∀ (h : Given κ) (rest' : List String), rest'.length ≤ rest.length →
              readFrom forms true (g.append h) n rest' =
                g.append <$> readFrom forms true h m rest' := by
            intro h rest' hrest
            have hfuel : ∀ (k : Nat) (g' : Given κ), rest'.length ≤ k →
                readFrom forms true g' k rest' =
                  g'.append <$> readFrom forms true {} rest'.length rest' :=
              fun k g' hk => ih rest'.length (by omega) hk (Nat.le_refl _) g' rfl
            rw [hfuel n (g.append h) (by omega), hfuel m h (by omega)]
            cases readFrom forms true {} rest'.length rest' with
            | error fault => rfl
            | ok g' => exact congrArg Except.ok (Given.append_assoc g h g')
          rw [readFrom, readFrom]
          by_cases hdash : argument = "--"
          · rw [if_pos hdash, if_pos hdash]
            simp [Given.append, Functor.map, Except.map]
          · rw [if_neg hdash, if_neg hdash]
            cases htake : takeOption? forms argument rest with
            | none =>
                have hpositional := hstep { positional := [argument] } rest (Nat.le_refl _)
                simpa [Given.append] using hpositional
            | some taken =>
                cases taken with
                | error fault => rfl
                | ok taken =>
                    obtain ⟨options, rest'⟩ := taken
                    have hoptions := hstep { options } rest' (length_of_takeOption? htake)
                    simpa [Given.append, bind, Except.bind] using hoptions

/-- A positional argument that stands first. -/
theorem read_cons_of_positional {forms : List (OptionForm κ)} {argument : String}
    (hdash : argument ≠ "--") (hoption : ∀ rest, takeOption? forms argument rest = none)
    (args : List String) :
    read forms true (argument :: args) =
      Given.append { positional := [argument] } <$> read forms true args := by
  rw [read, List.length_cons, readFrom, if_neg hdash, hoption]
  exact readFrom_eq_map (Nat.le_refl _) (Nat.le_refl _) _

/-- An option that stands first with its value. -/
theorem read_cons_of_option {forms : List (OptionForm κ)} {argument value : String} {key : κ}
    (hdash : argument ≠ "--")
    (hoption : ∀ rest,
      takeOption? forms argument (value :: rest) = some (.ok ([(key, value)], rest)))
    (args : List String) :
    read forms true (argument :: value :: args) =
      Given.append { options := [(key, value)] } <$> read forms true args := by
  rw [read, List.length_cons, readFrom, if_neg hdash, hoption]
  exact readFrom_eq_map (Nat.le_succ _) (Nat.le_refl _) _

end Arguments

/-! ## Checks in another order -/

/-- A check that passes can be left out. -/
theorem forM_filter {check : κ → Except ε Unit} {keep : κ → Bool} {keys : List κ}
    (h : ∀ key ∈ keys, keep key = false → check key = .ok ()) :
    (keys.filter keep).forM check = keys.forM check := by
  induction keys with
  | nil => rfl
  | cons key keys ih =>
      rw [List.forall_mem_cons] at h
      cases hkeep : keep key with
      | true =>
          rw [List.filter_cons_of_pos hkeep, List.forM, List.forM, ih h.2]
      | false =>
          rw [List.filter_cons_of_neg (by simp [hkeep]), ih h.2, List.forM, h.1 hkeep]
          rfl

theorem forM_congr {check check' : κ → Except ε Unit} {keys : List κ}
    (h : ∀ key ∈ keys, check key = check' key) : keys.forM check = keys.forM check' := by
  induction keys with
  | nil => rfl
  | cons key keys ih =>
      rw [List.forall_mem_cons] at h
      rw [List.forM, List.forM, h.1, ih h.2]

/-! ## What is given without one option -/

/-- Repetitions can be left out before or after other things are. -/
theorem eraseDups_filter [DecidableEq κ] (keep : κ → Bool) (keys : List κ) :
    (keys.filter keep).eraseDups = keys.eraseDups.filter keep := by
  induction hlength : keys.length using Nat.strongRecOn generalizing keys with
  | ind length ih =>
      cases keys with
      | nil => rfl
      | cons key keys =>
          have hshorter : (keys.filter fun k => !k == key).length < length := by
            rw [← hlength, List.length_cons]
            exact Nat.lt_succ_of_le (List.length_filter_le _ _)
          have hothers := ih _ hshorter (keys.filter fun k => !k == key) rfl
          rw [List.eraseDups_cons]
          cases hkeep : keep key with
          | true =>
              rw [List.filter_cons_of_pos hkeep, List.filter_cons_of_pos hkeep,
                List.eraseDups_cons, ← hothers, List.filter_filter, List.filter_filter]
              simp only [Bool.and_comm]
          | false =>
              have hdropped : keep key ≠ true := by simp [hkeep]
              rw [List.filter_cons_of_neg hdropped, List.filter_cons_of_neg hdropped, ← hothers,
                List.filter_filter]
              refine congrArg List.eraseDups (List.filter_congr fun k _ => ?_)
              by_cases hk : k = key
              · rw [hk, hkeep, Bool.false_and]
              · simp [hk]

section Without

variable [DecidableEq κ]

/-- What is given without the values of one option. -/
def Given.without (g : Given κ) (key : κ) : Given κ where
  options := g.options.filter fun o => o.1 != key
  positional := g.positional

theorem Given.without_append (g g' : Given κ) (key : κ) :
    (g.append g').without key = (g.without key).append (g'.without key) := by
  rw [without, append, List.filter_append]
  rfl

theorem Given.values_append (g g' : Given κ) (key : κ) :
    (g.append g').values key = g.values key ++ g'.values key := by
  rw [values, append, List.filter_append, List.map_append]
  rfl

theorem Given.values_without (g : Given κ) {key other : κ} (h : other ≠ key) :
    (g.without key).values other = g.values other := by
  rw [values, values, without, List.filter_filter]
  refine congrArg (List.map _) (List.filter_congr fun o _ => ?_)
  by_cases ho : o.1 = other
  · simp [ho, h]
  · simp [ho]

theorem Given.has_without (g : Given κ) {key other : κ} (h : other ≠ key) :
    (g.without key).has other = g.has other := by
  rw [has, has, without, List.any_filter]
  refine List.any_congr rfl fun o => ?_
  by_cases ho : o.1 = other
  · simp [ho, h]
  · simp [ho]

/-- The other options are checked in the same order. -/
theorem Given.checkOrder_without (g : Given κ) (key : κ) (keys : List κ) :
    ((g.without key).checkOrder keys).filter (· != key) =
      (g.checkOrder keys).filter (· != key) := by
  have hfirst : (g.without key).options.map (·.1) =
      (g.options.map (·.1)).filter (· != key) := by
    rw [without, List.filter_map]
    rfl
  simp only [checkOrder, hfirst, eraseDups_filter, List.filter_append, List.filter_filter,
    Bool.and_self]
  refine congrArg _ (List.filter_congr fun k _ => ?_)
  by_cases hk : k = key
  · simp [hk]
  · have hne : (k != key) = true := bne_iff_ne.mpr hk
    simp [hne, List.mem_filter]

/-- The checks of an option that passes can be left out. -/
theorem forM_checkOrder_without {check : κ → Except ε Unit} {key : κ} (h : check key = .ok ())
    (g : Given κ) (keys : List κ) :
    ((g.without key).checkOrder keys).forM check = (g.checkOrder keys).forM check := by
  have hpasses : ∀ k, (k != key) = false → check k = .ok () := by
    intro k hk
    rw [bne_eq_false_iff_eq.mp hk]
    exact h
  rw [← forM_filter fun k _ => hpasses k, Given.checkOrder_without,
    forM_filter fun k _ => hpasses k]

end Without

/-- The checks of an option that stands first and passes can be left out. -/
theorem forM_checkOrder_cons [DecidableEq κ] {check : κ → Except ε Unit} {key : κ}
    {options : List (κ × String)} {keys : List κ} (hcheck : check key = .ok ()) (value : String)
    (positional positional' : List String) :
    ((Given.mk ((key, value) :: options) positional).checkOrder keys).forM check =
      ((Given.mk options positional').checkOrder keys).forM check := by
  have hoptions : (Given.mk ((key, value) :: options) positional).without key =
      (Given.mk options positional).without key := by
    rw [Given.without, Given.without, List.filter_cons_of_neg (by simp)]
  rw [← forM_checkOrder_without hcheck, hoptions, forM_checkOrder_without hcheck]
  rfl

end CommandLine
end FlowDecl
