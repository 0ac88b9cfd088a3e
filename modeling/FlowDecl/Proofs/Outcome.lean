import Mathlib.Data.List.Forall2
import Mathlib.Data.List.Perm.Basic

/-!
# Outcomes

A computation ends in a result or in a fault.  A computation that goes on with the result of
another one, and one that treats the items of a list in order, have a result exactly if each part
has one; otherwise they end in the fault of the first part that has none.
-/

namespace FlowDecl
namespace Outcome

variable {ε ε' α β γ : Type}

/-- A computation that has a result. -/
def Succeeds (x : Except ε α) : Prop :=
  ∃ a, x = .ok a

theorem succeeds_ok (a : α) : Succeeds (.ok a : Except ε α) :=
  ⟨a, rfl⟩

theorem not_succeeds_error (e : ε) : ¬Succeeds (.error e : Except ε α) := by
  rintro ⟨a, ha⟩
  cases ha

theorem error_ne_ok (e : ε) (a : α) : (.error e : Except ε α) ≠ .ok a := by
  intro h
  cases h

theorem not_succeeds_iff {x : Except ε α} :
    ¬Succeeds x ↔ ∃ e, x = .error e := by
  cases x with
  | error e => simp [not_succeeds_error]
  | ok a => simp [succeeds_ok]

/-! ## One computation after another -/

theorem bind_eq_ok_iff {x : Except ε α} {f : α → Except ε β} {b : β} :
    (x >>= f) = .ok b ↔ ∃ a, x = .ok a ∧ f a = .ok b := by
  cases x with
  | error e => simp [bind, Except.bind]
  | ok a => simp [bind, Except.bind]

theorem bind_eq_error_iff {x : Except ε α} {f : α → Except ε β} {e : ε} :
    (x >>= f) = .error e ↔
      x = .error e ∨ ∃ a, x = .ok a ∧ f a = .error e := by
  cases x with
  | error e => simp [bind, Except.bind]
  | ok a => simp [bind, Except.bind]

theorem map_eq_ok_iff {x : Except ε α} {f : α → β} {b : β} :
    f <$> x = .ok b ↔ ∃ a, x = .ok a ∧ f a = b := by
  cases x with
  | error e => simp [Functor.map, Except.map]
  | ok a => simp [Functor.map, Except.map]

theorem map_eq_error_iff {x : Except ε α} {f : α → β} {e : ε} :
    f <$> x = .error e ↔ x = .error e := by
  cases x with
  | error e => simp [Functor.map, Except.map]
  | ok a => simp [Functor.map, Except.map]

theorem mapError_eq_ok_iff {x : Except ε α} {f : ε → ε'} {a : α} :
    x.mapError f = .ok a ↔ x = .ok a := by
  cases x with
  | error e => simp [Except.mapError]
  | ok a => simp [Except.mapError]

theorem mapError_eq_error_iff {x : Except ε α} {f : ε → ε'} {e' : ε'} :
    x.mapError f = .error e' ↔ ∃ e, x = .error e ∧ f e = e' := by
  cases x with
  | error e => simp [Except.mapError]
  | ok a => simp [Except.mapError]

theorem succeeds_bind_iff {x : Except ε α} {f : α → Except ε β} :
    Succeeds (x >>= f) ↔ ∃ a, x = .ok a ∧ Succeeds (f a) := by
  cases x with
  | error e => simp [bind, Except.bind, not_succeeds_error]
  | ok a => simp [bind, Except.bind]

theorem succeeds_map_iff {x : Except ε α} {f : α → β} :
    Succeeds (f <$> x) ↔ Succeeds x := by
  cases x with
  | error e => exact iff_of_false (not_succeeds_error e) (not_succeeds_error e)
  | ok a => exact iff_of_true (succeeds_ok (f a)) (succeeds_ok a)

/-! ## One computation for each item -/

/-- A list of results holds the result for each item, in the order of the items. -/
theorem mapM_eq_ok_iff {f : α → Except ε β} {items : List α} {results : List β} :
    items.mapM f = .ok results ↔
      List.Forall₂ (fun a b => f a = .ok b) items results := by
  induction items generalizing results with
  | nil =>
      rw [List.mapM_nil, List.forall₂_nil_left_iff]
      exact ⟨fun h => (Except.ok.inj h).symm, fun h => h ▸ rfl⟩
  | cons a items ih =>
      rw [List.mapM_cons, bind_eq_ok_iff, List.forall₂_cons_left_iff]
      constructor
      · rintro ⟨b, hb, hrest⟩
        obtain ⟨rest, hitems, hresults⟩ := bind_eq_ok_iff.mp hrest
        exact ⟨b, rest, hb, ih.mp hitems, (Except.ok.inj hresults).symm⟩
      · rintro ⟨b, rest, hb, hitems, rfl⟩
        exact ⟨b, hb, bind_eq_ok_iff.mpr ⟨rest, ih.mpr hitems, rfl⟩⟩

/-- The results are exactly what the items give. -/
theorem mem_mapM_iff {f : α → Except ε β} {items : List α} {results : List β}
    (h : items.mapM f = .ok results) {b : β} :
    b ∈ results ↔ ∃ a ∈ items, f a = .ok b := by
  induction mapM_eq_ok_iff.mp h with
  | nil => simp
  | cons hhead htail ih =>
      have hrest := ih (mapM_eq_ok_iff.mpr htail)
      rw [List.mem_cons, hrest, List.exists_mem_cons_iff, hhead]
      exact or_congr_left ⟨fun h => h ▸ rfl, fun h => (Except.ok.inj h).symm⟩

theorem succeeds_mapM_iff {f : α → Except ε β} {items : List α} :
    Succeeds (items.mapM f) ↔ ∀ a ∈ items, Succeeds (f a) := by
  induction items with
  | nil => simp [Succeeds, pure, Except.pure]
  | cons a items ih =>
      rw [List.mapM_cons, succeeds_bind_iff, List.forall_mem_cons]
      constructor
      · rintro ⟨b, hb, hrest⟩
        obtain ⟨rest, hitems, -⟩ := succeeds_bind_iff.mp hrest
        exact ⟨⟨b, hb⟩, ih.mp ⟨rest, hitems⟩⟩
      · rintro ⟨⟨b, hb⟩, hitems⟩
        obtain ⟨rest, hrest⟩ := ih.mpr hitems
        exact ⟨b, hb, succeeds_bind_iff.mpr ⟨rest, hrest, succeeds_ok _⟩⟩

/-- A list of computations ends in the fault of the first one that has no result. -/
theorem mapM_eq_error_iff {f : α → Except ε β} {items : List α} {e : ε} :
    items.mapM f = .error e ↔
      ∃ before a after, items = before ++ a :: after ∧
        (∀ b ∈ before, Succeeds (f b)) ∧ f a = .error e := by
  induction items with
  | nil => simp [pure, Except.pure]
  | cons a items ih =>
      rw [List.mapM_cons, bind_eq_error_iff]
      constructor
      · rintro (ha | ⟨b, hb, hrest⟩)
        · exact ⟨[], a, items, rfl, by simp, ha⟩
        · rcases bind_eq_error_iff.mp hrest with hitems | ⟨rest, -, hpure⟩
          · obtain ⟨before, c, after, rfl, hbefore, hc⟩ := ih.mp hitems
            refine ⟨a :: before, c, after, rfl, ?_, hc⟩
            exact List.forall_mem_cons.mpr ⟨⟨b, hb⟩, hbefore⟩
          · cases hpure
      · rintro ⟨before, c, after, hitems, hbefore, hc⟩
        cases before with
        | nil =>
            obtain ⟨rfl, rfl⟩ := List.cons.inj hitems
            exact Or.inl hc
        | cons first before =>
            obtain ⟨rfl, rfl⟩ := List.cons.inj hitems
            obtain ⟨⟨b, hb⟩, hbefore⟩ := List.forall_mem_cons.mp hbefore
            refine Or.inr ⟨b, hb, bind_eq_error_iff.mpr (Or.inl ?_)⟩
            exact ih.mpr ⟨before, c, after, rfl, hbefore, hc⟩

/-- Some item has one property, and no item before it has the other. -/
def MeetsBefore (p q : α → Prop) (items : List α) : Prop :=
  ∃ before a after, items = before ++ a :: after ∧ (∀ b ∈ before, ¬q b) ∧ p a

theorem meetsBefore_congr {p q p' q' : α → Prop} {items : List α}
    (hp : ∀ a ∈ items, (p a ↔ p' a)) (hq : ∀ a ∈ items, (q a ↔ q' a)) :
    MeetsBefore p q items ↔ MeetsBefore p' q' items := by
  have hbefore {before after : List α} {a : α} (hsplit : items = before ++ a :: after) :
      (∀ b ∈ before, ¬q b) ↔ ∀ b ∈ before, ¬q' b := by
    refine forall₂_congr fun b hb => not_congr (hq b ?_)
    simp [hsplit, hb]
  constructor
  · rintro ⟨before, a, after, hsplit, hnone, ha⟩
    exact ⟨before, a, after, hsplit, (hbefore hsplit).mp hnone, (hp a (by simp [hsplit])).mp ha⟩
  · rintro ⟨before, a, after, hsplit, hnone, ha⟩
    exact ⟨before, a, after, hsplit, (hbefore hsplit).mpr hnone, (hp a (by simp [hsplit])).mpr ha⟩

/-- A list of computations ends in a fault of a sort exactly if one of them does and none before it
ends in a fault of another sort. -/
theorem exists_mapM_eq_error_iff {f : α → Except ε β} {items : List α} (sort : ε → Prop) :
    (∃ e, items.mapM f = .error e ∧ sort e) ↔
      MeetsBefore (fun a => ∃ e, f a = .error e ∧ sort e)
        (fun a => ∃ e, f a = .error e ∧ ¬sort e) items := by
  constructor
  · rintro ⟨e, h, hsort⟩
    obtain ⟨before, a, after, hsplit, hbefore, ha⟩ := mapM_eq_error_iff.mp h
    refine ⟨before, a, after, hsplit, ?_, e, ha, hsort⟩
    rintro b hb ⟨e', he', -⟩
    exact not_succeeds_error e' (he' ▸ hbefore b hb)
  · rintro ⟨before, a, after, rfl, hbefore, e, ha, hsort⟩
    induction before with
    | nil =>
        refine ⟨e, ?_, hsort⟩
        rw [List.nil_append, List.mapM_cons, bind_eq_error_iff]
        exact Or.inl ha
    | cons b before ih =>
        obtain ⟨hb, hbefore⟩ := List.forall_mem_cons.mp hbefore
        rw [List.cons_append, List.mapM_cons]
        -- A fault of `b` is of the sort itself; otherwise the fault of the items after it counts.
        cases hfirst : f b with
        | error e' => exact ⟨e', rfl, not_not.mp fun hother => hb ⟨e', hfirst, hother⟩⟩
        | ok c =>
            obtain ⟨e', hrest, hsort'⟩ := ih hbefore
            exact ⟨e', bind_eq_error_iff.mpr (Or.inr ⟨c, rfl, bind_eq_error_iff.mpr (Or.inl hrest)⟩),
              hsort'⟩

/-- A list of computations ends in a fault if one of them does and none before it ends in another
fault. -/
theorem mapM_eq_error_of_before {f : α → Except ε β} {before after : List α} {a : α} {e : ε}
    (hbefore : ∀ b ∈ before, ∀ e', f b = .error e' → e' = e)
    (ha : f a = .error e) :
    (before ++ a :: after).mapM f = .error e := by
  obtain ⟨e', h, rfl⟩ := (exists_mapM_eq_error_iff (· = e)).mpr
    ⟨before, a, after, rfl, fun b hb ⟨e', he', hne⟩ => hne (hbefore b hb e' he'), e, ha, rfl⟩
  exact h

/-- Computations that can only end in one fault have the same outcome in every order, but for the
order of their results. -/
theorem mapM_of_perm {f : α → Except ε β} {items items' : List α} {e : ε}
    (hfault : ∀ a ∈ items, ∀ e', f a = .error e' → e' = e) (hperm : items.Perm items') :
    (items.mapM f = .error e ∧ items'.mapM f = .error e) ∨
      ∃ results results', items.mapM f = .ok results ∧ items'.mapM f = .ok results' ∧
        results.Perm results' := by
  cases h : items.mapM f with
  | error e' =>
      obtain ⟨before, a, after, rfl, -, ha⟩ := mapM_eq_error_iff.mp h
      have hmem : a ∈ before ++ a :: after := by simp
      obtain rfl := hfault a hmem e' ha
      obtain ⟨before', after', rfl⟩ := List.append_of_mem (hperm.subset hmem)
      refine Or.inl ⟨rfl, mapM_eq_error_of_before ?_ ha⟩
      intro b hb
      exact hfault b (hperm.symm.subset (by simp [hb]))
  | ok results =>
      obtain ⟨results', hresults', hsame⟩ :=
        List.perm_comp_forall₂ hperm.symm (mapM_eq_ok_iff.mp h)
      exact Or.inr ⟨results, results', rfl, mapM_eq_ok_iff.mpr hresults', hsame.symm⟩

/-- Two lists whose items correspond, each with the same outcome as its partner. -/
theorem mapM_eq_of_forall₂ {f : α → Except ε γ} {g : β → Except ε γ} {as : List α} {bs : List β}
    (h : List.Forall₂ (fun a b => f a = g b) as bs) : as.mapM f = bs.mapM g := by
  induction h with
  | nil => rfl
  | cons hhead htail ih => rw [List.mapM_cons, List.mapM_cons, hhead, ih]

/-- What is done with every result can be done with the list of results. -/
theorem mapM_map_result (f : α → Except ε β) (g : β → γ) (items : List α) :
    items.mapM (fun a => g <$> f a) = List.map g <$> items.mapM f := by
  induction items with
  | nil => rfl
  | cons a items ih =>
      rw [List.mapM_cons, List.mapM_cons, ih]
      cases f a with
      | error e => rfl
      | ok b => cases items.mapM f <;> rfl

/-- Results that are left out belong to the items that give none.  The other results correspond to
the other items, in order. -/
theorem forall₂_filter_of_mapM {f : α → Except ε (Option β)} {keeps : α → Bool}
    {items : List α} {results : List (Option β)}
    (hkeeps : ∀ a ∈ items, ∀ result, f a = .ok result → result.isSome = keeps a)
    (h : items.mapM f = .ok results) :
    List.Forall₂ (fun a b => f a = .ok (some b)) (items.filter keeps)
      (results.filterMap id) := by
  induction mapM_eq_ok_iff.mp h with
  | nil => exact .nil
  | @cons a result items results hhead htail ih =>
      obtain ⟨hfirst, hrest⟩ := List.forall_mem_cons.mp hkeeps
      have hkept := ih hrest (mapM_eq_ok_iff.mpr htail)
      cases result with
      | none =>
          have hskip : ¬keeps a = true := by
            simp [← hfirst _ hhead]
          rw [List.filter_cons_of_neg hskip]
          exact hkept
      | some b =>
          rw [List.filter_cons_of_pos (hfirst _ hhead).symm]
          exact .cons hhead hkept

theorem filterMap_cons_result (result : Option β) (x : Except ε (List (Option β))) :
    List.filterMap id <$> (do return result :: (← x)) =
      (result.toList ++ ·) <$> (List.filterMap id <$> x) := by
  cases x with
  | error e => rfl
  | ok rest => cases result <;> rfl

/-- Items that give nothing can be taken out, if each other item is replaced by one that gives the
same. -/
theorem filterMap_mapM_eq {f : α → Except ε (Option β)} {g : γ → Except ε (Option β)}
    {keeps : α → Bool} {h : α → γ} {items : List α}
    (hf : ∀ a ∈ items, f a = if keeps a then g (h a) else .ok none) :
    List.filterMap id <$> items.mapM f =
      List.filterMap id <$> ((items.filter keeps).map h).mapM g := by
  induction items with
  | nil => rfl
  | cons a items ih =>
      obtain ⟨ha, hrest⟩ := List.forall_mem_cons.mp hf
      have hitems := ih hrest
      rw [List.mapM_cons, ha]
      by_cases hkeep : keeps a = true
      · rw [if_pos hkeep, List.filter_cons_of_pos hkeep, List.map_cons, List.mapM_cons]
        cases g (h a) with
        | error e => rfl
        | ok result =>
            change List.filterMap id <$> (do return result :: (← items.mapM f)) =
              List.filterMap id <$> (do return result :: (← ((items.filter keeps).map h).mapM g))
            rw [filterMap_cons_result, filterMap_cons_result, hitems]
      · rw [if_neg hkeep, List.filter_cons_of_neg hkeep, ← hitems]
        change List.filterMap id <$> (do return none :: (← items.mapM f)) = _
        rw [filterMap_cons_result]
        cases items.mapM f <;> rfl

/-! ## Computations that always have a result -/

theorem mapM_eq_ok_map {f : α → Except ε β} {g : α → β} {items : List α}
    (h : ∀ a ∈ items, f a = .ok (g a)) :
    items.mapM f = .ok (items.map g) := by
  rw [mapM_eq_ok_iff, List.forall₂_map_right_iff, List.forall₂_same]
  exact h

theorem filterAuxM_eq_ok {f : α → Except ε Bool} {g : α → Bool} {items : List α}
    (h : ∀ a ∈ items, f a = .ok (g a)) (kept : List α) :
    items.filterAuxM f kept = .ok ((items.filter g).reverse ++ kept) := by
  induction items generalizing kept with
  | nil => rfl
  | cons a items ih =>
      obtain ⟨ha, hrest⟩ := List.forall_mem_cons.mp h
      rw [List.filterAuxM, ha]
      change items.filterAuxM f (bif g a then a :: kept else kept) = _
      rw [ih hrest]
      cases hkeep : g a with
      | true => simp [List.filter_cons_of_pos hkeep]
      | false => simp [hkeep]

theorem filterM_eq_ok_filter {f : α → Except ε Bool} {g : α → Bool} {items : List α}
    (h : ∀ a ∈ items, f a = .ok (g a)) :
    items.filterM f = .ok (items.filter g) := by
  rw [List.filterM, filterAuxM_eq_ok h]
  simp [bind, Except.bind, pure, Except.pure]

/-! ## Computations that change a state -/

theorem run_bind {σ : Type} (x : ExceptT ε (StateM σ) α) (f : α → ExceptT ε (StateM σ) β) (s : σ) :
    (x >>= f).run.run s =
      match x.run.run s with
      | (.ok a, s') => (f a).run.run s'
      | (.error e, s') => (.error e, s') := by
  change (match x.run.run s with
    | (result, s') => (ExceptT.bindCont f result).run s') = _
  rcases x.run.run s with ⟨result, s'⟩
  cases result <;> rfl

/-- A computation has a result exactly if it has one in the state that the first part leaves. -/
theorem run_bind_eq_ok_iff {σ : Type} {x : ExceptT ε (StateM σ) α}
    {f : α → ExceptT ε (StateM σ) β} {s s'' : σ} {b : β} :
    (x >>= f).run.run s = (.ok b, s'') ↔
      ∃ a s', x.run.run s = (.ok a, s') ∧ (f a).run.run s' = (.ok b, s'') := by
  rw [run_bind]
  rcases x.run.run s with ⟨result, t⟩
  cases result with
  | error e =>
      refine iff_of_false ?_ ?_
      · intro h
        cases h
      · rintro ⟨a, s', h, -⟩
        cases h
  | ok a =>
      constructor
      · intro h
        exact ⟨a, t, rfl, h⟩
      · rintro ⟨a', s', h, hf⟩
        cases h
        exact hf

/-- Where a part stops, its stop is taken up in the state that it left. -/
theorem run_tryCatch {σ : Type} (x : ExceptT ε (StateM σ) α) (f : ε → ExceptT ε (StateM σ) α)
    (s : σ) :
    (tryCatch x f).run.run s =
      match x.run.run s with
      | (.ok a, s') => (.ok a, s')
      | (.error e, s') => (f e).run.run s' := by
  have hcatch : (ExceptT.tryCatch x f).run.run s =
      match x.run.run s with
      | (result, s') => StateT.run (match (motive := _ → StateM σ (Except ε α)) result with
        | .ok a => pure (.ok a)
        | .error e => (f e).run) s' := rfl
  change (ExceptT.tryCatch x f).run.run s = _
  rw [hcatch]
  rcases x.run.run s with ⟨result, s'⟩
  cases result <;> rfl

end Outcome
end FlowDecl
