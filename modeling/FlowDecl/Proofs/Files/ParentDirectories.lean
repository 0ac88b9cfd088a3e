import FlowDecl.Files.Parents
import FlowDecl.Proofs.Files.SoundTrees

/-!
# Files below missing directories

Before a file is written the directories above it are made.  Both ways to make them add missing
directories on the way to the file and nothing else, and unless a part of the path is too long they
do not stop half way: a directory can be made wherever the one above it is there, so what stops them
is something that stands on the way, and then nothing was missing above it.

So writing a file either succeeds, and then the file is there, or it leaves the tree as it is.
-/

namespace FlowDecl
namespace Files

namespace Tree

/-! ## Grown trees -/

/-- A tree in which some of the directories are made that were missing on the way to names. -/
inductive Grown (names : List String) (t : Tree) : Tree → Prop where
  | refl : Grown names t t
  | step {t' : Tree} {before : List String} (h : Grown names t t') (hbefore : before <+: names)
      (habove : t'.node? before.dropLast = some .directory) (hnone : t'.node? before = none) :
      Grown names t (t'.put before .directory)

/-- A tree with the same nodes at all places but one, and at most some directories more that were
missing above this place. -/
def SameBeside (target : List String) (t t' : Tree) : Prop :=
  ∀ place, place ≠ target → t'.node? place = t.node? place ∨
    (place <+: target ∧ t.node? place = none ∧ t'.node? place = some .directory)

namespace Grown

variable {t t' t'' : Tree} {names : List String}

theorem mono {before : List String} (h : Grown before t t') (hbefore : before <+: names) :
    Grown names t t' := by
  induction h with
  | refl => exact .refl
  | step _ hstart habove hnone ih => exact .step ih (hstart.trans hbefore) habove hnone

theorem isSound (h : Grown names t t') (hs : t.IsSound) : t'.IsSound := by
  induction h with
  | refl => exact hs
  | step _ _ habove hnone ih => exact ih.put_directory habove hnone

/-- Where everything is there already, nothing is made. -/
theorem eq_of_node? (h : Grown names t t') (hs : t.IsSound) (hnames : AreNames names)
    (hthere : t.node? names ≠ none) : t' = t := by
  induction h with
  | refl => rfl
  | step _ hstart _ hnone ih =>
      rw [ih] at hnone
      exact absurd hnone (hs.node?_of_isPrefix hnames hthere hstart)

/-- What is not on the way is not made. -/
theorem node?_of_not_isPrefix (h : Grown names t t') {others : List String}
    (hnot : ¬others <+: names) : t'.node? others = t.node? others := by
  induction h with
  | refl => rfl
  | step _ hstart _ _ ih =>
      have hne : others ≠ _ := fun heq => hnot (heq ▸ hstart)
      exact (node?_put_of_ne hne _).trans ih

/-- The nodes of a grown tree. -/
theorem node?_cases (h : Grown names t t') (place : List String) :
    t'.node? place = t.node? place ∨
      (place <+: names ∧ t.node? place = none ∧ t'.node? place = some .directory) := by
  induction h with
  | refl => exact Or.inl rfl
  | @step t' before h hstart habove hnone ih =>
      by_cases hplace : place = before
      · subst hplace
        refine Or.inr ⟨hstart, ?_, node?_put_of_none hnone _⟩
        rw [hnone] at ih
        rcases ih with ih | ⟨-, -, ih⟩
        · exact ih.symm
        · cases ih
      · rw [node?_put_of_ne hplace]
        exact ih

end Grown

/-- A tree that has grown on the way to the directory of a file is the same beside the file. -/
theorem Grown.sameBeside {t t' : Tree} {dir : List String} (h : t.Grown dir t') (name : String) :
    t.SameBeside (dir ++ [name]) t' := fun place _ =>
  (h.mono (List.prefix_append _ _)).node?_cases place

end Tree

open Files.Tree

/-! ## Making directories -/

/-- What comes of making the directory of names.  If it cannot be made, nothing was made above it
either, unless the path is too long. -/
structure MakesFrom (names : List String) (t : Tree) (outcome : Except Fault Unit × Tree) :
    Prop where
  grown : t.Grown names outcome.2
  made : outcome.1 = .ok () → outcome.2.node? names = some .directory
  unmade : outcome.1 ≠ .ok () → ¬IsOverlong (pathText names) → outcome.2 = t

theorem MakesFrom.of_fault {names : List String} {t t' : Tree} (hgrown : t.Grown names t')
    (hunmade : ¬IsOverlong (pathText names) → t' = t) (fault : Fault) :
    MakesFrom names t (.error fault, t') :=
  ⟨hgrown, fun h => absurd h (Outcome.error_ne_ok _ _), fun _ => hunmade⟩

theorem run_ensureDirectory (path : String) (t : Tree) :
    (ensureDirectory path).run.run t =
      match t.makeDirectory path with
      | .ok t' => (.ok (), t')
      | .error cause =>
        if t.isDirectory path then (.ok (), t) else (.error ⟨cause, path⟩, t) := by
  change (match t.makeDirectory path with
    | .ok t' => set t'
    | .error cause => do
      if (← get).isDirectory path then return else throw ⟨cause, path⟩ :
      Writing Unit).run.run t = _
  cases t.makeDirectory path with
  | ok t' => rfl
  | error cause =>
      change (if t.isDirectory path then pure () else throw ⟨cause, path⟩ :
        Writing Unit).run.run t = _
      split <;> rfl

theorem not_isOverlong_of_isPrefix {before names : List String} (hnames : AreNames names)
    (hbefore : before <+: names) (h : ¬IsOverlong (pathText names)) :
    ¬IsOverlong (pathText before) := by
  rintro (hlong | ⟨part, hpart, hlong⟩)
  · obtain ⟨more, rfl⟩ := hbefore
    exact h (Or.inl (Nat.lt_of_lt_of_le hlong utf8ByteSize_pathText_le))
  · rw [parts_pathText (hnames.of_isPrefix hbefore)] at hpart
    refine h (Or.inr ⟨part, ?_, hlong⟩)
    rw [parts_pathText hnames]
    exact hbefore.subset hpart

theorem not_concat_isPrefix (before : List String) (name : String) :
    ¬before ++ [name] <+: before := by
  intro hle
  have hlength := hle.length_le
  rw [List.length_append, List.length_singleton] at hlength
  omega

/-- A directory is made in a tree that has grown on the way to it. -/
theorem makesFrom_ensureDirectory {t t' : Tree} {names : List String} (hgrown : t.Grown names t')
    (hnames : AreNames names)
    (hunmade : ∀ cause, t'.makeDirectory (pathText names) = .error cause →
      ¬IsOverlong (pathText names) → t' = t) :
    MakesFrom names t ((ensureDirectory (pathText names)).run.run t') := by
  rw [run_ensureDirectory]
  split
  next t'' hmake =>
    obtain ⟨habove, hnone, rfl⟩ := eq_put_of_makeDirectory hnames hmake
    exact ⟨.step hgrown List.prefix_rfl habove hnone, fun _ => node?_put_of_none hnone _,
      fun h => absurd rfl h⟩
  next cause hmake =>
    split
    next hdirectory =>
      exact ⟨hgrown, fun _ => node?_of_isDirectory hnames hdirectory, fun h => absurd rfl h⟩
    next => exact .of_fault hgrown (hunmade cause hmake) _

/-- The directory of a name is made in one that was made before, also if its fault is dropped. -/
theorem MakesFrom.concat {t : Tree} (hs : t.IsSound) {before : List String} {name : String}
    {w : Writing Unit}
    {outcome : Except Fault Unit × Tree} (h : MakesFrom before t outcome)
    (hw : w.run.run t = outcome ∨ outcome.1 ≠ .ok () ∧ w.run.run t = (.ok (), outcome.2))
    (hnames : AreNames (before ++ [name]))
    (hnew : ¬IsOverlong (pathText (before ++ [name])) → t.node? (before ++ [name]) = none) :
    MakesFrom (before ++ [name]) t
      ((w >>= fun _ => ensureDirectory (pathText (before ++ [name]))).run.run t) := by
  have hstart : before <+: before ++ [name] := List.prefix_append _ _
  have hgrown := h.grown.mono hstart
  have hs' := hgrown.isSound hs
  obtain ⟨result, t'⟩ := outcome
  -- The second directory is made in the tree that the first part has reached.
  have hensure : MakesFrom (before ++ [name]) t
      ((ensureDirectory (pathText (before ++ [name]))).run.run t') := by
    refine makesFrom_ensureDirectory hgrown hnames fun cause hmake hfits => ?_
    by_cases hok : result = .ok ()
    · -- The directory above is there and nothing stands in the way.
      have habove : t'.node? (before ++ [name]).dropLast = some .directory := by
        rw [List.dropLast_concat]
        exact h.made hok
      have hnone : t'.node? (before ++ [name]) = none :=
        (h.grown.node?_of_not_isPrefix (not_concat_isPrefix before name)).trans (hnew hfits)
      cases (makeDirectory_pathText hnames hs' hfits habove hnone).symm.trans hmake
    · exact h.unmade hok (not_isOverlong_of_isPrefix hnames hstart hfits)
  rw [Outcome.run_bind]
  rcases hw with hw | ⟨-, hw⟩
  · rw [hw]
    cases result with
    | ok _ => exact hensure
    | error fault =>
        refine .of_fault hgrown (fun hfits => ?_) _
        exact h.unmade (Outcome.error_ne_ok _ _) (not_isOverlong_of_isPrefix hnames hstart hfits)
  · rw [hw]
    exact hensure

theorem splitLast_concat {before : List String} {name : String}
    (hnames : AreNames (before ++ [name])) :
    splitLast (pathText (before ++ [name])) = (pathText before, name) := by
  have hname := hnames name (by simp)
  have hfull : name ≠ "" := fun h => hname.ne_empty (h ▸ rfl)
  rw [splitLast, baseName_concat before hname, if_neg hfull,
    dirName_concat (hnames.of_isPrefix (List.prefix_append _ _)) hname]

/-- What is done about a directory that something stands in the place of: nothing. -/
def dropExists (fault : Fault) : Writing Unit :=
  if fault.cause = .exists then return else throw fault

theorem run_makeParentsFirst (fuel : Nat) {before : List String} {name : String}
    (hnames : AreNames (before ++ [name])) (t : Tree) :
    (makeParentsFirst (fuel + 1) (pathText (before ++ [name]))).run.run t =
      if t.hasPath (pathText before) then
        (ensureDirectory (pathText (before ++ [name]))).run.run t
      else
        (tryCatch (makeParentsFirst fuel (pathText before)) dropExists >>=
          fun _ => ensureDirectory (pathText (before ++ [name]))).run.run t := by
  have hname := hnames name (by simp)
  have hhead : (pathText before != "") = true := bne_iff_ne.mpr (pathText_ne_empty before)
  have htail : (name != "") = true := bne_iff_ne.mpr fun h => hname.ne_empty (h ▸ rfl)
  rw [makeParentsFirst, splitLast_concat hnames]
  change (if (pathText before != "" && name != "" && !t.hasPath (pathText before)) = true then
      tryCatch (makeParentsFirst fuel (pathText before)) dropExists >>= fun _ =>
        if name = "." then return else ensureDirectory (pathText (before ++ [name]))
    else ensureDirectory (pathText (before ++ [name])) : Writing Unit).run.run t = _
  rw [hhead, htail, if_neg hname.ne_dot]
  cases t.hasPath (pathText before) with
  | true => rfl
  | false => rfl

/-- Parents first makes the directory of names. -/
theorem makesFrom_makeParentsFirst {fuel : Nat} {names : List String} (hnames : AreNames names)
    (hfuel : names.length ≤ fuel) {t : Tree} (hs : t.IsSound) :
    MakesFrom names t ((makeParentsFirst fuel (pathText names)).run.run t) := by
  induction fuel generalizing names with
  | zero => exact makesFrom_ensureDirectory .refl hnames fun _ _ _ => rfl
  | succ fuel ih =>
      rcases List.eq_nil_or_concat' names with rfl | ⟨before, name, rfl⟩
      · exact makesFrom_ensureDirectory .refl hnames fun _ _ _ => rfl
      · have hbefore : AreNames before := hnames.of_isPrefix (List.prefix_append _ _)
        have hlength : before.length ≤ fuel := by
          rw [List.length_append, List.length_singleton] at hfuel
          omega
        rw [run_makeParentsFirst fuel hnames]
        split
        next => exact makesFrom_ensureDirectory .refl hnames fun _ _ _ => rfl
        next hmissing =>
          have hparents := ih hbefore hlength
          refine MakesFrom.concat hs hparents ?_ hnames ?_
          · rw [Outcome.run_tryCatch]
            rcases hrun : (makeParentsFirst fuel (pathText before)).run.run t with ⟨result, t'⟩
            cases result with
            | ok _ => exact Or.inl rfl
            | error fault =>
                by_cases hexists : fault.cause = .exists
                · refine Or.inr ⟨Outcome.error_ne_ok _ _, ?_⟩
                  simp only [dropExists, if_pos hexists]
                  rfl
                · refine Or.inl ?_
                  simp only [dropExists, if_neg hexists]
                  rfl
          · intro hfits
            by_contra hthere
            have habove := hs.node?_of_isPrefix hnames hthere (List.prefix_append _ _)
            have hfits' := not_isOverlong_of_isPrefix hnames (List.prefix_append _ _) hfits
            exact hmissing (hasPath_pathText hbefore hs hfits' habove)

/-! ## The directory of a place -/

theorem run_makePlace (fuel : Nat) (place : List String) (t : Tree) :
    (makePlace (fuel + 1) place).run.run t =
      match t.makeDirectory (fullPath place) with
      | .ok t' => (.ok (), t')
      | .error .missing =>
        if place.isEmpty then (.error ⟨.missing, fullPath place⟩, t)
        else
          (makePlace fuel place.dropLast >>= fun _ => ensureDirectory (fullPath place)).run.run t
      | .error cause =>
        if t.isDirectory (fullPath place) then (.ok (), t)
        else (.error ⟨cause, fullPath place⟩, t) := by
  rw [makePlace]
  change (match t.makeDirectory (fullPath place) with
    | .ok t' => set t'
    | .error .missing =>
      if place.isEmpty then throw ⟨.missing, fullPath place⟩
      else makePlace fuel place.dropLast >>= fun _ => ensureDirectory (fullPath place)
    | .error cause => do
      if (← get).isDirectory (fullPath place) then return
      else throw ⟨cause, fullPath place⟩ : Writing Unit).run.run t = _
  split
  next => rfl
  next =>
    cases place.isEmpty with
    | true => rfl
    | false => rfl
  next cause _ _ =>
    change (if t.isDirectory (fullPath place) then pure ()
      else throw ⟨cause, fullPath place⟩ : Writing Unit).run.run t = _
    split <;> rfl

theorem run_makePlace_of_missing {place : List String} {t : Tree}
    (h : t.makeDirectory (fullPath place) = .error .missing) (hne : place ≠ []) (fuel : Nat) :
    (makePlace (fuel + 1) place).run.run t =
      (makePlace fuel place.dropLast >>= fun _ => ensureDirectory (fullPath place)).run.run t := by
  have hfull : ¬place.isEmpty = true := fun hempty => hne (List.isEmpty_iff.mp hempty)
  rw [run_makePlace, h]
  simp only [if_neg hfull]

theorem run_makePlace_of_not_missing {place : List String} {t : Tree}
    (h : t.makeDirectory (fullPath place) ≠ .error .missing) (fuel : Nat) :
    (makePlace fuel place).run.run t = (ensureDirectory (fullPath place)).run.run t := by
  cases fuel with
  | zero => rfl
  | succ fuel =>
      rw [run_makePlace, run_ensureDirectory]
      cases hmake : t.makeDirectory (fullPath place) with
      | ok t' => rfl
      | error cause =>
          rw [hmake] at h
          cases cause <;> first | rfl | exact absurd rfl h

/-- Trying the innermost directory first makes the directory of names, too. -/
theorem makesFrom_makePlace {fuel : Nat} {names : List String} (hnames : AreNames names)
    (hfuel : names.length ≤ fuel) {t : Tree} (hs : t.IsSound) :
    MakesFrom names t ((makePlace fuel names).run.run t) := by
  have hensure {names : List String} (hnames : AreNames names) :
      MakesFrom names t ((ensureDirectory (fullPath names)).run.run t) := by
    rw [fullPath_eq_pathText]
    exact makesFrom_ensureDirectory .refl hnames fun _ _ _ => rfl
  induction fuel generalizing names with
  | zero => exact hensure hnames
  | succ fuel ih =>
      by_cases hmissing : t.makeDirectory (fullPath names) = .error .missing
      · rcases List.eq_nil_or_concat' names with rfl | ⟨before, name, rfl⟩
        · rw [run_makePlace, hmissing]
          exact .of_fault .refl (fun _ => rfl) _
        · have hlength : before.length ≤ fuel := by
            rw [List.length_append, List.length_singleton] at hfuel
            omega
          rw [run_makePlace_of_missing hmissing (by simp), List.dropLast_concat]
          rw [fullPath_eq_pathText] at hmissing ⊢
          have hparent := ih (hnames.of_isPrefix (List.prefix_append _ _)) hlength
          refine MakesFrom.concat hs hparent (Or.inl rfl) hnames fun hfits => ?_
          exact node?_of_missing hnames hs hfits hmissing
      · rw [run_makePlace_of_not_missing hmissing]
        exact hensure hnames

/-! ## Written files -/

/-- What comes of writing a file and making the directories above it.  The file holds what was
written, and only directories above it are new; or the tree is as it was before, and if the path is
too long, at least the directories that were there and all files are. -/
structure IsDelivery (path : String) (octets : List UInt8) (t : Tree)
    (outcome : Except Fault Unit × Tree) : Prop where
  written : outcome.1 = .ok () →
    outcome.2.read path = .ok octets ∧ t.SameBeside (t.resolve path) outcome.2
  unwritten : outcome.1 ≠ .ok () → outcome.2 = t ∨
    IsOverlong path ∧ t.SameBeside (t.resolve path) outcome.2 ∧
      outcome.2.node? (t.resolve path) = t.node? (t.resolve path)

theorem IsDelivery.of_fault {path : String} {octets : List UInt8} {t t' : Tree}
    (hunwritten : t' = t ∨
      IsOverlong path ∧ t.SameBeside (t.resolve path) t' ∧
        t'.node? (t.resolve path) = t.node? (t.resolve path)) (fault : Fault) :
    IsDelivery path octets t (.error fault, t') :=
  ⟨fun h => absurd h (Outcome.error_ne_ok _ _), fun _ => hunwritten⟩

theorem run_save (path : String) (octets : List UInt8) (t : Tree) :
    (save path octets).run.run t =
      match t.write path octets with
      | .ok t' => (.ok (), t')
      | .error cause => (.error ⟨cause, path⟩, t) := by
  change (match t.write path octets with
    | .ok t' => set t'
    | .error cause => throw ⟨cause, path⟩ : Writing Unit).run.run t = _
  cases t.write path octets <;> rfl

section Save

variable {t : Tree} (hs : t.IsSound) {dir : List String} {w : Writing Unit}
  (hw : MakesFrom dir t (w.run.run t)) (octets : List UInt8)

include hs hw

/-- A file is written in the directory that was made for it. -/
theorem isDelivery_concat {name : String} (hnames : AreNames (dir ++ [name])) :
    IsDelivery (pathText (dir ++ [name])) octets t
      ((w >>= fun _ => save (pathText (dir ++ [name])) octets).run.run t) := by
  have hstart : dir <+: dir ++ [name] := List.prefix_append _ _
  have hdir : AreNames dir := hnames.of_isPrefix hstart
  have hne : dir ++ [name] ≠ [] := by simp
  have hbeside := hw.grown.sameBeside name
  have hs' := hw.grown.isSound hs
  have hkept : (w.run.run t).2.node? (dir ++ [name]) = t.node? (dir ++ [name]) :=
    hw.grown.node?_of_not_isPrefix (not_concat_isPrefix dir name)
  rw [Outcome.run_bind]
  rcases hrun : w.run.run t with ⟨result, t'⟩
  rw [hrun] at hw hbeside hs' hkept
  have hunwritten (hfits : ¬IsOverlong (pathText (dir ++ [name])) → t' = t) (fault : Fault) :
      IsDelivery (pathText (dir ++ [name])) octets t (.error fault, t') := by
    refine .of_fault ?_ fault
    by_cases hlong : IsOverlong (pathText (dir ++ [name]))
    · rw [resolve_pathText hnames]
      exact Or.inr ⟨hlong, hbeside, hkept⟩
    · exact Or.inl (hfits hlong)
  cases result with
  | error fault =>
      refine hunwritten (fun hfits => ?_) fault
      exact hw.unmade (Outcome.error_ne_ok _ _) (not_isOverlong_of_isPrefix hnames hstart hfits)
  | ok _ =>
      simp only [run_save]
      split
      next t'' hwrite =>
        have hread := (read_of_write hwrite rfl (wantsDirectory_pathText hnames hne)).2
        rw [eq_put_of_write hnames hwrite] at hread ⊢
        refine ⟨fun _ => ⟨hread, ?_⟩, fun h => absurd rfl h⟩
        rw [resolve_pathText hnames]
        intro place hplace
        rw [node?_put_of_ne hplace]
        exact hbeside place hplace
      next cause hwrite =>
        -- Only a directory in the place of the file is left as a cause, and it was there before.
        refine hunwritten (fun hfits => ?_) _
        have hmade : t'.node? (dir ++ [name]).dropLast = some .directory := by
          rw [List.dropLast_concat]
          exact hw.made rfl
        have hdirectory := node?_of_write hnames hs' hfits hne hmade hwrite
        rw [hkept] at hdirectory
        refine hw.grown.eq_of_node? hs hdir (hs.node?_of_isPrefix hnames ?_ hstart)
        rw [hdirectory]
        exact Option.some_ne_none _

end Save

/-- No file is written to the top, and there is nothing to make above it. -/
theorem isDelivery_top {t : Tree} (hs : t.IsSound) {w : Writing Unit}
    (hw : MakesFrom [] t (w.run.run t)) (octets : List UInt8) :
    IsDelivery (pathText []) octets t
      ((w >>= fun _ => save (pathText []) octets).run.run t) := by
  have hsame : (w.run.run t).2 = t :=
    hw.grown.eq_of_node? hs .nil (Option.some_ne_none _)
  rw [Outcome.run_bind]
  rcases hrun : w.run.run t with ⟨result, t'⟩
  rw [hrun] at hsame
  simp only at hsame
  subst hsame
  cases result with
  | error fault => exact .of_fault (Or.inl rfl) fault
  | ok _ => exact .of_fault (Or.inl rfl) _

/-! ## The two ways to write a file -/

variable {t : Tree} {path : String}

/-- A file whose parents are made first. -/
theorem isDelivery_makeParentOf (hs : t.IsSound) (hnull : hasNull path = false)
    (octets : List UInt8) :
    IsDelivery (t.absolute path) octets t
      ((makeParentOf (t.absolute path) >>= fun _ => save (t.absolute path) octets).run.run t) := by
  have hnames := areNames_resolve hs hnull
  have hparent (dir : List String) (h : dirName (pathText (t.resolve path)) = pathText dir) :
      makeParentOf (pathText (t.resolve path)) =
        makeParentsFirst (pathText dir).length (pathText dir) := by
    have hfull : (pathText dir != "") = true := bne_iff_ne.mpr (pathText_ne_empty dir)
    rw [makeParentOf, h, hfull]
    rfl
  rw [absolute_eq]
  rcases List.eq_nil_or_concat' (t.resolve path) with hnil | ⟨dir, name, hsplit⟩
  · rw [hnil] at hparent ⊢
    rw [hparent [] rfl]
    exact isDelivery_top hs
      (makesFrom_makeParentsFirst .nil (length_le_length_pathText []) hs) octets
  · rw [hsplit] at hparent hnames ⊢
    have hdir : AreNames dir := hnames.of_isPrefix (List.prefix_append _ _)
    have hname : IsName name := hnames name (by simp)
    rw [hparent dir (dirName_concat hdir hname)]
    exact isDelivery_concat hs
      (makesFrom_makeParentsFirst hdir (length_le_length_pathText dir) hs) octets hnames

/-- A file whose directory is tried before its parents. -/
theorem isDelivery_makePlace (hs : t.IsSound) (hnull : hasNull path = false)
    (octets : List UInt8) :
    IsDelivery (t.absolute path) octets t
      ((makePlace (t.resolve path).length (t.resolve path).dropLast >>=
        fun _ => save (t.absolute path) octets).run.run t) := by
  have hnames := areNames_resolve hs hnull
  have hlength : (t.resolve path).dropLast.length ≤ (t.resolve path).length :=
    (List.dropLast_prefix _).length_le
  have hmakes := makesFrom_makePlace hnames.dropLast hlength hs
  rw [absolute_eq]
  rcases List.eq_nil_or_concat' (t.resolve path) with hnil | ⟨dir, name, hsplit⟩
  · rw [hnil] at hmakes ⊢
    exact isDelivery_top hs hmakes octets
  · rw [hsplit] at hmakes hnames ⊢
    rw [List.dropLast_concat] at hmakes ⊢
    exact isDelivery_concat hs hmakes octets hnames

end Files
end FlowDecl
