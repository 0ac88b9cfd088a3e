import FlowDecl.Module.Template
import FlowDecl.Proofs.Outcome
import FlowDecl.Proofs.Text.Encoding

/-!
# Plain templates

A plain template is literal text with places for texts that it names.  It is relied on of an engine
that it fills in such a template where texts are not escaped: literal text stays as it is, and at a
place stands the text of the argument, whatever characters are in it.  The standard engine does so.
-/

namespace FlowDecl
namespace Template

/-! ## Plain sources -/

/-- A part of a plain source: literal text, or a place for an argument of a name. -/
inductive Part where
  | literal (cs : List Char)
  | place (name : String)

/-- Characters of the names of arguments. -/
def isVariableChar (c : Char) : Bool :=
  c.isLower || c = '_'

/-- Words that a template uses for something else. -/
def reservedWords : List String :=
  ["and", "caller", "else", "false", "if", "in", "is", "kwargs", "loop", "none", "not", "or", "self",
    "super", "true", "varargs"]

namespace Part

/-- The characters of a part in a source. -/
def written : Part → List Char
  | .literal cs => cs
  | .place name => '{' :: '{' :: ' ' :: (name.toList ++ [' ', '}', '}'])

/-- Literal text without braces and carriage returns, or a place for a name of lower case letters
and underscores that is not reserved. -/
def IsPlain : Part → Prop
  | .literal cs => ∀ c ∈ cs, c ≠ '{' ∧ c ≠ '}' ∧ c ≠ '\r'
  | .place name => name ≠ "" ∧ name ∉ reservedWords ∧ ∀ c ∈ name.toList, isVariableChar c = true

/-- The characters that are shown for a part. -/
def shown? (arguments : Arguments) : Part → Option (List Char)
  | .literal cs => some cs
  | .place name =>
    match arguments.lookup name with
    | some (.text s) => some s.toList
    | _ => none

end Part

/-- The engine fills in plain sources with arguments of different names. -/
def FillsPlaces (engine : Engine) : Prop :=
  ∀ (settings : Settings) (sources : Sources) (name : String) (arguments : Arguments)
    (source : String) (parts : List Part) (shown : List (List Char)),
    settings.escapes name = false → sources name = .ok (some source) →
    settings.taken source.toList = parts.flatMap Part.written → (∀ part ∈ parts, part.IsPlain) →
    (arguments.map Prod.fst).Nodup → parts.mapM (Part.shown? arguments) = some shown →
    engine settings sources name arguments = .ok (String.ofList shown.flatten)

/-! ## Pieces of plain sources -/

/-- Pieces that are shown as some characters. -/
inductive Shows (arguments : Arguments) : List Piece → List Char → Prop where
  | nil : Shows arguments [] []
  | text (cs : List Char) {ps : List Piece} {out : List Char} (hrest : Shows arguments ps out) :
      Shows arguments (.text cs :: ps) (cs ++ out)
  | place {content : List Char} {name s : String} {ps : List Piece} {out : List Char}
      (hname : readExpression ((wordsOf content).filter (· != "")) = some (.name name))
      (hvalue : arguments.lookup name = some (.text s)) (hrest : Shows arguments ps out) :
      Shows arguments (.place content :: ps) (s.toList ++ out)

variable {arguments : Arguments} {ps : List Piece} {out : List Char}

theorem Shows.addChar (c : Char) (h : Shows arguments ps out) :
    Shows arguments (addChar c ps) (c :: out) := by
  cases h with
  | nil => exact .text [c] .nil
  | text cs hrest => exact .text (c :: cs) hrest
  | place hname hvalue hrest => exact .text [c] (.place hname hvalue hrest)

theorem upTo_append {a b : Char} {cs : List Char} (h : a ∉ cs) (rest : List Char) :
    upTo a b (cs ++ a :: b :: rest) = some (cs, rest) := by
  induction cs with
  | nil => simp [upTo]
  | cons c cs ih =>
      rw [List.mem_cons, not_or] at h
      obtain ⟨hfirst, hrest⟩ := h
      obtain ⟨d, ds, hds⟩ : ∃ d ds, cs ++ a :: b :: rest = d :: ds := by
        cases cs <;> simp
      have hread := ih hrest
      rw [hds] at hread
      have hopen : ¬(decide (c = a) && decide (d = b)) = true := by
        simp [Ne.symm hfirst]
      rw [List.cons_append, hds, upTo, if_neg hopen, hread]
      rfl

theorem not_isBlank_of_isVariableChar {c : Char} (h : isVariableChar c = true) :
    Text.isBlank c = false := by
  have hrange : c.toNat = 95 ∨ (97 ≤ c.toNat ∧ c.toNat ≤ 122) := by
    rw [isVariableChar, Bool.or_eq_true, decide_eq_true_eq] at h
    rcases h with hlower | rfl
    · obtain ⟨hleast, hgreatest⟩ := Bool.and_eq_true_iff.mp hlower
      exact Or.inr ⟨UInt32.le_iff_toNat_le.mp (of_decide_eq_true hleast),
        UInt32.le_iff_toNat_le.mp (of_decide_eq_true hgreatest)⟩
    · exact Or.inl rfl
  simp only [Text.isBlank, Text.inRanges, Text.blankRanges, List.any_cons, List.any_nil,
    Bool.or_false, Bool.or_eq_false_iff, Bool.and_eq_false_iff, decide_eq_false_iff_not]
  omega

theorem ne_of_isVariableChar {c d : Char} (h : isVariableChar c = true)
    (hd : isVariableChar d = false) : c ≠ d := by
  rintro rfl
  rw [h] at hd
  cases hd

/-- A name with a blank after it is one word. -/
theorem wordsOf_append_blank {cs : List Char} (h : ∀ c ∈ cs, isVariableChar c = true) :
    wordsOf (cs ++ [' ']) = [String.ofList cs] := by
  induction cs with
  | nil => rfl
  | cons c cs ih =>
      obtain ⟨hfirst, hrest⟩ := List.forall_mem_cons.mp h
      have hblank : ¬Text.isBlank c = true := by
        simp [not_isBlank_of_isVariableChar hfirst]
      rw [List.cons_append, wordsOf, ih hrest, if_neg hblank,
        if_neg (ne_of_isVariableChar hfirst (by decide))]
      refine congrArg (fun word => [word]) (String.toList_injective ?_)
      simp

theorem readExpression_place {name : String} (h : (Part.place name).IsPlain) :
    readExpression ((wordsOf (' ' :: (name.toList ++ [' ']))).filter (· != "")) =
      some (.name name) := by
  obtain ⟨hne, -, hchars⟩ := h
  have hwords : wordsOf (' ' :: (name.toList ++ [' '])) = ["", name] := by
    have hblank : Text.isBlank ' ' = true := by decide
    rw [wordsOf, if_pos hblank, wordsOf_append_blank hchars, String.ofList_toList]
  have hdotted : name ≠ roundName ++ ".index" := by
    rintro rfl
    exact absurd (hchars '.' (by decide)) (by decide)
  simp [hwords, hne, readExpression, readExpression.nameExpression, hdotted]

/-- Characters that are read as pieces with some text, given enough steps. -/
def IsRead (arguments : Arguments) (cs out : List Char) : Prop :=
  ∀ fuel, cs.length < fuel → ∃ ps, pieces fuel cs = some ps ∧ Shows arguments ps out

theorem pieces_cons {c : Char} (h : c ≠ '{') (fuel : Nat) (rest : List Char) :
    pieces (fuel + 1) (c :: rest) = addChar c <$> pieces fuel rest := by
  -- The other equations are about an opening brace.
  rw [pieces]
  · exact fun _ hbrace => absurd hbrace h
  · exact fun _ hbrace => absurd hbrace h
  · exact fun _ hbrace => absurd hbrace h

theorem IsRead.literal {cs rest : List Char} (hcs : '{' ∉ cs) (h : IsRead arguments rest out) :
    IsRead arguments (cs ++ rest) (cs ++ out) := by
  induction cs with
  | nil => exact h
  | cons c cs ih =>
      rw [List.mem_cons, not_or] at hcs
      obtain ⟨hfirst, hothers⟩ := hcs
      intro fuel hfuel
      obtain ⟨fuel, rfl⟩ := Nat.exists_eq_add_one_of_ne_zero (Nat.ne_zero_of_lt hfuel)
      obtain ⟨ps, hps, hshows⟩ := ih hothers fuel (Nat.lt_of_succ_lt_succ hfuel)
      refine ⟨addChar c ps, ?_, hshows.addChar c⟩
      rw [List.cons_append, pieces_cons (Ne.symm hfirst), hps]
      rfl

theorem IsRead.place {name s : String} (hname : (Part.place name).IsPlain)
    (hvalue : arguments.lookup name = some (.text s)) {rest : List Char}
    (h : IsRead arguments rest out) :
    IsRead arguments ((Part.place name).written ++ rest) (s.toList ++ out) := by
  intro fuel hfuel
  obtain ⟨fuel, rfl⟩ := Nat.exists_eq_add_one_of_ne_zero (Nat.ne_zero_of_lt hfuel)
  have hrest : rest.length < fuel := by
    simp only [Part.written, List.length_append, List.length_cons] at hfuel
    omega
  obtain ⟨ps, hps, hshows⟩ := h fuel hrest
  refine ⟨_, ?_, .place (readExpression_place hname) hvalue hshows⟩
  have hclose : '}' ∉ ' ' :: (name.toList ++ [' ']) := by
    have hchars : '}' ∉ name.toList := fun hmem => absurd (hname.2.2 _ hmem) (by decide)
    simp [hchars]
  have hread := upTo_append (b := '}') hclose rest
  have hsplit : (Part.place name).written ++ rest =
      '{' :: '{' :: ((' ' :: (name.toList ++ [' '])) ++ '}' :: '}' :: rest) := by
    simp [Part.written]
  rw [hsplit, pieces, hread]
  simp only [Option.bind_eq_bind, Option.bind_some, hps]
  rfl

/-- The characters of a plain source are read as what is shown for its parts. -/
theorem isRead_written {parts : List Part} (hparts : ∀ part ∈ parts, part.IsPlain)
    {shown : List (List Char)} (hshown : parts.mapM (Part.shown? arguments) = some shown) :
    IsRead arguments (parts.flatMap Part.written) shown.flatten := by
  induction parts generalizing shown with
  | nil =>
      cases hshown
      intro fuel hfuel
      obtain ⟨fuel, rfl⟩ := Nat.exists_eq_add_one_of_ne_zero (Nat.ne_zero_of_lt hfuel)
      exact ⟨[], rfl, .nil⟩
  | cons part parts ih =>
      obtain ⟨hfirst, hrest⟩ := List.forall_mem_cons.mp hparts
      simp only [List.mapM_cons, Option.bind_eq_bind, Option.bind_eq_some_iff, Option.pure_def,
        Option.some.injEq] at hshown
      obtain ⟨first, hpart, others, hothers, rfl⟩ := hshown
      have hread := ih hrest hothers
      rw [List.flatMap_cons, List.flatten_cons]
      cases part with
      | literal cs =>
          cases hpart
          exact hread.literal fun hmem => (hfirst _ hmem).1 rfl
      | place name =>
          rw [Part.shown?] at hpart
          split at hpart
          next s hvalue =>
            cases hpart
            exact hread.place hfirst hvalue
          next => cases hpart

/-! ## The standard engine -/

theorem lookup_ofArgument (name : String) :
    List.lookup name (arguments.map fun a => (a.1, Datum.ofArgument a.2)) =
      (arguments.lookup name).map Datum.ofArgument := by
  induction arguments with
  | nil => rfl
  | cons a arguments ih =>
      rw [List.map_cons, List.lookup_cons, List.lookup_cons, ih]
      cases name == a.1 <;> rfl

/-- Pieces are put together to parts with their text. -/
theorem Shows.exists_fragments (h : Shows arguments ps out) (done : List Fragment) :
    ∃ fragments, assemble [] done ps = some (done.reverse ++ fragments) ∧
      render id (arguments.map fun a => (a.1, Datum.ofArgument a.2)) fragments =
        .ok (String.ofList out) := by
  induction h generalizing done with
  | nil => exact ⟨[], by simp [assemble], rfl⟩
  | @text cs ps out hrest ih =>
      obtain ⟨fragments, hassemble, hrender⟩ := ih (.text (String.ofList cs) :: done)
      refine ⟨.text (String.ofList cs) :: fragments, ?_, ?_⟩
      · rw [assemble, hassemble]
        simp
      · rw [render, renderFragment, hrender, String.ofList_append]
        rfl
  | @place content name s ps out hname hvalue hrest ih =>
      obtain ⟨fragments, hassemble, hrender⟩ := ih (.show (.name name) :: done)
      refine ⟨.show (.name name) :: fragments, ?_, ?_⟩
      · rw [assemble, hname, Option.bind_eq_bind, Option.bind_some, hassemble]
        simp
      · rw [render, renderFragment, hrender, Expression.value, lookup_ofArgument, hvalue,
          String.ofList_append, String.ofList_toList]
        rfl

theorem ofChars?_eq {cs : List Char} (h : IsRead arguments cs out) :
    ∃ fragments, ofChars? cs = some fragments ∧
      render id (arguments.map fun a => (a.1, Datum.ofArgument a.2)) fragments =
        .ok (String.ofList out) := by
  obtain ⟨ps, hps, hshows⟩ := h (cs.length + 1) (Nat.lt_succ_self _)
  obtain ⟨fragments, hassemble, hrender⟩ := hshows.exists_fragments []
  refine ⟨fragments, ?_, hrender⟩
  rw [ofChars?, hps]
  exact hassemble

theorem notMem_written {part : Part} (h : part.IsPlain) : '\r' ∉ part.written := by
  cases part with
  | literal cs => exact fun hmem => (h _ hmem).2.2 rfl
  | place name =>
      have hchars : '\r' ∉ name.toList := fun hmem => absurd (h.2.2 _ hmem) (by decide)
      simp [Part.written, hchars]

/-- A source has no other characters than what is taken of it, except for a line end. -/
theorem mem_taken (settings : Settings) {source : List Char} {c : Char} (hmem : c ∈ source)
    (hc : c ≠ '\n') : c ∈ settings.taken source := by
  rw [Settings.taken]
  split
  next hcut =>
    rw [Bool.and_eq_true, decide_eq_true_eq] at hcut
    obtain ⟨start, rfl⟩ := List.getLast?_eq_some_iff.mp hcut.2
    rw [List.dropLast_concat]
    simpa [hc] using hmem
  next => exact hmem

theorem fillsPlaces_standardEngine : FillsPlaces standardEngine := by
  intro settings sources name arguments source parts shown hescapes hsource htaken hparts _ hshown
  have hreturn : '\r' ∉ source.toList := by
    intro hmem
    have hwritten := mem_taken settings hmem (by decide)
    rw [htaken] at hwritten
    obtain ⟨part, hpart, hmem⟩ := List.mem_flatMap.mp hwritten
    exact notMem_written (hparts part hpart) hmem
  obtain ⟨fragments, hread, hrender⟩ := ofChars?_eq (isRead_written hparts hshown)
  have hfill : fillIn id arguments (settings.taken source.toList) =
      .ok (String.ofList shown.flatten) := by
    rw [fillIn, htaken, hread]
    simp only [hrender]
    rfl
  rw [standardEngine, hsource]
  change fillIn (if settings.escapes name = true then escapeText else id) arguments
    (settings.taken (Text.unifyNewlines source.toList)) = _
  rw [hescapes, Text.unifyNewlines_of_notMem hreturn]
  exact hfill

end Template
end FlowDecl
