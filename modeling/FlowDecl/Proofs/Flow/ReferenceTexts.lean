import FlowDecl.Proofs.Flow.References

/-!
# Texts of references

The text of a reference is an array for each list among the wrappers that its chain begins with, and
inside of these the text of the first link that wraps nothing.  There is no text exactly if the
chain begins with more than `maxDepth` wrappers, whatever comes after them.

The innermost link is found by counting all steps.  Where only wrappers lead on and the last link is
none, it is the link that the text is made of, and it is missing for the same references as the
text.
-/

namespace FlowDecl

open Json (Value)

/-- References in which every link that leads on is a wrapper, and the last link is none. -/
structure TypeRef.EndsPlain (ref : TypeRef) : Prop where
  leading : ∀ l ∈ ref.links.dropLast, l.isWrapper = true
  last : ref.innermost.isWrapper = false

/-- The first link of a chain that wraps nothing. -/
def Link.firstPlain? (links : List Link) : Option Link :=
  links.find? fun l => !l.isWrapper

theorem Link.firstPlain?_cons_of_wrapper {l : Link} (hl : l.isWrapper = true)
    (links : List Link) :
    Link.firstPlain? (l :: links) = Link.firstPlain? links := by
  apply List.find?_cons_of_neg
  simp [hl]

theorem Link.firstPlain?_cons_of_plain {l : Link} (hl : l.isWrapper = false)
    (links : List Link) :
    Link.firstPlain? (l :: links) = some l := by
  apply List.find?_cons_of_pos
  simp [hl]

theorem TypeRef.links_eq_concat (ref : TypeRef) :
    ref.links = ref.links.dropLast ++ [ref.innermost] := by
  have hlast : ref.links.getLast? = some ref.innermost := by
    rw [TypeRef.links, List.getLast?_cons, TypeRef.innermost, List.getLastD_eq_getLast?]
  exact (List.dropLast_append_getLast? _ hlast).symm

namespace Flow

/-! ## Links -/

/-- The text of a scalar of any name. -/
def scalarText : Value → String
  | .str name =>
    if name = "ID" ∨ name = "String" then "string"
    else if name = "Boolean" then "boolean"
    else if name = "Float" ∨ name = "Int" then "number"
    else "any"
  | _ => "any"

/-- The text of a link that wraps nothing. -/
def linkText (o : Options) (l : Link) : String :=
  if l.name.isNull then "any"
  else
    match l.kind with
    | .scalar => scalarText l.name
    | .enum => l.name.display ++ "Enum" ++ o.suffix
    | _ => l.name.display ++ o.suffix

/-- The text of what comes after the wrappers of a chain. -/
def baseText (o : Options) (links : List Link) : String :=
  match Link.firstPlain? links with
  | none => "any"
  | some l => linkText o l

/-- A text a number of times. -/
def copies (n : Nat) (text : String) : String :=
  String.join (List.replicate n text)

theorem text_scalarPrimitive (name : String) :
    (scalarPrimitive name).text = scalarText (.str name) := by
  rw [scalarPrimitive, builtinScalars, scalarText]
  by_cases hid : name = "ID"
  · rw [hid]
    rfl
  by_cases hstring : name = "String"
  · rw [hstring]
    rfl
  by_cases hboolean : name = "Boolean"
  · rw [hboolean]
    rfl
  by_cases hfloat : name = "Float"
  · rw [hfloat]
    rfl
  by_cases hint : name = "Int"
  · rw [hint]
    rfl
  simp [List.lookup_cons, beq_eq_false_iff_ne.mpr, Primitive.text, *]

/-- A scalar whose name can be looked up has an expression with its text. -/
theorem exists_scalarExpression {name : Value} (h : name.hashable = true) :
    ∃ e, scalarExpression name = .ok e ∧ e.text = scalarText name := by
  cases name with
  | str text => exact ⟨_, rfl, text_scalarPrimitive text⟩
  | arr items => cases h
  | obj members => cases h
  | _ => exact ⟨.primitive .any, rfl, rfl⟩

/-- Only a scalar is looked up by its name. -/
theorem exists_namedExpression (o : Options) {l : Link}
    (h : l.kind = .scalar → l.name.hashable = true) :
    ∃ e, namedExpression o l = .ok e ∧ e.text = linkText o l := by
  rw [namedExpression, linkText]
  by_cases hnull : l.name.isNull = true
  · rw [if_pos hnull, if_pos hnull]
    exact ⟨_, rfl, rfl⟩
  · rw [if_neg hnull, if_neg hnull]
    cases hkind : l.kind with
    | scalar =>
        obtain ⟨e, he, htext⟩ := exists_scalarExpression (h hkind)
        exact ⟨e, by rw [he]; rfl, htext⟩
    | _ => exact ⟨_, rfl, rfl⟩

/-! ## Chains -/

theorem baseExpression_eq (o : Options) (links : List Link) :
    baseExpression o links =
      match Link.firstPlain? links with
      | none => .ok (.primitive .any)
      | some l => namedExpression o l := by
  induction links with
  | nil => rfl
  | cons l links ih =>
      by_cases hl : l.isWrapper = true
      · rw [baseExpression_cons_of_wrapper o hl, ih, Link.firstPlain?_cons_of_wrapper hl]
      · have hplain : l.isWrapper = false := Bool.eq_false_iff.mpr hl
        rw [baseExpression, List.dropWhile_cons_of_neg hl, Link.firstPlain?_cons_of_plain hplain]

theorem exists_baseExpression (o : Options) {links : List Link}
    (h : ∀ l ∈ Link.firstPlain? links, l.kind = .scalar → l.name.hashable = true) :
    ∃ e, baseExpression o links = .ok e ∧ e.text = baseText o links := by
  rw [baseExpression_eq, baseText]
  cases hfirst : Link.firstPlain? links with
  | none => exact ⟨_, rfl, rfl⟩
  | some l => exact exists_namedExpression o (h l hfirst)

theorem copies_succ (n : Nat) (text : String) :
    copies (n + 1) text = text ++ copies n text := by
  rw [copies, List.replicate_succ, String.join_cons, copies]

theorem copies_succ' (n : Nat) (text : String) :
    copies (n + 1) text = copies n text ++ text := by
  rw [copies, List.replicate_succ', String.join_append, copies]
  simp

theorem text_inArrays (e : TypeExpr) (n : Nat) :
    (e.inArrays n).text = copies n "Array<" ++ e.text ++ copies n ">" := by
  induction n with
  | zero => simp [TypeExpr.inArrays, copies]
  | succ n ih =>
      calc
        (e.inArrays (n + 1)).text = "Array<" ++ (e.inArrays n).text ++ ">" := rfl
        _ = "Array<" ++ (copies n "Array<" ++ e.text ++ copies n ">") ++ ">" := by rw [ih]
        _ = copies (n + 1) "Array<" ++ e.text ++ copies (n + 1) ">" := by
          simp only [copies_succ n "Array<", copies_succ' n ">", String.append_assoc]

/-! ## References that end in a plain link -/

section EndsPlain

variable {ref : TypeRef} (h : ref.EndsPlain)

include h

theorem wrappers_of_endsPlain : wrappers ref.links = ref.links.dropLast := by
  conv_lhs => rw [ref.links_eq_concat]
  exact wrappers_append_plain h.leading h.last

theorem length_wrappers_of_endsPlain : (wrappers ref.links).length = ref.inner.length := by
  rw [wrappers_of_endsPlain h, List.length_dropLast, TypeRef.links_length]
  rfl

theorem firstPlain?_of_endsPlain : Link.firstPlain? ref.links = some ref.innermost := by
  have hnone : ref.links.dropLast.find? (fun l => !l.isWrapper) = none := by
    rw [List.find?_eq_none]
    intro l hl
    simp [h.leading l hl]
  rw [Link.firstPlain?, ref.links_eq_concat, List.find?_append, hnone]
  simp [h.last]

end EndsPlain

/-- The text of a reference exists exactly if the reference begins with at most 32 wrappers.  It is
made of an array for each list among them and of the first link that wraps nothing, which is the
innermost link where only wrappers lead on.  A scalar is looked up by its name, as every name that
is a text or missing can be. -/
theorem text_of_reference (o : Options) (ref : TypeRef) :
    (refExpression o ref = .error .tooDeep ↔ 33 ≤ (wrappers ref.links).length) ∧
      ((wrappers ref.links).length < 33 →
        (∀ l ∈ Link.firstPlain? ref.links, l.kind = .scalar → l.name.hashable = true) →
        ∃ e, refExpression o ref = .ok e ∧
          e.text = copies (listDepth ref.links) "Array<" ++ baseText o ref.links ++
            copies (listDepth ref.links) ">") ∧
      (ref.EndsPlain →
        Link.firstPlain? ref.links = some ref.innermost ∧
          ((wrappers ref.links).length ≤ 32 → rootLink ref = .ok ref.innermost) ∧
          (rootLink ref = .error .tooDeep ↔ 32 < (wrappers ref.links).length) ∧
          (rootLink ref = .error .tooDeep ↔ refExpression o ref = .error .tooDeep)) := by
  have hdeep := refExpression_eq_tooDeep_iff o ref
  refine ⟨hdeep, ?_, ?_⟩
  · intro hshort hnames
    obtain ⟨base, hbase, htext⟩ := exists_baseExpression o hnames
    refine ⟨base.inArrays (listDepth ref.links), ?_, ?_⟩
    · rw [refExpression, linksExpression_eq, hbase, Nat.zero_add, maxDepth,
        if_neg (Nat.not_lt.mpr (Nat.le_of_lt_succ hshort))]
      rfl
    · rw [text_inArrays, htext]
  · intro hends
    have hroot : rootLink ref =
        if (wrappers ref.links).length ≤ 32 then .ok ref.innermost else .error .tooDeep := by
      rw [length_wrappers_of_endsPlain hends, rootLink, TypeRef.root?_eq, maxDepth]
      by_cases hshort : ref.inner.length ≤ 32
      · rw [if_pos hshort, if_pos hshort]
      · rw [if_neg hshort, if_neg hshort]
    have hmissing : rootLink ref = .error .tooDeep ↔ 32 < (wrappers ref.links).length := by
      rw [hroot, ← Nat.not_le]
      split
      next hshort => simp [hshort]
      next hlong => simp [hlong]
    refine ⟨firstPlain?_of_endsPlain hends, ?_, hmissing, hmissing.trans hdeep.symm⟩
    intro hshort
    rw [hroot, if_pos hshort]

/-! ## Lists in a list -/

/-- The end of the references to roles. -/
def roleLink : Link := ⟨.enum, .str "Role"⟩

/-- A list of lists of roles, with a list and the roles in it never null. -/
def rolesRef : TypeRef :=
  ⟨{ kind := .nonNull }, [{ kind := .list }, { kind := .list }, { kind := .nonNull }, roleLink]⟩

theorem endsPlain_rolesRef : rolesRef.EndsPlain where
  leading := by
    intro l hl
    rcases (by simpa [rolesRef, TypeRef.links] using hl : _ ∨ _ ∨ _) with rfl | rfl | rfl <;> rfl
  last := rfl

theorem text_of_rolesRef :
    (wrappers rolesRef.links).length < 33 ∧
      (∀ l ∈ Link.firstPlain? rolesRef.links, l.kind = .scalar → l.name.hashable = true) ∧
      rolesRef.EndsPlain ∧
      (∃ e, refExpression { suffix := "X" } rolesRef = .ok e ∧
        e.text = "Array<Array<RoleEnumX>>") ∧
      rootLink rolesRef = .ok roleLink := by
  have hshort : (wrappers rolesRef.links).length < 33 := by decide
  have hbase : baseText { suffix := "X" } rolesRef.links = "RoleEnumX" := by decide
  have hdepth : listDepth rolesRef.links = 2 := by decide
  have hnames : ∀ l ∈ Link.firstPlain? rolesRef.links,
      l.kind = .scalar → l.name.hashable = true := by
    intro l hl hscalar
    rw [firstPlain?_of_endsPlain endsPlain_rolesRef] at hl
    cases hl
    cases hscalar
  obtain ⟨-, htext, hroot⟩ := text_of_reference { suffix := "X" } rolesRef
  obtain ⟨e, he, hcopies⟩ := htext hshort hnames
  refine ⟨hshort, hnames, endsPlain_rolesRef, ⟨e, he, ?_⟩, ?_⟩
  · rw [hcopies, hbase, hdepth]
    decide
  · exact (hroot endsPlain_rolesRef).2.1 (Nat.le_of_lt_succ hshort)

end Flow
end FlowDecl
