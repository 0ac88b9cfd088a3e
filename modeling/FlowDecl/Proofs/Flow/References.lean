import FlowDecl.Flow.Generate
import FlowDecl.Proofs.Outcome

/-!
# Expressions of references

The expression of a chain of links is read off three parts of the chain: the number of wrappers
that it begins with, the number of lists among them, and the first link after them.  Only the
number of wrappers can make a chain too deep.

The innermost link of a reference is found by counting all steps, not only those over wrappers.
The two countings agree on references that lead over wrappers to a named type.
-/

namespace FlowDecl

open Json (Value)

/-- Whether a link wraps the links after it. -/
def Link.isWrapper (l : Link) : Bool :=
  l.kind.isWrapper

/-- A reference of at most `maxDepth` wrappers and, after them, a link that has a name and wraps
nothing. -/
structure TypeRef.LeadsTo (ref : TypeRef) (target : Link) : Prop where
  chain : ∃ wrappers : List Link,
    ref.links = wrappers ++ [target] ∧ wrappers.length ≤ maxDepth ∧
      ∀ w ∈ wrappers, w.isWrapper = true
  plain : target.isWrapper = false
  named : target.name ≠ .null

theorem TypeRef.links_length (ref : TypeRef) :
    ref.links.length = ref.inner.length + 1 :=
  rfl

theorem TypeRef.getLastD_inner_eq_of_links
    {ref : TypeRef} {wrappers : List Link} {target : Link}
    (h : ref.links = wrappers ++ [target]) :
    ref.inner.getLastD ref.outer = target := by
  have hlast : ref.links.getLast? = some target := by
    rw [h, List.getLast?_concat]
  rw [TypeRef.links, List.getLast?_cons] at hlast
  simpa [List.getLastD_eq_getLast?] using hlast

theorem TypeRef.leadsTo_outer {target : Link}
    (hplain : target.isWrapper = false) (hnamed : target.name ≠ .null) :
    TypeRef.LeadsTo ⟨target, []⟩ target :=
  ⟨⟨[], rfl, Nat.zero_le _, by simp⟩, hplain, hnamed⟩

/-- A wrapper around a reference leads to where the reference leads. -/
theorem TypeRef.LeadsTo.wrap
    {ref : TypeRef} {target w : Link} (h : ref.LeadsTo target)
    (hw : w.isWrapper = true) (hshort : ref.links.length ≤ maxDepth) :
    TypeRef.LeadsTo ⟨w, ref.links⟩ target := by
  obtain ⟨wrappers, hlinks, -, hwrappers⟩ := h.chain
  refine ⟨⟨w :: wrappers, ?_, ?_, ?_⟩, h.plain, h.named⟩
  · rw [List.cons_append, ← hlinks]
    rfl
  · rw [hlinks, List.length_append, List.length_singleton] at hshort
    exact hshort
  · exact List.forall_mem_cons.mpr ⟨hw, hwrappers⟩

/-- The link that a reference ends in. -/
def TypeRef.innermost (ref : TypeRef) : Link :=
  ref.inner.getLastD ref.outer

/-- After at most `maxDepth` steps, the last link is found exactly if it is not more than that many
steps away. -/
theorem stepInwards_eq {steps : Nat} (h : steps ≤ maxDepth) (l : Link) (rest : List Link) :
    stepInwards steps l rest =
      if steps + rest.length ≤ maxDepth then some (rest.getLastD l) else none := by
  induction rest generalizing steps l with
  | nil => rw [stepInwards, List.length_nil, Nat.add_zero, if_pos h, List.getLastD_nil]
  | cons next rest ih =>
      rw [stepInwards, List.length_cons, List.getLastD_cons]
      split_ifs with hover hlength
      · omega
      · rfl
      · rw [ih (by omega), if_pos (by omega)]
      · rw [ih (by omega), if_neg (by omega)]

/-- The innermost link of a reference is the one that it ends in, if it is not too far away. -/
theorem TypeRef.root?_eq (ref : TypeRef) :
    ref.root? = if ref.inner.length ≤ maxDepth then some ref.innermost else none := by
  rw [TypeRef.root?, stepInwards_eq (Nat.zero_le _), Nat.zero_add]
  rfl

theorem TypeRef.root?_eq_innermost {ref : TypeRef} (h : ref.inner.length ≤ maxDepth) :
    ref.root? = some ref.innermost := by
  rw [ref.root?_eq, if_pos h]

theorem TypeRef.root?_eq_none {ref : TypeRef} (h : ¬ref.inner.length ≤ maxDepth) :
    ref.root? = none := by
  rw [ref.root?_eq, if_neg h]

/-- The innermost link of a reference that leads to a link is that link. -/
theorem TypeRef.LeadsTo.root?_eq
    {ref : TypeRef} {target : Link} (h : ref.LeadsTo target) :
    ref.root? = some target := by
  obtain ⟨wrappers, hlinks, hlength, -⟩ := h.chain
  have hinner : ref.inner.length ≤ maxDepth := by
    have hcount := congrArg List.length hlinks
    rw [TypeRef.links_length, List.length_append, List.length_singleton] at hcount
    omega
  rw [TypeRef.root?_eq_innermost hinner, TypeRef.innermost,
    TypeRef.getLastD_inner_eq_of_links hlinks]

theorem TypeRef.LeadsTo.unique
    {ref : TypeRef} {a b : Link} (ha : ref.LeadsTo a) (hb : ref.LeadsTo b) :
    a = b :=
  Option.some.inj (ha.root?_eq.symm.trans hb.root?_eq)

theorem TypeRef.LeadsTo.innermost_eq {ref : TypeRef} {target : Link} (h : ref.LeadsTo target) :
    ref.innermost = target := by
  obtain ⟨wrappers, hlinks, -, -⟩ := h.chain
  exact TypeRef.getLastD_inner_eq_of_links hlinks

namespace Flow

/-- The names of declarations that an expression mentions. -/
def TypeExpr.mentions : TypeExpr → List String
  | .primitive _ => []
  | .declared name => [name]
  | .union names => names
  | .array item => item.mentions

/-- An expression inside of a number of arrays. -/
def TypeExpr.inArrays (e : TypeExpr) : Nat → TypeExpr
  | 0 => e
  | n + 1 => .array (e.inArrays n)

@[simp] theorem TypeExpr.mentions_inArrays (e : TypeExpr) (n : Nat) :
    (e.inArrays n).mentions = e.mentions := by
  induction n with
  | zero => rfl
  | succ n ih => exact ih

theorem TypeExpr.inArrays_inArrays (e : TypeExpr) (m n : Nat) :
    (e.inArrays m).inArrays n = e.inArrays (m + n) := by
  induction n with
  | zero => rfl
  | succ n ih => exact congrArg TypeExpr.array ih

/-- The wrappers that a chain begins with. -/
def wrappers (links : List Link) : List Link :=
  links.takeWhile Link.isWrapper

/-- The number of lists among the wrappers that a chain begins with. -/
def listDepth (links : List Link) : Nat :=
  (wrappers links).countP fun l => l.kind = .list

/-- The expression of what comes after the wrappers of a chain. -/
def baseExpression (o : Options) (links : List Link) : Except Fault TypeExpr :=
  match links.dropWhile Link.isWrapper with
  | [] => .ok (.primitive .any)
  | l :: _ => namedExpression o l

theorem wrappers_cons_of_wrapper {l : Link} (hl : l.isWrapper = true) (links : List Link) :
    wrappers (l :: links) = l :: wrappers links :=
  List.takeWhile_cons_of_pos hl

/-- A chain begins with the wrappers before the first link that wraps nothing. -/
theorem wrappers_append_plain {before : List Link} {target : Link}
    (hwrap : ∀ w ∈ before, w.isWrapper = true) (hplain : target.isWrapper = false) :
    wrappers (before ++ [target]) = before := by
  rw [wrappers, List.takeWhile_append_of_pos hwrap, List.takeWhile_cons_of_neg (by simp [hplain]),
    List.append_nil]

theorem baseExpression_cons_of_wrapper
    (o : Options) {l : Link} (hl : l.isWrapper = true) (links : List Link) :
    baseExpression o (l :: links) = baseExpression o links := by
  rw [baseExpression, List.dropWhile_cons_of_pos hl]
  rfl

theorem Link.isWrapper_iff {l : Link} :
    l.isWrapper = true ↔ l.kind = .list ∨ l.kind = .nonNull := by
  rw [Link.isWrapper]
  cases l.kind <;> simp [TypeKind.isWrapper]

/-- The number of arrays that a link adds. -/
def arraysOf (l : Link) : Nat :=
  if l.kind = .list then 1 else 0

theorem listDepth_cons_of_wrapper {l : Link} (hl : l.isWrapper = true) (links : List Link) :
    listDepth (l :: links) = listDepth links + arraysOf l := by
  rw [listDepth, wrappers_cons_of_wrapper hl, List.countP_cons, listDepth, arraysOf]
  simp

theorem linksExpression_wrapper
    (o : Options) (depth : Nat) {l : Link} (hl : l.isWrapper = true) (links : List Link) :
    linksExpression o depth (l :: links) =
      if maxDepth < depth then .error .tooDeep
      else (·.inArrays (arraysOf l)) <$> linksExpression o (depth + 1) links := by
  rw [linksExpression, arraysOf]
  rcases Link.isWrapper_iff.mp hl with hkind | hkind
  · rw [hkind]
    rfl
  · rw [hkind]
    cases linksExpression o (depth + 1) links <;> rfl

theorem linksExpression_plain
    (o : Options) (depth : Nat) {l : Link} (hl : l.isWrapper = false) (links : List Link) :
    linksExpression o depth (l :: links) =
      if maxDepth < depth then .error .tooDeep else namedExpression o l := by
  rw [linksExpression]
  cases hkind : l.kind with
  | list => simp [Link.isWrapper, TypeKind.isWrapper, hkind] at hl
  | nonNull => simp [Link.isWrapper, TypeKind.isWrapper, hkind] at hl
  | _ => rfl

/-- A chain is too deep by its wrappers alone; otherwise each list among them is an array around
the expression of what comes after them. -/
theorem linksExpression_eq (o : Options) (depth : Nat) (links : List Link) :
    linksExpression o depth links =
      if maxDepth < depth + (wrappers links).length then .error .tooDeep
      else (·.inArrays (listDepth links)) <$> baseExpression o links := by
  induction links generalizing depth with
  | nil => rfl
  | cons l links ih =>
      by_cases hl : l.isWrapper = true
      -- A wrapper adds one to the depth, and the chain after it has the same base.
      · have hcount : depth + (wrappers (l :: links)).length =
            depth + 1 + (wrappers links).length := by
          rw [wrappers_cons_of_wrapper hl, List.length_cons]
          omega
        rw [linksExpression_wrapper o depth hl, ih, hcount, baseExpression_cons_of_wrapper o hl,
          listDepth_cons_of_wrapper hl]
        by_cases hdeep : maxDepth < depth + 1 + (wrappers links).length
        · rw [if_pos hdeep, if_pos hdeep]
          exact ite_self _
        · have hshallow : ¬maxDepth < depth := by omega
          rw [if_neg hshallow, if_neg hdeep, if_neg hdeep, Functor.map_map]
          simp only [TypeExpr.inArrays_inArrays]
      · rw [Bool.not_eq_true] at hl
        have hnone : wrappers (l :: links) = [] :=
          List.takeWhile_cons_of_neg (by simp [hl])
        have hbase : baseExpression o (l :: links) = namedExpression o l := by
          rw [baseExpression, List.dropWhile_cons_of_neg (by simp [hl])]
        rw [linksExpression_plain o depth hl, hbase, listDepth, hnone]
        cases namedExpression o l with
        | error fault => rfl
        | ok e => rfl

/-! ## Faults of expressions -/

theorem ofName_ne_tooDeep {α : Type} (x : Except NameFault α) :
    ofName x ≠ .error .tooDeep := by
  intro h
  obtain ⟨fault, -, hfault⟩ := Outcome.mapError_eq_error_iff.mp h
  cases hfault

theorem namedExpression_ne_tooDeep (o : Options) (l : Link) :
    namedExpression o l ≠ .error .tooDeep := by
  rw [namedExpression]
  split
  · simp
  · split
    · exact ofName_ne_tooDeep _
    · simp
    · simp

theorem baseExpression_ne_tooDeep (o : Options) (links : List Link) :
    baseExpression o links ≠ .error .tooDeep := by
  rw [baseExpression]
  split
  · simp
  · exact namedExpression_ne_tooDeep o _

/-- The expression of a reference is too deep exactly if the reference begins with more than
`maxDepth` wrappers. -/
theorem refExpression_eq_tooDeep_iff (o : Options) (ref : TypeRef) :
    refExpression o ref = .error .tooDeep ↔ maxDepth < (wrappers ref.links).length := by
  rw [refExpression, linksExpression_eq, Nat.zero_add]
  split
  next hdeep => simp [hdeep]
  next hshallow =>
    rw [Outcome.map_eq_error_iff]
    exact iff_of_false (baseExpression_ne_tooDeep o ref.links) hshallow

/-! ## References to named types -/

def generatedName (o : Options) (kind : TypeKind) (name : Value) : String :=
  if kind = .enum then enumName name o else typeName name o

/-- A link whose name is a text has an expression: the type that Flow has for a scalar, and the
generated name for every other kind. -/
theorem namedExpression_of_text (o : Options) {l : Link} {text : String}
    (htext : l.name = .str text) :
    namedExpression o l =
      .ok (if l.kind = .scalar then .primitive (scalarPrimitive text)
        else .declared (generatedName o l.kind l.name)) := by
  rw [namedExpression, htext]
  cases l.kind <;> rfl

/-- A reference that leads to a link has the expression of the link inside of arrays. -/
theorem refExpression_of_leadsTo (o : Options) {ref : TypeRef} {target : Link}
    (h : ref.LeadsTo target) :
    refExpression o ref =
      (·.inArrays (listDepth ref.links)) <$> namedExpression o target := by
  obtain ⟨before, hlinks, hlength, hwrap⟩ := h.chain
  have hplain : ¬target.isWrapper = true := by
    simp [h.plain]
  have hwrappers : wrappers ref.links = before := by
    rw [hlinks, wrappers_append_plain hwrap h.plain]
  have hbase : baseExpression o ref.links = namedExpression o target := by
    rw [baseExpression, hlinks, List.dropWhile_append_of_pos hwrap,
      List.dropWhile_cons_of_neg hplain]
  rw [refExpression, linksExpression_eq, hbase, hwrappers, Nat.zero_add,
    if_neg (Nat.not_lt.mpr hlength)]

end Flow
end FlowDecl
