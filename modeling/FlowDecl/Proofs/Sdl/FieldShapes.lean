import FlowDecl.Proofs.Flow.Members
import FlowDecl.Proofs.Flow.ReferenceTexts
import FlowDecl.Proofs.Sdl.Tellings
import Mathlib.Data.List.TakeWhile

/-!
# Shapes of fields

A field of a type that a text defines keeps its shape on the way to its line: one array for each
list bracket of its type, the name inside of them all, and a mark if it may be missing.

This holds of every toolkit whose introspection documents tell of the type systems.  The
introspection query follows a type only so many steps inwards.  A type with more brackets and marks
than that is cut off: its line has arrays for the brackets that were followed, and anything inside
of them.
-/

namespace FlowDecl
namespace Sdl

open Json (Value)
open FlowDecl.Flow (Member)

/-! ## Types as they are written -/

/-- The brackets and marks around the name of a type, the outermost first. -/
def TypeExpr.wrapping : TypeExpr → List TypeKind
  | .named _ => []
  | .list item => .list :: item.wrapping
  | .nonNull type => .nonNull :: type.wrapping

/-- The number of list brackets among some brackets and marks. -/
def bracketCount (kinds : List TypeKind) : Nat :=
  kinds.countP fun kind => kind = .list

/-- A type that introspection follows to its name. -/
def TypeExpr.IsFollowed (type : TypeExpr) : Prop :=
  type.wrapping.length ≤ queriedSteps

instance (type : TypeExpr) : Decidable type.IsFollowed :=
  inferInstanceAs (Decidable (_ ≤ _))

/-- The link of a bracket or a mark. -/
def wrapperLink (kind : TypeKind) : Link :=
  { kind }

theorem TypeExpr.isWrapper_of_mem_wrapping {type : TypeExpr} {kind : TypeKind}
    (h : kind ∈ type.wrapping) : kind.isWrapper = true := by
  induction type with
  | named name => cases h
  | list item ih =>
      rcases List.mem_cons.mp h with rfl | h
      · rfl
      · exact ih h
  | nonNull type ih =>
      rcases List.mem_cons.mp h with rfl | h
      · rfl
      · exact ih h

/-- The fields of a shape with their types; only objects, interfaces and input objects have
fields. -/
def Shape.typedFields : Shape → List (String × TypeExpr)
  | .object _ fields => fields.map fun f => (f.name, f.type)
  | .interface _ fields => fields.map fun f => (f.name, f.type)
  | .input fields => fields.map fun f => (f.name, f.type)
  | _ => []

/-- Whether a shape is that of an object or an input object. -/
def Shape.isStructure : Shape → Bool
  | .object .. => true
  | .input .. => true
  | _ => false

namespace TypeSystem

variable {s : TypeSystem} {o : Options}

/-! ## References -/

theorem isWrapper_link (s : TypeSystem) (name : String) : (s.link name).isWrapper = false := by
  rw [Link.isWrapper, link]
  cases s.shape? name with
  | none => rfl
  | some shape => cases shape <;> rfl

/-- The links of a type are those of its brackets and marks and then that of its name. -/
theorem links_eq (s : TypeSystem) (type : TypeExpr) :
    s.links type = type.wrapping.map wrapperLink ++ [s.link type.base] := by
  induction type with
  | named name => rfl
  | list item ih => exact congrArg (wrapperLink .list :: ·) ih
  | nonNull type ih => exact congrArg (wrapperLink .nonNull :: ·) ih

theorem links_typeRef_of_followed {type : TypeExpr} (h : type.IsFollowed) :
    (s.typeRef type).links = type.wrapping.map wrapperLink ++ [s.link type.base] := by
  rw [links_typeRef, links_eq]
  apply List.take_of_length_le
  rw [List.length_append, List.length_map, List.length_singleton]
  exact Nat.succ_le_succ h

theorem links_typeRef_of_not_followed {type : TypeExpr} (h : ¬type.IsFollowed) :
    (s.typeRef type).links = (type.wrapping.take (queriedSteps + 1)).map wrapperLink := by
  rw [TypeExpr.IsFollowed] at h
  rw [links_typeRef, links_eq, List.take_append_of_le_length, List.map_take]
  rw [List.length_map]
  omega

theorem isNonNull_typeRef (s : TypeSystem) (type : TypeExpr) :
    (s.typeRef type).isNonNull = type.isNonNull := by
  cases type with
  | named name =>
      have hwrapper := isWrapper_link s name
      change decide ((s.link name).kind = .nonNull) = false
      rw [decide_eq_false_iff_not]
      intro hkind
      rw [Link.isWrapper, hkind] at hwrapper
      cases hwrapper
  | list item => rfl
  | nonNull type => rfl

/-- The links of brackets and marks are wrappers without names. -/
theorem forall_mem_map_wrapperLink {type : TypeExpr} {kinds : List TypeKind}
    (h : kinds ⊆ type.wrapping) :
    ∀ l ∈ kinds.map wrapperLink, l.isWrapper = true ∧ l.name = .null := by
  rintro _ hl
  obtain ⟨kind, hkind, rfl⟩ := List.mem_map.mp hl
  exact ⟨TypeExpr.isWrapper_of_mem_wrapping (h hkind), rfl⟩

/-- A type that is followed leads to the link of its name. -/
theorem leadsTo_of_followed {type : TypeExpr} (h : type.IsFollowed) :
    (s.typeRef type).LeadsTo (s.link type.base) := by
  refine ⟨⟨_, links_typeRef_of_followed h, ?_, ?_⟩, isWrapper_link s _, by simp [link]⟩
  · rw [List.length_map]
    exact Nat.le_trans h (by decide)
  · exact fun l hl => (forall_mem_map_wrapperLink (List.Subset.refl _) l hl).1

/-- A type that is cut off leads over wrappers without names to nothing. -/
theorem forall_mem_links_of_not_followed {type : TypeExpr} (h : ¬type.IsFollowed) :
    ∀ l ∈ (s.typeRef type).links, l.isWrapper = true ∧ l.name = .null := by
  rw [links_typeRef_of_not_followed h]
  exact forall_mem_map_wrapperLink (List.take_subset _ _)

/-! ## Expressions -/

def scalarType (name : String) : Flow.Primitive :=
  if name = "ID" ∨ name = "String" then .string
  else if name = "Boolean" then .boolean
  else if name = "Float" ∨ name = "Int" then .number
  else .any

/-- The expression of a type of a name: that of Flow for a scalar, the generated name for any other
type. -/
def baseExpression (s : TypeSystem) (o : Options) (name : String) : Flow.TypeExpr :=
  match s.shape? name with
  | some .scalar => .primitive (scalarType name)
  | some (.enum _) => .declared (name ++ "Enum" ++ o.suffix)
  | _ => .declared (name ++ o.suffix)

/-- The expression of a type with its shape: an array for each list bracket around the expression
of its name. -/
def shapedExpression (s : TypeSystem) (o : Options) (type : TypeExpr) : Flow.TypeExpr :=
  (s.baseExpression o type.base).inArrays (bracketCount type.wrapping)

/-- The expression of a type that is cut off: an array for each list bracket that was followed
around anything. -/
def cutExpression (type : TypeExpr) : Flow.TypeExpr :=
  (Flow.TypeExpr.primitive .any).inArrays (bracketCount (type.wrapping.take (queriedSteps + 1)))

/-- The expression that a type has after introspection. -/
def introspectedExpression (s : TypeSystem) (o : Options) (type : TypeExpr) : Flow.TypeExpr :=
  if type.IsFollowed then s.shapedExpression o type else cutExpression type

theorem eq_of_text_eq {p q : Flow.Primitive} (h : p.text = q.text) :
    p = q := by
  cases p <;> cases q <;> first | rfl | exact absurd h (by decide)

theorem scalarPrimitive_eq_scalarType (name : String) :
    Flow.scalarPrimitive name = scalarType name := by
  apply eq_of_text_eq
  rw [Flow.text_scalarPrimitive, Flow.scalarText, scalarType]
  split_ifs <;> rfl

theorem namedExpression_link (s : TypeSystem) (o : Options) (name : String) :
    Flow.namedExpression o (s.link name) = .ok (s.baseExpression o name) := by
  rw [Flow.namedExpression_of_text o rfl, baseExpression, link, scalarPrimitive_eq_scalarType]
  cases s.shape? name with
  | none => rfl
  | some shape => cases shape <;> rfl

theorem countP_map_wrapperLink (kinds : List TypeKind) :
    ((kinds.map wrapperLink).countP fun l => l.kind = .list) = bracketCount kinds :=
  List.countP_map

theorem refExpression_of_followed {type : TypeExpr} (h : type.IsFollowed) :
    Flow.refExpression o (s.typeRef type) = .ok (s.shapedExpression o type) := by
  have hwrap := forall_mem_map_wrapperLink (List.Subset.refl type.wrapping)
  have hwrappers : Flow.wrappers (s.typeRef type).links = type.wrapping.map wrapperLink := by
    rw [links_typeRef_of_followed h]
    exact Flow.wrappers_append_plain (fun l hl => (hwrap l hl).1) (isWrapper_link s _)
  rw [Flow.refExpression_of_leadsTo o (leadsTo_of_followed h), namedExpression_link,
    Flow.listDepth, hwrappers, countP_map_wrapperLink]
  rfl

theorem refExpression_of_not_followed {type : TypeExpr} (h : ¬type.IsFollowed) :
    Flow.refExpression o (s.typeRef type) = .ok (cutExpression type) := by
  have hall : ∀ l ∈ (s.typeRef type).links, l.isWrapper = true :=
    fun l hl => (forall_mem_links_of_not_followed h l hl).1
  have hwrappers : Flow.wrappers (s.typeRef type).links = (s.typeRef type).links :=
    List.takeWhile_eq_self_iff.mpr hall
  have hbase : Flow.baseExpression o (s.typeRef type).links = .ok (.primitive .any) := by
    rw [Flow.baseExpression, List.dropWhile_eq_nil_iff.mpr hall]
  have hshallow : ¬maxDepth < 0 + (s.typeRef type).links.length := by
    rw [links_typeRef_of_not_followed h, List.length_map, List.length_take, maxDepth, queriedSteps]
    omega
  rw [Flow.refExpression, Flow.linksExpression_eq, hbase, Flow.listDepth, hwrappers,
    if_neg hshallow, links_typeRef_of_not_followed h, countP_map_wrapperLink]
  rfl

theorem refExpression_typeRef (s : TypeSystem) (o : Options) (type : TypeExpr) :
    Flow.refExpression o (s.typeRef type) = .ok (s.introspectedExpression o type) := by
  rw [introspectedExpression]
  split_ifs with h
  · exact refExpression_of_followed h
  · exact refExpression_of_not_followed h

/-! ## Lines -/

/-- The field that introspection gives for a name and a type. -/
def introspectedField (s : TypeSystem) (f : String × TypeExpr) : Field :=
  ⟨.str f.1, s.typeRef f.2⟩

/-- The line of a field with an expression for its type. -/
def lineWith (f : String × TypeExpr) (e : Flow.TypeExpr) : Member :=
  .property f.1 (!f.2.isNonNull) e

/-- Whether a field has a line: it has none if its type is followed to a name that is ignored. -/
def hasLine (o : Options) (f : String × TypeExpr) : Bool :=
  !(f.2.IsFollowed && o.ignored.contains f.2.base)

theorem memberOf_introspectedField (s : TypeSystem) (f : String × TypeExpr) (e : Flow.TypeExpr) :
    Flow.memberOf (s.introspectedField f) e = lineWith f e := by
  rw [Flow.memberOf, lineWith, introspectedField, isNonNull_typeRef]
  rfl

/-- A field that introspection gives has the line of its expression, or none. -/
theorem fieldMember_introspectedField (s : TypeSystem) (o : Options) (f : String × TypeExpr) :
    Flow.fieldMember o (s.introspectedField f) =
      .ok (if hasLine o f then some (lineWith f (s.introspectedExpression o f.2)) else none) := by
  have hline : (some ∘ Flow.memberOf (s.introspectedField f)) <$>
      Flow.refExpression o (s.introspectedField f).type =
        .ok (some (lineWith f (s.introspectedExpression o f.2))) := by
    rw [introspectedField, refExpression_typeRef, ← memberOf_introspectedField s]
    rfl
  by_cases hfollowed : f.2.IsFollowed
  · have hroot : (s.introspectedField f).type.root? = some (s.link f.2.base) :=
      (leadsTo_of_followed hfollowed).root?_eq
    rw [Flow.fieldMember_of_text o hroot rfl, hline, hasLine]
    cases o.ignored.contains f.2.base with
    | true => simp [hfollowed]
    | false => simp
  · -- What was followed ends in a wrapper, so there is no name that could be ignored.
    have hroot : (s.introspectedField f).type.root? = some (s.introspectedField f).type.innermost :=
      TypeRef.root?_eq_innermost (length_inner_typeRef s f.2)
    have hnull : (s.introspectedField f).type.innermost.name = .null :=
      (forall_mem_links_of_not_followed hfollowed _ List.getLastD_mem_cons).2
    have hkept : hasLine o f = true := by
      simp [hasLine, hfollowed]
    rw [Flow.fieldMember_of_root o hroot, hnull, hline, if_pos hkept]
    rfl

/-- The lines of some fields, in the order of their texts. -/
def linesOf (s : TypeSystem) (o : Options) (fields : List (String × TypeExpr)) : List Member :=
  Flow.sortMembers
    ((fields.filter (hasLine o)).map fun f => lineWith f (s.introspectedExpression o f.2))

theorem fieldMembers_introspectedField (s : TypeSystem) (o : Options)
    (fields : List (String × TypeExpr)) :
    Flow.fieldMembers o (fields.map s.introspectedField) = .ok (s.linesOf o fields) := by
  have hmembers : fields.mapM (Flow.fieldMember o ∘ s.introspectedField) = .ok (fields.map fun f =>
      if hasLine o f then some (lineWith f (s.introspectedExpression o f.2)) else none) :=
    Outcome.mapM_eq_ok_map fun f _ => fieldMember_introspectedField s o f
  have hlines : (fields.filter (hasLine o)).map (fun f =>
      lineWith f (s.introspectedExpression o f.2)) = fields.filterMap fun f =>
        if hasLine o f then some (lineWith f (s.introspectedExpression o f.2)) else none := by
    rw [← List.filterMap_eq_map', List.filterMap_filter]
  rw [Flow.fieldMembers_eq_map, List.mapM_map, hmembers, linesOf, hlines]
  simp [Functor.map, Except.map, List.filterMap_map]

/-! ## Types -/

theorem ownFields_toType (s : TypeSystem) (t : TypeDecl) :
    (s.toType t).ownFields = t.shape.typedFields.map s.introspectedField := by
  rw [toType]
  cases t.shape with
  | object interfaces fields =>
      simp [TypeDef.ownFields, TypeDef.isInput, Shape.kind, Shape.typedFields, toField,
        introspectedField]
  | interface interfaces fields =>
      simp [TypeDef.ownFields, TypeDef.isInput, Shape.kind, Shape.typedFields, toField,
        introspectedField]
  | input fields =>
      simp [TypeDef.ownFields, TypeDef.isInput, Shape.kind, Shape.typedFields, toInputField,
        introspectedField]
  | _ => rfl

/-- The members of the structure of a type. -/
def membersOf (s : TypeSystem) (o : Options) (shape : Shape) : List Member :=
  if shape.kind = .inputObject then s.linesOf o shape.typedFields
  else Flow.typenameMember :: s.linesOf o shape.typedFields

theorem structuralBody_toType (s : TypeSystem) (o : Options) (t : TypeDecl) :
    Flow.structuralBody o (s.toType t) = .ok (.members (s.membersOf o t.shape)) := by
  rw [Flow.structuralBody_eq_map, ownFields_toType, fieldMembers_introspectedField, membersOf,
    TypeDef.isInput, kind_toType]
  simp [Functor.map, Except.map]

theorem typeBody_toType {t : TypeDecl} (h : t.shape.isStructure = true) :
    Flow.typeBody o (s.toType t) = .ok (.members (s.membersOf o t.shape)) := by
  rw [← structuralBody_toType, Flow.typeBody, kind_toType]
  cases hshape : t.shape with
  | object interfaces fields => rfl
  | input fields => rfl
  | _ =>
      rw [hshape] at h
      cases h

theorem succeeds_eligibleDeclaration_toType (s : TypeSystem) (o : Options) (t : TypeDecl) :
    Outcome.Succeeds (Flow.eligibleDeclaration o (s.toType t)) := by
  apply Flow.succeeds_eligibleDeclaration
  · exact ⟨_, Flow.isEligible_of_text o (name_toType s t)⟩
  · intro
    apply Flow.succeeds_typeBody
    · apply Flow.succeeds_possibleNames
      intro ref href
      obtain ⟨name, rfl⟩ := exists_link_of_mem_possibleTypes href
      exact ⟨_, Flow.possibleName_of_text o rfl⟩
    · rw [ownFields_toType, fieldMembers_introspectedField]
      exact Outcome.succeeds_ok _

/-- A field whose name is not ignored has a line. -/
theorem lineWith_mem_membersOf {shape : Shape} {f : String × TypeExpr}
    (hf : f ∈ shape.typedFields) (hbase : f.2.base ∉ o.ignored) :
    lineWith f (s.introspectedExpression o f.2) ∈ s.membersOf o shape := by
  have hline : hasLine o f = true := by
    simp [hasLine, hbase]
  have hmem : lineWith f (s.introspectedExpression o f.2) ∈ s.linesOf o shape.typedFields := by
    rw [linesOf, Flow.sortMembers, List.mem_mergeSort]
    exact List.mem_map_of_mem (List.mem_filter.mpr ⟨hf, hline⟩)
  rw [membersOf]
  split_ifs
  · exact hmem
  · exact List.mem_cons_of_mem _ hmem

/-! ## Schemas -/

theorem exists_declarations_toSchema (s : TypeSystem) (o : Options) :
    ∃ results, (s.types.map s.toType).mapM (Flow.eligibleDeclaration o) = .ok results ∧
      Flow.declarations o s.toSchema =
        .ok (Flow.envelope o s.toSchema ++ results.filterMap id) := by
  obtain ⟨results, hresults⟩ := Outcome.succeeds_mapM_iff.mpr fun t ht => by
    obtain ⟨decl, -, rfl⟩ := List.mem_map.mp ht
    exact succeeds_eligibleDeclaration_toType s o decl
  exact ⟨results, hresults, Flow.declarations_eq_ok_iff.mpr ⟨results, hresults, rfl⟩⟩

/-- A structure of a name that is neither reserved nor ignored is declared with its members. -/
theorem exists_declaration_of_structure {t : TypeDecl} (ht : t ∈ s.types)
    (hfree : TypeDef.reservedName t.name = false) (hkept : t.name ∉ o.ignored)
    (hstructure : t.shape.isStructure = true) {ds : List Flow.Declaration}
    (hds : Flow.declarations o s.toSchema = .ok ds) :
    ∃ d ∈ ds, d.name = t.name ++ o.suffix ∧ d.body = .members (s.membersOf o t.shape) := by
  obtain ⟨results, hresults, hdeclarations⟩ := exists_declarations_toSchema s o
  rw [hdeclarations] at hds
  cases hds
  have hkind : (s.toType t).kind = .object ∨ (s.toType t).kind = .inputObject := by
    rw [kind_toType]
    cases hshape : t.shape <;> simp [hshape, Shape.isStructure, Shape.kind] at hstructure ⊢
  have hdeclares : Flow.declares o (s.toType t) = true := by
    refine Flow.declares_iff.mpr ⟨Flow.isEligible_eq_true_iff.mpr ⟨t.name, name_toType s t,
      hfree, hkept⟩, ?_⟩
    rcases hkind with hkind | hkind <;> simp [hkind, Flow.isDeclaredKind]
  have hname : Flow.declaredName o (s.toType t) = t.name ++ o.suffix := by
    rw [Flow.declaredName, Flow.generatedName, name_toType]
    rcases hkind with hkind | hkind <;> simp [hkind, Flow.typeName, Value.display]
  refine ⟨_, List.mem_append_right _ ((Flow.mem_typeDeclarations_iff hresults).mpr
    ⟨_, List.mem_map_of_mem ht, hdeclares, _, typeBody_toType hstructure, rfl⟩), hname, rfl⟩

/-! ## Shapes that are kept -/

theorem inArrays_any_eq_iff {e : Flow.TypeExpr} (he : ∀ item, e ≠ .array item) {m n : Nat} :
    (Flow.TypeExpr.primitive .any).inArrays m = e.inArrays n ↔ e = .primitive .any ∧ n = m := by
  induction n generalizing m with
  | zero =>
      cases m with
      | zero => simp [Flow.TypeExpr.inArrays, eq_comm]
      | succ m =>
          refine iff_of_false ?_ (by simp)
          exact fun h => he _ h.symm
  | succ n ih =>
      cases m with
      | zero => simp [Flow.TypeExpr.inArrays]
      | succ m => simp [Flow.TypeExpr.inArrays, ih]

theorem baseExpression_ne_array (s : TypeSystem) (o : Options) (name : String) :
    ∀ item, s.baseExpression o name ≠ .array item := by
  intro item
  rw [baseExpression]
  split <;> simp

/-- Whether a type keeps its shape: it is followed to its name, or it is one of anything and no list
bracket of it is cut off. -/
def KeepsShape (s : TypeSystem) (o : Options) (type : TypeExpr) : Prop :=
  type.IsFollowed ∨
    (s.baseExpression o type.base = .primitive .any ∧
      bracketCount (type.wrapping.drop (queriedSteps + 1)) = 0)

theorem introspectedExpression_eq_iff {type : TypeExpr} :
    s.introspectedExpression o type = s.shapedExpression o type ↔ s.KeepsShape o type := by
  rw [introspectedExpression, KeepsShape]
  split_ifs with h
  · simp [h]
  · -- The arrays that are missing are those of the brackets beyond the steps of introspection.
    have hcount : bracketCount type.wrapping =
        bracketCount (type.wrapping.take (queriedSteps + 1)) +
          bracketCount (type.wrapping.drop (queriedSteps + 1)) := by
      rw [bracketCount, bracketCount, bracketCount, ← List.countP_append, List.take_append_drop]
    rw [cutExpression, shapedExpression, inArrays_any_eq_iff (baseExpression_ne_array s o _),
      hcount]
    simp [h]

end TypeSystem

open TypeSystem (lineWith)

/-- Every object and every input object of a text is declared with the lines of its fields, and the
line of a field has the shape of its type exactly if the type keeps its shape. -/
theorem exists_lines_of_build {toolkit : Toolkit} (htelling : toolkit.IsTelling) {text : String}
    {s : TypeSystem} (hbuild : toolkit.build text = .ok s) {document : Value}
    (hintrospect : toolkit.introspect s = .ok document) (o : Options) :
    ∃ schema ds, Load.readDefinitions toolkit text = .ok schema ∧
      Flow.declarations o schema = .ok ds ∧
      ∀ t ∈ s.types, TypeDef.reservedName t.name = false → t.name ∉ o.ignored →
        t.shape.isStructure = true →
          ∃ d ∈ ds, d.name = t.name ++ o.suffix ∧ d.body = .members (s.membersOf o t.shape) ∧
            ∀ f ∈ t.shape.typedFields, f.2.base ∉ o.ignored →
              lineWith f (s.introspectedExpression o f.2) ∈ s.membersOf o t.shape ∧
                (s.introspectedExpression o f.2 = s.shapedExpression o f.2 ↔
                  s.KeepsShape o f.2) := by
  obtain ⟨results, -, hds⟩ := TypeSystem.exists_declarations_toSchema s o
  refine ⟨_, _, Load.readDefinitions_of_isTelling htelling hbuild hintrospect, hds, ?_⟩
  intro t ht hfree hkept hstructure
  obtain ⟨d, hd, hname, hbody⟩ :=
    TypeSystem.exists_declaration_of_structure ht hfree hkept hstructure hds
  refine ⟨d, hd, hname, hbody, ?_⟩
  intro f hf hbase
  exact ⟨TypeSystem.lineWith_mem_membersOf hf hbase, TypeSystem.introspectedExpression_eq_iff⟩

/-! ## Ten brackets -/

/-- A type inside of a number of list brackets. -/
def TypeExpr.inBrackets (type : TypeExpr) : Nat → TypeExpr
  | 0 => type
  | n + 1 => .list (type.inBrackets n)

/-- A query with two brackets and an input object with ten. -/
def nestedText : String :=
  "type Query { a: [[Int!]]! } input Nest { b: [[[[[[[[[[Int]]]]]]]]]] }"

def nestedQuery : TypeDecl where
  name := "Query"
  shape := .object [] [{ name := "a", type := .nonNull (.list (.list (.nonNull (.named "Int")))) }]

/-- The input object of the text. -/
def nestedInput : TypeDecl where
  name := "Nest"
  shape := .input [{ name := "b", type := (TypeExpr.named "Int").inBrackets 10 }]

/-- The definitions of the text. -/
def nestedDocument : Document :=
  [.type false nestedQuery, .type false nestedInput]

/-- The type system of the text. -/
def nestedTypes : TypeSystem :=
  .ofDocument nestedDocument

def nestedTokens : List Token :=
  List.flatten [
    [.name "type", .name "Query", .punctuator '{', .name "a", .punctuator ':'],
    List.replicate 2 (.punctuator '['),
    [.name "Int", .punctuator '!'],
    List.replicate 2 (.punctuator ']'),
    [.punctuator '!', .punctuator '}'],
    [.name "input", .name "Nest", .punctuator '{', .name "b", .punctuator ':'],
    List.replicate 10 (.punctuator '['),
    [.name "Int"],
    List.replicate 10 (.punctuator ']'),
    [.punctuator '}']]

theorem tokens_nestedText : tokens nestedText = some nestedTokens := by
  decide +kernel

theorem parse_nestedText : parse nestedText = some nestedDocument := by
  rw [parse, tokens_nestedText]
  rfl

theorem build_nestedText : standardToolkit.build nestedText = .ok nestedTypes :=
  build_eq_ok_iff.mpr ⟨_, parse_nestedText, ⟨by decide +kernel, by decide +kernel⟩, rfl⟩

theorem introspect_nestedTypes :
    standardToolkit.introspect nestedTypes = .ok (FlowDecl.Document.write nestedTypes.toSchema) :=
  introspect_eq_ok_iff.mpr ⟨by decide +kernel, by decide +kernel, rfl⟩

theorem nestedQuery_mem_types : nestedQuery ∈ nestedTypes.types := by
  have hfirst : nestedTypes.types[0]? = some nestedQuery := by rfl
  exact List.mem_of_getElem? hfirst

theorem nestedInput_mem_types : nestedInput ∈ nestedTypes.types := by
  have hthird : nestedTypes.types[2]? = some nestedInput := by rfl
  exact List.mem_of_getElem? hthird

/-- The field with two brackets keeps its shape, and the one with ten loses its name. -/
theorem exists_lines_nestedText :
    standardToolkit.IsTelling ∧ standardToolkit.build nestedText = .ok nestedTypes ∧
      (∃ document, standardToolkit.introspect nestedTypes = .ok document) ∧
      ∃ schema ds, Load.readDefinitions standardToolkit nestedText = .ok schema ∧
        Flow.declarations {} schema = .ok ds ∧
        (∃ d ∈ ds, d.name = "Query" ∧ ∃ members, d.body = .members members ∧
          .property "a" false (.array (.array (.primitive .number))) ∈ members) ∧
        ∃ d ∈ ds, d.name = "Nest" ∧ ∃ members, d.body = .members members ∧
          .property "b" true ((Flow.TypeExpr.primitive .any).inArrays 10) ∈ members := by
  have htelling := FlowDecl.Document.isTelling_standardToolkit
  obtain ⟨schema, ds, hread, hds, hlines⟩ :=
    exists_lines_of_build htelling build_nestedText introspect_nestedTypes {}
  refine ⟨htelling, build_nestedText, ⟨_, introspect_nestedTypes⟩, schema, ds, hread, hds, ?_, ?_⟩
  · obtain ⟨d, hd, hname, hbody, hfields⟩ :=
      hlines nestedQuery nestedQuery_mem_types (by decide) (by decide) rfl
    refine ⟨d, hd, hname, _, hbody, ?_⟩
    exact (hfields _ List.mem_cons_self (by decide)).1
  · obtain ⟨d, hd, hname, hbody, hfields⟩ :=
      hlines nestedInput nestedInput_mem_types (by decide) (by decide) rfl
    refine ⟨d, hd, hname, _, hbody, ?_⟩
    exact (hfields _ List.mem_cons_self (by decide)).1

theorem body_of_nestedInput {ds : List Flow.Declaration}
    (hds : Flow.declarations {} nestedTypes.toSchema = .ok ds) {d : Flow.Declaration} (hd : d ∈ ds)
    (hname : d.name = "Nest") :
    d.body = .members [.property "b" true ((Flow.TypeExpr.primitive .any).inArrays 10)] := by
  have hall : ((Flow.declarations {} nestedTypes.toSchema).toOption.all fun ds =>
      ds.all fun d => d.name != "Nest" || d.body = .members
        [.property "b" true ((Flow.TypeExpr.primitive .any).inArrays 10)]) = true := by
    decide +kernel
  rw [hds] at hall
  have hbody := List.all_eq_true.mp hall d hd
  simpa [hname] using hbody

/-- A field with ten brackets has a line without the name of its type. -/
theorem exists_lost_name :
    ¬∀ toolkit : Toolkit, toolkit.IsTelling → ∀ (text : String) (s : TypeSystem) (document : Value),
      toolkit.build text = .ok s → toolkit.introspect s = .ok document →
      ∀ o : Options, ∃ schema ds, Load.readDefinitions toolkit text = .ok schema ∧
        Flow.declarations o schema = .ok ds ∧
        ∀ t ∈ s.types, TypeDef.reservedName t.name = false → t.name ∉ o.ignored →
          t.shape.isStructure = true →
            ∃ d ∈ ds, d.name = t.name ++ o.suffix ∧ ∃ members, d.body = .members members ∧
              ∀ f ∈ t.shape.typedFields, f.2.base ∉ o.ignored →
                f.2.wrapping.length ≤ maxDepth →
                  lineWith f (s.shapedExpression o f.2) ∈ members := by
  intro h
  have htelling := FlowDecl.Document.isTelling_standardToolkit
  obtain ⟨schema, ds, hread, hds, hlines⟩ :=
    h _ htelling _ _ _ build_nestedText introspect_nestedTypes {}
  rw [Load.readDefinitions_of_isTelling htelling build_nestedText introspect_nestedTypes] at hread
  cases hread
  obtain ⟨d, hd, hname, members, hbody, hfields⟩ :=
    hlines nestedInput nestedInput_mem_types (by decide) (by decide) rfl
  have hline := hfields _ List.mem_cons_self (by decide) (by decide)
  rw [body_of_nestedInput hds hd hname] at hbody
  cases hbody
  exact absurd hline (by decide +kernel)

end Sdl
end FlowDecl
