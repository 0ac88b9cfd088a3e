import FlowDecl.Proofs.Flow.Members
import FlowDecl.Sdl.Token
import Mathlib.Data.List.Nodup

/-!
# Distinct names

A declaration is named by one of three schemes: the envelope has fixed names, an enum adds `Enum` to
the name of its type, and every other type keeps its name; the suffix of the options ends them all.
Different types can therefore be declared by one name.  With distinct names of types this happens in
two ways only: a type is named like a declaration of the envelope, or like an enum with `Enum` after
it.
-/

namespace FlowDecl
namespace Flow

open Json (Value)

/-- The names of the envelope before the suffix. -/
def envelopeStems : List String :=
  ["GraphQLResponseRoot", "GraphQLResponseError", "GraphQLResponseErrorLocation"]

/-- The name that a type is declared by, before the suffix. -/
def stem (t : TypeDef) : String :=
  if t.kind = .enum then t.name.display ++ "Enum" else t.name.display

theorem names_envelope (o : Options) (s : Schema) :
    (envelope o s).map (·.name) = envelopeStems.map (· ++ o.suffix) :=
  rfl

theorem declaredName_eq_stem (o : Options) (t : TypeDef) :
    declaredName o t = stem t ++ o.suffix := by
  rw [declaredName, generatedName, stem]
  split
  · rfl
  · rfl

/-- The names of all declarations are the stems of the envelope and of the types that are declared,
each with the suffix after it. -/
theorem names_declarations {o : Options} {s : Schema} {ds : List Declaration}
    (h : declarations o s = .ok ds) :
    ds.map (·.name) =
      (envelopeStems ++ (s.types.filter (declares o)).map stem).map (· ++ o.suffix) := by
  obtain ⟨results, hresults, rfl⟩ := declarations_eq_ok_iff.mp h
  rw [List.map_append, names_envelope, names_typeDeclarations hresults, List.map_append,
    List.map_map]
  congr 1
  apply List.map_congr_left
  intro t _
  exact declaredName_eq_stem o t

/-- No type takes a name of the envelope, and none but enums takes the name of an enum. -/
structure NamesApart (o : Options) (s : Schema) : Prop where
  envelope : ∀ t ∈ s.types, declares o t = true → t.kind ≠ .enum →
    ∀ fixed ∈ envelopeStems, t.name ≠ .str fixed
  enums : ∀ e ∈ s.types, declares o e = true → e.kind = .enum →
    ∀ t ∈ s.types, declares o t = true → t.kind ≠ .enum →
      ∀ text, e.name = .str text → t.name ≠ .str (text ++ "Enum")

theorem exists_text_of_declares {o : Options} {t : TypeDef} (h : declares o t = true) :
    ∃ text, t.name = .str text := by
  obtain ⟨heligible, -⟩ := declares_iff.mp h
  obtain ⟨text, htext, -⟩ := isEligible_eq_true_iff.mp heligible
  exact ⟨text, htext⟩

theorem stem_of_enum {t : TypeDef} {text : String}
    (hkind : t.kind = .enum) (htext : t.name = .str text) :
    stem t = text ++ "Enum" := by
  rw [stem, if_pos hkind, htext]
  rfl

theorem stem_of_ne_enum {t : TypeDef} {text : String}
    (hkind : t.kind ≠ .enum) (htext : t.name = .str text) :
    stem t = text := by
  rw [stem, if_neg hkind, htext]
  rfl

/-- No name of the envelope ends like the name of an enum. -/
theorem append_enum_notMem_envelopeStems (text : String) :
    text ++ "Enum" ∉ envelopeStems := by
  have hlast : (text ++ "Enum").toList.getLast? = some 'm' := by
    rw [String.toList_append, List.getLast?_append]
    rfl
  intro h
  have hstems : ∀ fixed ∈ envelopeStems, fixed.toList.getLast? ≠ some 'm' := by decide
  exact hstems _ h hlast

/-- Two types that are declared and have one stem have one name, unless their names clash. -/
theorem NamesApart.name_eq_of_stem_eq {o : Options} {s : Schema} (hapart : NamesApart o s)
    {t u : TypeDef} (ht : t ∈ s.types) (hu : u ∈ s.types)
    (htdeclares : declares o t = true) (hudeclares : declares o u = true)
    (h : stem t = stem u) :
    t.name = u.name := by
  obtain ⟨a, ha⟩ := exists_text_of_declares htdeclares
  obtain ⟨b, hb⟩ := exists_text_of_declares hudeclares
  by_cases htkind : t.kind = .enum
  · by_cases hukind : u.kind = .enum
    · rw [stem_of_enum htkind ha, stem_of_enum hukind hb, String.append_left_inj] at h
      rw [ha, hb, h]
    · rw [stem_of_enum htkind ha, stem_of_ne_enum hukind hb] at h
      exact absurd (h ▸ hb) (hapart.enums t ht htdeclares htkind u hu hudeclares hukind a ha)
  · by_cases hukind : u.kind = .enum
    · rw [stem_of_ne_enum htkind ha, stem_of_enum hukind hb] at h
      exact absurd (h ▸ ha) (hapart.enums u hu hudeclares hukind t ht htdeclares htkind b hb)
    · rw [stem_of_ne_enum htkind ha, stem_of_ne_enum hukind hb] at h
      rw [ha, hb, h]

theorem mem_filter_declares {o : Options} {s : Schema} {t : TypeDef}
    (ht : t ∈ s.types) (hdeclares : declares o t = true) :
    t ∈ s.types.filter (declares o) :=
  List.mem_filter.mpr ⟨ht, hdeclares⟩

/-- Where the stems are distinct, the names are apart. -/
theorem namesApart_of_nodup_stems {o : Options} {s : Schema}
    (h : (envelopeStems ++ (s.types.filter (declares o)).map stem).Nodup) :
    NamesApart o s := by
  obtain ⟨-, hstems, hdisjoint⟩ := List.nodup_append'.mp h
  refine ⟨?_, ?_⟩
  · intro t ht hdeclares hkind fixed hfixed htext
    have hstem : fixed ∈ (s.types.filter (declares o)).map stem :=
      List.mem_map.mpr ⟨t, mem_filter_declares ht hdeclares, stem_of_ne_enum hkind htext⟩
    exact hdisjoint hfixed hstem
  · intro e he hedeclares hekind t ht htdeclares htkind text hetext httext
    have hstem : stem e = stem t := by
      rw [stem_of_enum hekind hetext, stem_of_ne_enum htkind httext]
    have hsame := List.inj_on_of_nodup_map hstems
      (mem_filter_declares he hedeclares) (mem_filter_declares ht htdeclares) hstem
    exact htkind (hsame ▸ hekind)

/-- Where the names of types are distinct and apart, the stems are distinct. -/
theorem nodup_stems_of_namesApart {o : Options} {s : Schema}
    (hnames : (s.types.map (·.name)).Nodup) (hapart : NamesApart o s) :
    (envelopeStems ++ (s.types.filter (declares o)).map stem).Nodup := by
  refine List.nodup_append'.mpr ⟨by decide, ?_, ?_⟩
  · apply List.Nodup.map_on
    · intro t ht u hu hstem
      obtain ⟨ht, htdeclares⟩ := List.mem_filter.mp ht
      obtain ⟨hu, hudeclares⟩ := List.mem_filter.mp hu
      exact List.inj_on_of_nodup_map hnames ht hu
        (hapart.name_eq_of_stem_eq ht hu htdeclares hudeclares hstem)
    · exact (List.Nodup.of_map _ hnames).filter _
  · intro fixed hfixed hstem
    obtain ⟨t, ht, rfl⟩ := List.mem_map.mp hstem
    obtain ⟨ht, hdeclares⟩ := List.mem_filter.mp ht
    obtain ⟨text, htext⟩ := exists_text_of_declares hdeclares
    by_cases hkind : t.kind = .enum
    · rw [stem_of_enum hkind htext] at hfixed
      exact append_enum_notMem_envelopeStems text hfixed
    · rw [stem_of_ne_enum hkind htext] at hfixed
      exact hapart.envelope t ht hdeclares hkind text hfixed htext

/-- With distinct names of types, the declarations of a schema have distinct names exactly if no
type that is declared takes a name of the envelope or of an enum. -/
theorem names_nodup_iff_namesApart {o : Options} {s : Schema} {ds : List Declaration}
    (h : declarations o s = .ok ds) (hnames : (s.types.map (·.name)).Nodup) :
    (ds.map (·.name)).Nodup ↔ NamesApart o s := by
  have hsuffix : Function.Injective fun text : String => text ++ o.suffix :=
    fun a b hab => (String.append_left_inj o.suffix).mp hab
  rw [names_declarations h, List.nodup_map_iff hsuffix]
  exact ⟨namesApart_of_nodup_stems, nodup_stems_of_namesApart hnames⟩

/-! ## An enum and an object -/

/-- An enum of roles, and an object whose name is the one that the enum is declared by. -/
def roleSchema : Schema where
  types := [
    { name := .str "Role", kind := .enum, enumValues := [.str "ADMIN"] },
    { name := .str "RoleEnum", kind := .object }]

theorem nodup_roleSchema : (roleSchema.types.map (·.name)).Nodup := by
  simp [roleSchema]

/-- An object without fields has a structure of one member. -/
theorem typeBody_fieldless (o : Options) {t : TypeDef}
    (hkind : t.kind = .object) (hfields : t.fields = []) :
    typeBody o t = .ok (.members [typenameMember]) := by
  have hmembers : fieldMembers o t.fields = .ok [] := by
    rw [hfields]
    exact fieldMembers_eq_ok_iff.mpr ⟨[], rfl, List.mergeSort_nil⟩
  simp only [typeBody, hkind, structuralBody, TypeDef.isInput, hmembers]
  rfl

/-- The names of the two types are apart if the enum is ignored. -/
theorem namesApart_roleSchema :
    ∃ ds, declarations { ignored := ["Role"] } roleSchema = .ok ds ∧
      ds.map (·.name) = envelopeStems ++ ["RoleEnum"] ∧
        NamesApart { ignored := ["Role"] } roleSchema := by
  have hobject := typeBody_fieldless { ignored := ["Role"] }
    (t := { name := .str "RoleEnum", kind := .object }) rfl rfl
  have hdeclarations : declarations { ignored := ["Role"] } roleSchema =
      .ok (envelope { ignored := ["Role"] } roleSchema ++
        [{ name := "RoleEnum", body := .members [typenameMember] }]) := by
    refine declarations_eq_ok_iff.mpr ⟨[none, some _], ?_, rfl⟩
    refine Outcome.mapM_eq_ok_iff.mpr (.cons rfl (.cons ?_ .nil))
    exact eligibleDeclaration_eq_some_iff.mpr ⟨by decide, _, hobject, rfl⟩
  refine ⟨_, hdeclarations, rfl, ?_⟩
  exact (names_nodup_iff_namesApart hdeclarations nodup_roleSchema).mp (by decide)

theorem declarations_roleSchema :
    declarations {} roleSchema = .ok (envelope {} roleSchema ++
      [{ name := "RoleEnum", body := .literals ["ADMIN"] },
        { name := "RoleEnum", body := .members [typenameMember] }]) := by
  have hobject := typeBody_fieldless {}
    (t := { name := .str "RoleEnum", kind := .object }) rfl rfl
  refine declarations_eq_ok_iff.mpr ⟨[some _, some _], ?_, rfl⟩
  refine Outcome.mapM_eq_ok_iff.mpr (.cons ?_ (.cons ?_ .nil))
  · exact eligibleDeclaration_eq_some_iff.mpr ⟨by decide, .literals ["ADMIN"], rfl, rfl⟩
  · exact eligibleDeclaration_eq_some_iff.mpr ⟨by decide, _, hobject, rfl⟩

/-- Distinct names of types that are names of GraphQL do not make the names of declarations
distinct. -/
theorem exists_clashing_names :
    ¬∀ (o : Options) (s : Schema) (ds : List Declaration),
      (s.types.map (·.name)).Nodup →
        (∀ t ∈ s.types, ∃ text, t.name = .str text ∧ Sdl.isName text = true) →
          declarations o s = .ok ds → (ds.map (·.name)).Nodup := by
  intro h
  have hnodup := h {} roleSchema _ nodup_roleSchema ?_ declarations_roleSchema
  · revert hnodup
    decide
  · intro t ht
    simp only [roleSchema, List.mem_cons, List.not_mem_nil, or_false] at ht
    rcases ht with rfl | rfl
    all_goals exact ⟨_, rfl, by decide⟩

end Flow
end FlowDecl
