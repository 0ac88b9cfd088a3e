import FlowDecl.Proofs.Flow.FieldOrder
import FlowDecl.Proofs.Flow.Unambiguity

/-!
# The order of names

Lines are sorted by their whole texts, but where the names of fields are different names of GraphQL
two lines are told apart before their types begin.  What ends a name in a line, a colon or a
question mark, stands between the digits and the letters.  So a name that goes on with a digit comes
before the name that it continues and one that goes on with a letter comes after it, whichever of
the two marks ends the shorter one.

Hence the order of the names in the lines of some fields is that of the names with a colon after
each, and nothing but the names that are kept has a part in it.
-/

namespace FlowDecl

open Json (Value)

namespace Flow

/-! ## What ends a name -/

/-- The two characters that end the name in a line. -/
def IsMark (c : Char) : Prop :=
  c = ':' ∨ c = '?'

theorem IsMark.isNamePart_eq {mark : Char} (h : IsMark mark) : Sdl.isNamePart mark = false := by
  rcases h with rfl | rfl
  · decide
  · decide

/-- A character of a name comes before both marks or after both. -/
theorem lt_or_lt_of_isNamePart {c : Char} (h : Sdl.isNamePart c = true) : c < ':' ∨ '?' < c := by
  have hcolon : ':'.val.toNat = 58 := rfl
  have hquestion : '?'.val.toNat = 63 := rfl
  have hranges : (((decide ('A'.val ≤ c.val ∧ c.val ≤ 'Z'.val) ||
      (decide ('a'.val ≤ c.val) && decide (c.val ≤ 'z'.val))) ||
        (decide ('0'.val ≤ c.val) && decide (c.val ≤ '9'.val))) || decide (c = '_')) = true := h
  simp only [Bool.or_eq_true, Bool.and_eq_true, decide_eq_true_eq, UInt32.le_iff_toNat_le]
    at hranges
  rw [Char.lt_def, Char.lt_def, UInt32.lt_iff_toNat_lt, UInt32.lt_iff_toNat_lt]
  rcases hranges with ((⟨hlow, -⟩ | ⟨hlow, -⟩) | ⟨-, hhigh⟩) | rfl
  · have hlow' : 65 ≤ c.val.toNat := hlow
    omega
  · have hlow' : 97 ≤ c.val.toNat := hlow
    omega
  · have hhigh' : c.val.toNat ≤ 57 := hhigh
    omega
  · right
    decide

section Marks

variable {c mark : Char} (hc : Sdl.isNamePart c = true) (hmark : IsMark mark)

include hc hmark

theorem lt_mark_iff : c < mark ↔ c < ':' := by
  have hsides := lt_or_lt_of_isNamePart hc
  rcases hmark with rfl | rfl
  · exact Iff.rfl
  · have hbetween : ':' < '?' := by decide
    constructor
    · intro h
      exact hsides.resolve_right (Char.lt_asymm h)
    · intro h
      exact Char.lt_trans h hbetween

theorem mark_lt_iff : mark < c ↔ ':' < c := by
  have hsides := lt_or_lt_of_isNamePart hc
  rcases hmark with rfl | rfl
  · exact Iff.rfl
  · have hbetween : ':' < '?' := by decide
    constructor
    · intro h
      exact Char.lt_trans hbetween h
    · intro h
      exact hsides.resolve_left (Char.lt_asymm h)

end Marks

/-- Different names with marks after them are in the order of the names with a colon after each,
whatever the marks are and whatever follows them. -/
theorem append_mark_lt_iff {a b : List Char} (ha : ∀ c ∈ a, Sdl.isNamePart c = true)
    (hb : ∀ c ∈ b, Sdl.isNamePart c = true) (hne : a ≠ b) {mark mark' : Char}
    (hmark : IsMark mark) (hmark' : IsMark mark') (rest rest' : List Char) :
    a ++ mark :: rest < b ++ mark' :: rest' ↔ a ++ [':'] < b ++ [':'] := by
  induction a generalizing b with
  | nil =>
      cases b with
      | nil => exact absurd rfl hne
      | cons d b =>
          have hd : Sdl.isNamePart d = true := hb d List.mem_cons_self
          have hmarkne : mark ≠ d := (ne_of_isNamePart hd hmark.isNamePart_eq).symm
          have hcolonne : ':' ≠ d := (ne_of_isNamePart hd (by decide)).symm
          simp only [List.nil_append, List.cons_append, List.cons_lt_cons_iff, hmarkne, hcolonne,
            false_and, or_false]
          exact mark_lt_iff hd hmark
  | cons c a ih =>
      have hc : Sdl.isNamePart c = true := ha c List.mem_cons_self
      cases b with
      | nil =>
          have hmarkne : c ≠ mark' := ne_of_isNamePart hc hmark'.isNamePart_eq
          have hcolonne : c ≠ ':' := ne_of_isNamePart hc (by decide)
          simp only [List.nil_append, List.cons_append, List.cons_lt_cons_iff, hmarkne, hcolonne,
            false_and, or_false]
          exact lt_mark_iff hc hmark'
      | cons d b =>
          simp only [List.cons_append, List.cons_lt_cons_iff]
          refine or_congr_right (and_congr_right ?_)
          rintro rfl
          have hrest : a ≠ b := fun h => hne (congrArg (List.cons c) h)
          exact ih (List.forall_mem_cons.mp ha).2 (List.forall_mem_cons.mp hb).2 hrest

/-! ## Names in lines -/

/-- The order of names in lines. -/
def NameLe (a b : String) : Prop :=
  a ++ ":" ≤ b ++ ":"

theorem nameLe_iff {a b : String} :
    NameLe a b ↔ ¬b.toList ++ [':'] < a.toList ++ [':'] := by
  have hcolon : ":".toList = [':'] := rfl
  rw [NameLe, ← String.not_lt, String.lt_iff, String.toList_append, String.toList_append, hcolon]

theorem NameLe.antisymm {a b : String} (hab : NameLe a b) (hba : NameLe b a) : a = b := by
  have hsame := String.le_antisymm hab hba
  have hlists := congrArg String.toList hsame
  rw [String.toList_append, String.toList_append] at hlists
  exact String.toList_injective (List.append_cancel_right hlists)

/-- The names that some lines begin with. -/
def lineNames (texts : List String) : List String :=
  texts.map fun text => firstWord text.toList

/-- A text that begins with a word and a mark after it. -/
def IsNamedLine (text : String) : Prop :=
  IsWord (firstWord text.toList) ∧
    ∃ mark rest, IsMark mark ∧ text.toList = (firstWord text.toList).toList ++ mark :: rest

theorem nameLe_of_le {text text' : String} (h : IsNamedLine text) (h' : IsNamedLine text')
    (hle : text ≤ text') :
    NameLe (firstWord text.toList) (firstWord text'.toList) := by
  obtain ⟨hword, mark, rest, hmark, htext⟩ := h
  obtain ⟨hword', mark', rest', hmark', htext'⟩ := h'
  rw [nameLe_iff]
  intro hlt
  have hne : (firstWord text'.toList).toList ≠ (firstWord text.toList).toList := by
    intro heq
    rw [heq] at hlt
    exact List.lt_irrefl _ hlt
  have hlines : text'.toList < text.toList := by
    rw [htext, htext']
    exact (append_mark_lt_iff hword'.plain hword.plain hne hmark' hmark rest' rest).mpr hlt
  exact String.not_lt.mpr hle (String.lt_iff.mpr hlines)

/-- The names of sorted lines are sorted. -/
theorem pairwise_lineNames {texts : List String} (hsorted : texts.Pairwise (· ≤ ·))
    (hlines : ∀ text ∈ texts, IsNamedLine text) :
    (lineNames texts).Pairwise NameLe := by
  rw [lineNames, List.pairwise_map]
  refine hsorted.imp_of_mem ?_
  intro text text' htext htext' hle
  exact nameLe_of_le (hlines text htext) (hlines text' htext') hle

/-- The line of a field with a word for a name begins with that name. -/
theorem text_memberOf {f : Field} (hname : IsWord f.name.display) (e : TypeExpr) :
    firstWord (memberOf f e).text.toList = f.name.display ∧ IsNamedLine (memberOf f e).text := by
  have htext : ∃ mark rest, IsMark mark ∧
      (memberOf f e).text.toList = f.name.display.toList ++ mark :: rest := by
    rw [memberOf, Member.text]
    cases f.type.isNonNull with
    | true => exact ⟨':', _, Or.inl rfl, by simp; rfl⟩
    | false => exact ⟨'?', _, Or.inr rfl, by simp; rfl⟩
  obtain ⟨mark, rest, hmark, htext⟩ := htext
  have hfirst : firstWord (memberOf f e).text.toList = f.name.display := by
    rw [htext, hname.firstWord_append hmark.isNamePart_eq]
  refine ⟨hfirst, ?_, mark, rest, hmark, ?_⟩
  · rw [hfirst]
    exact hname
  · rw [hfirst, htext]

/-! ## Names of fields -/

def keptNames (o : Options) (fields : List Field) : List String :=
  (fields.filter (keepsField o)).map fun f => f.name.display

/-- The names of the fields that are kept, each with whether the field is never null. -/
def keptPairs (o : Options) (fields : List Field) : List (Value × Bool) :=
  (fields.filter (keepsField o)).map fun f => (f.name, f.type.isNonNull)

/-- Fields with different names of GraphQL, none of which is too deep. -/
structure HaveLines (o : Options) (fields : List Field) : Prop where
  names : ∀ f ∈ fields, IsGraphQLName f.name
  apart : fields.Pairwise fun f g => f.name ≠ g.name
  plain : ∀ f ∈ fields, f.HasPlainLinks
  shallow : fieldTexts o fields ≠ .error .tooDeep

theorem lineNames_of_forall₂ {o : Options} {fields : List Field} {lines : List Member}
    (hnames : ∀ f ∈ fields, IsGraphQLName f.name)
    (h : List.Forall₂ (IsLineOf o) fields lines) :
    lineNames (lines.map Member.text) = (fields.map fun f => f.name.display) ∧
      ∀ line ∈ lines, IsNamedLine line.text := by
  induction h with
  | nil => exact ⟨rfl, by simp⟩
  | @cons f line fields lines hline _ ih =>
      obtain ⟨hf, hrest⟩ := List.forall_mem_cons.mp hnames
      obtain ⟨hfields, hlines⟩ := ih hrest
      obtain ⟨e, -, rfl⟩ := hline
      obtain ⟨hfirst, hnamed⟩ := text_memberOf (isWord_display hf) e
      refine ⟨?_, List.forall_mem_cons.mpr ⟨hnamed, hlines⟩⟩
      rw [List.map_cons, lineNames, List.map_cons, hfirst, List.map_cons, ← hfields, lineNames]

/-- The names in the lines of fields are the names that are kept, sorted. -/
theorem exists_fieldTexts {o : Options} {fields : List Field} (h : HaveLines o fields) :
    ∃ texts, fieldTexts o fields = .ok texts ∧ (lineNames texts).Pairwise NameLe ∧
      (lineNames texts).Perm (keptNames o fields) := by
  cases htexts : fieldTexts o fields with
  | error fault =>
      rw [eq_tooDeep_of_fieldTexts h.plain htexts] at htexts
      exact absurd htexts h.shallow
  | ok texts =>
      obtain ⟨hsorted, lines, hlines, hperm⟩ := pairwise_and_perm_of_fieldTexts htexts
      have hkept : ∀ f ∈ fields.filter (keepsField o), IsGraphQLName f.name :=
        fun f hf => h.names f (List.mem_of_mem_filter hf)
      obtain ⟨hnames, hnamed⟩ := lineNames_of_forall₂ hkept hlines
      refine ⟨texts, rfl, pairwise_lineNames hsorted ?_, ?_⟩
      · intro text htext
        obtain ⟨line, hline, rfl⟩ := List.mem_map.mp (hperm.subset htext)
        exact hnamed line hline
      · rw [keptNames, ← hnames]
        exact hperm.map _

theorem nodup_keptNames {o : Options} {fields : List Field} (h : HaveLines o fields) :
    (keptNames o fields).Nodup := by
  rw [keptNames, List.Nodup, List.pairwise_map]
  refine (h.apart.filter _).imp_of_mem ?_
  intro f g hf hg hne heq
  obtain ⟨a, ha, -⟩ := h.names f (List.mem_of_mem_filter hf)
  obtain ⟨b, hb, -⟩ := h.names g (List.mem_of_mem_filter hg)
  rw [ha, hb] at hne heq
  exact hne (congrArg Value.str heq)

theorem mem_keptNames_iff {o : Options} {fields : List Field} {name : String} :
    name ∈ keptNames o fields ↔ ∃ pair ∈ keptPairs o fields, pair.1.display = name := by
  simp [keptNames, keptPairs]

theorem perm_keptNames {o o' : Options} {fields fields' : List Field}
    (h : HaveLines o fields) (h' : HaveLines o' fields')
    (hsame : ∀ pair, pair ∈ keptPairs o fields ↔ pair ∈ keptPairs o' fields') :
    (keptNames o fields).Perm (keptNames o' fields') := by
  rw [List.perm_ext_iff_of_nodup (nodup_keptNames h) (nodup_keptNames h')]
  intro name
  simp only [mem_keptNames_iff, hsame]

/-- Both lists of fields have lines, and the names in them are the same in the same order: those of
the fields that are kept. -/
def NamesAgree (o o' : Options) (fields fields' : List Field) : Prop :=
  ∃ texts texts', fieldTexts o fields = .ok texts ∧ fieldTexts o' fields' = .ok texts' ∧
    lineNames texts = lineNames texts' ∧ (lineNames texts).Perm (keptNames o fields)

theorem namesAgree_of_keptPairs {o o' : Options} {fields fields' : List Field}
    (h : HaveLines o fields) (h' : HaveLines o' fields')
    (hsame : ∀ pair, pair ∈ keptPairs o fields ↔ pair ∈ keptPairs o' fields') :
    NamesAgree o o' fields fields' := by
  obtain ⟨texts, htexts, hsorted, hperm⟩ := exists_fieldTexts h
  obtain ⟨texts', htexts', hsorted', hperm'⟩ := exists_fieldTexts h'
  have hnames : (lineNames texts).Perm (lineNames texts') :=
    hperm.trans ((perm_keptNames h h' hsame).trans hperm'.symm)
  refine ⟨texts, texts', htexts, htexts', ?_, hperm⟩
  apply hnames.eq_of_pairwise _ hsorted hsorted'
  intro a b _ _ hab hba
  exact hab.antisymm hba

/-! ## Other types and other options -/

/-- The same field with another type, which is never null exactly if the first one is, and ignored
exactly if the first one is. -/
structure Retypes (o : Options) (f f' : Field) : Prop where
  name : f'.name = f.name
  nonNull : f'.type.isNonNull = f.type.isNonNull
  kept : keepsField o f' = keepsField o f

theorem keepsField_congr {o o' : Options} (h : ∀ name, name ∈ o.ignored ↔ name ∈ o'.ignored) :
    keepsField o = keepsField o' := by
  have hignores (name : Value) : o.ignores name = o'.ignores name := by
    cases name with
    | str text =>
        rw [Options.ignores, Options.ignores, Bool.eq_iff_iff, List.contains_iff_mem,
          List.contains_iff_mem]
        exact h text
    | _ => rfl
  funext f
  simp only [keepsField, hignores]

theorem keptPairs_of_retypes {o : Options} {fields fields' : List Field}
    (h : List.Forall₂ (Retypes o) fields fields') :
    keptPairs o fields' = keptPairs o fields := by
  induction h with
  | nil => rfl
  | @cons f f' fields fields' hf _ ih =>
      rw [keptPairs, keptPairs, List.filter_cons, List.filter_cons, hf.kept]
      rw [keptPairs, keptPairs] at ih
      split
      · rw [List.map_cons, List.map_cons, hf.name, hf.nonNull, ih]
      · exact ih

/-- The order of the names in lines depends only on which fields are kept and which of them are
never null.  So it is the same for all options that ignore the same names, and for all types that
leave the fields kept and never null as they are. -/
theorem lineNames_independent {o o' : Options} {fields fields' : List Field}
    (h : HaveLines o fields) (h' : HaveLines o' fields') :
    ((∀ pair, pair ∈ keptPairs o fields ↔ pair ∈ keptPairs o' fields') →
      NamesAgree o o' fields fields') ∧
      ((∀ name, name ∈ o.ignored ↔ name ∈ o'.ignored) →
        List.Forall₂ (Retypes o) fields fields' → NamesAgree o o' fields fields') := by
  refine ⟨namesAgree_of_keptPairs h h', ?_⟩
  intro hignored hretypes
  apply namesAgree_of_keptPairs h h'
  intro pair
  have hkept : keptPairs o' fields' = keptPairs o fields := by
    rw [← keptPairs_of_retypes hretypes, keptPairs, keptPairs, keepsField_congr hignored]
  rw [hkept]

/-! ## Names that continue a name -/

/-- Fields with a name and two names that continue it, and one for a secret. -/
def doorFields : List Field :=
  [⟨.str "keys", ⟨{ kind := .list }, [⟨.scalar, .str "ID"⟩]⟩⟩,
    ⟨.str "key", ⟨⟨.scalar, .str "ID"⟩, []⟩⟩,
    ⟨.str "secret", ⟨⟨.object, .str "Secret"⟩, []⟩⟩,
    ⟨.str "key2", ⟨{ kind := .nonNull }, [⟨.object, .str "Key"⟩]⟩⟩]

/-- The same fields with other types. -/
def otherDoorFields : List Field :=
  [⟨.str "keys", ⟨⟨.object, .str "Ring"⟩, []⟩⟩,
    ⟨.str "key", ⟨⟨.enum, .str "Metal"⟩, []⟩⟩,
    ⟨.str "secret", ⟨{ kind := .list }, [⟨.object, .str "Secret"⟩]⟩⟩,
    ⟨.str "key2", ⟨{ kind := .nonNull }, [{ kind := .list }, ⟨.scalar, .str "Int"⟩]⟩⟩]

theorem haveLines_doorFields : HaveLines { ignored := ["Secret"] } doorFields where
  names := by
    simp only [doorFields, List.forall_mem_cons]
    exact ⟨⟨_, rfl, by decide⟩, ⟨_, rfl, by decide⟩, ⟨_, rfl, by decide⟩, ⟨_, rfl, by decide⟩,
      by simp⟩
  apart := by simp [doorFields]
  plain := by simp [doorFields, Field.HasPlainLinks, TypeRef.links, IsPlainName]
  shallow := by
    rw [fieldTexts, Ne, Outcome.map_eq_error_iff, fieldMembers_eq_error_iff]
    decide

theorem haveLines_otherDoorFields :
    HaveLines { ignored := ["Secret"], suffix := "X", exported := true } otherDoorFields where
  names := by
    simp only [otherDoorFields, List.forall_mem_cons]
    exact ⟨⟨_, rfl, by decide⟩, ⟨_, rfl, by decide⟩, ⟨_, rfl, by decide⟩, ⟨_, rfl, by decide⟩,
      by simp⟩
  apart := by simp [otherDoorFields]
  plain := by simp [otherDoorFields, Field.HasPlainLinks, TypeRef.links, IsPlainName]
  shallow := by
    rw [fieldTexts, Ne, Outcome.map_eq_error_iff, fieldMembers_eq_error_iff]
    decide

theorem retypes_doorFields :
    List.Forall₂ (Retypes { ignored := ["Secret"] }) doorFields otherDoorFields :=
  .cons ⟨rfl, rfl, by decide⟩ (.cons ⟨rfl, rfl, by decide⟩ (.cons ⟨rfl, rfl, by decide⟩
    (.cons ⟨rfl, rfl, by decide⟩ .nil)))

theorem lineNames_doorFields :
    HaveLines { ignored := ["Secret"] } doorFields ∧
      HaveLines { ignored := ["Secret"], suffix := "X", exported := true } otherDoorFields ∧
      List.Forall₂ (Retypes { ignored := ["Secret"] }) doorFields otherDoorFields ∧
      NamesAgree { ignored := ["Secret"] }
        { ignored := ["Secret"], suffix := "X", exported := true } doorFields otherDoorFields := by
  have hagree := lineNames_independent haveLines_doorFields haveLines_otherDoorFields
  exact ⟨haveLines_doorFields, haveLines_otherDoorFields, retypes_doorFields,
    hagree.2 (fun _ => Iff.rfl) retypes_doorFields⟩

end Flow
end FlowDecl
