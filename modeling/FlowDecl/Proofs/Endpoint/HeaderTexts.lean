import FlowDecl.Proofs.Endpoint.SentHeaders
import FlowDecl.Proofs.Text.Trimming

/-!
# Header texts

A header text has a name before its first colon and a value after it, both trimmed.  A list of texts
is read unless one of them has no colon or only blanks before it, and the fault tells the first such
text.  The headers that are read have the names in the order in which they first come up, each with
the value that comes up last.

So texts can be read together or in two parts whose headers are combined.
-/

namespace FlowDecl
namespace Endpoint

open Text (IsTrimmed isBlank trimChars)

/-- The name before the first colon of a text and the value after it, both trimmed. -/
def IsHeaderOf (text : String) (header : String × String) : Prop :=
  ∃ before after, text.toList = before ++ ':' :: after ∧ ':' ∉ before ∧
    IsTrimmed before header.1.toList ∧ IsTrimmed after header.2.toList

/-- A text that has no colon, or only blanks before a colon. -/
def IsNameless (text : String) : Prop :=
  ':' ∉ text.toList ∨
    ∃ before after, text.toList = before ++ ':' :: after ∧ ∀ c ∈ before, isBlank c = true

/-- A header whose name does not come up after it. -/
def IsLastOf (pairs : Headers) (name : String) (header : String × String) : Prop :=
  header.1 = name ∧
    ∃ before after, pairs = before ++ header :: after ∧ ∀ other ∈ after, other.1 ≠ name

/-! ## One text -/

theorem splitHeader?_of_notMem {text : String} (h : ':' ∉ text.toList) :
    splitHeader? text = none := by
  have hnone : text.toList.dropWhile (· != ':') = [] := by
    rw [List.dropWhile_eq_nil_iff]
    intro c hc
    rw [bne_iff_ne]
    rintro rfl
    exact h hc
  rw [splitHeader?]
  simp only [hnone]

theorem splitHeader?_of_colon {text : String} {before after : List Char}
    (h : text.toList = before ++ ':' :: after) (hbefore : ':' ∉ before) :
    splitHeader? text =
      some (String.ofList (trimChars before), String.ofList (trimChars after)) := by
  have hne : ∀ c ∈ before, (c != ':') = true := by
    intro c hc
    rw [bne_iff_ne]
    rintro rfl
    exact hbefore hc
  have hname : text.toList.takeWhile (· != ':') = before := by
    rw [h, List.takeWhile_append_of_pos hne]
    simp
  have hvalue : text.toList.dropWhile (· != ':') = ':' :: after := by
    rw [h, List.dropWhile_append_of_pos hne]
    simp
  rw [splitHeader?]
  simp only [hname, hvalue]

theorem splitHeader?_eq_some_iff {text : String} {header : String × String} :
    splitHeader? text = some header ↔ IsHeaderOf text header := by
  constructor
  · intro h
    by_cases hcolon : ':' ∈ text.toList
    · obtain ⟨before, after, hsplit, hbefore⟩ := List.eq_append_cons_of_mem hcolon
      rw [splitHeader?_of_colon hsplit hbefore] at h
      cases h
      refine ⟨before, after, hsplit, hbefore, ?_, ?_⟩
      · rw [String.toList_ofList]
        exact Text.isTrimmed_trimChars before
      · rw [String.toList_ofList]
        exact Text.isTrimmed_trimChars after
    · rw [splitHeader?_of_notMem hcolon] at h
      cases h
  · rintro ⟨before, after, hsplit, hbefore, hname, hvalue⟩
    rw [splitHeader?_of_colon hsplit hbefore, ← hname.eq_trimChars, ← hvalue.eq_trimChars,
      String.ofList_toList, String.ofList_toList]

theorem isHeaderText_iff {text : String} : IsHeaderText text ↔ ¬IsNameless text := by
  by_cases hcolon : ':' ∈ text.toList
  · obtain ⟨before, after, hsplit, hbefore⟩ := List.eq_append_cons_of_mem hcolon
    have hname : IsHeaderText text ↔ ¬∀ c ∈ before, isBlank c = true := by
      rw [IsHeaderText, splitHeader?_of_colon hsplit hbefore, ← Text.trimChars_eq_nil_iff]
      simp
    rw [hname, not_iff_not]
    constructor
    · intro hblank
      exact Or.inr ⟨before, after, hsplit, hblank⟩
    · rintro (hnone | ⟨before', after', hsplit', hblank⟩)
      · exact absurd hcolon hnone
      · -- A colon is not blank, so the colon after blanks is the first one.
        have hbefore' : ':' ∉ before' := by
          intro hmem
          exact absurd (hblank _ hmem) (by decide)
        have hheaders := (splitHeader?_of_colon hsplit hbefore).symm.trans
          (splitHeader?_of_colon hsplit' hbefore')
        have hkept : trimChars before = trimChars before' :=
          String.ofList_injective (Prod.mk.inj (Option.some.inj hheaders)).1
        rw [← Text.trimChars_eq_nil_iff, hkept, Text.trimChars_eq_nil_iff]
        exact hblank
  · have hnone : ¬IsHeaderText text := by
      rintro ⟨header, hheader, -⟩
      rw [splitHeader?_of_notMem hcolon] at hheader
      cases hheader
    exact iff_of_false hnone (not_not.mpr (Or.inl hcolon))

/-- A text that is not nameless is read as its name and its value. -/
theorem exists_header {text : String} (h : ¬IsNameless text) :
    ∃ header, IsHeaderOf text header ∧ readHeader text = .ok header := by
  obtain ⟨header, hheader, hname⟩ := isHeaderText_iff.mpr h
  exact ⟨header, splitHeader?_eq_some_iff.mp hheader, readHeader_of_split hheader hname⟩

theorem readHeader_of_isNameless {text : String} (h : IsNameless text) :
    readHeader text = .error ⟨text⟩ := by
  rw [readHeader]
  cases hheader : splitHeader? text with
  | none => rfl
  | some header =>
      have hname : header.1 = "" := by
        by_contra hne
        exact isHeaderText_iff.mp ⟨header, hheader, hne⟩ h
      exact if_pos hname

theorem succeeds_readHeader_iff {text : String} :
    Outcome.Succeeds (readHeader text) ↔ ¬IsNameless text := by
  constructor
  · rintro ⟨header, hheader⟩ hnameless
    rw [readHeader_of_isNameless hnameless] at hheader
    cases hheader
  · intro h
    obtain ⟨header, -, hread⟩ := exists_header h
    exact ⟨header, hread⟩

/-! ## Lists of texts -/

/-- A list of texts is refused for its first nameless text. -/
theorem readHeaders_eq_error_iff {texts : List String} {fault : HeaderFault} :
    readHeaders texts = .error fault ↔
      ∃ before text after, texts = before ++ text :: after ∧ (∀ t ∈ before, ¬IsNameless t) ∧
        IsNameless text ∧ fault = ⟨text⟩ := by
  rw [readHeaders, Outcome.map_eq_error_iff, Outcome.mapM_eq_error_iff]
  simp only [succeeds_readHeader_iff]
  have hfault (text : String) :
      readHeader text = .error fault ↔ IsNameless text ∧ fault = ⟨text⟩ := by
    by_cases h : IsNameless text
    · rw [readHeader_of_isNameless h]
      simp [h, eq_comm]
    · obtain ⟨header, -, hread⟩ := exists_header h
      rw [hread]
      simp [h]
  simp only [hfault]

theorem exists_pairs {texts : List String} (h : ∀ text ∈ texts, ¬IsNameless text) :
    ∃ pairs, List.Forall₂ IsHeaderOf texts pairs ∧
      readHeaders texts = .ok (Headers.ofList pairs) := by
  have hvalid : ∀ text ∈ texts, IsHeaderText text := by
    intro text htext
    exact isHeaderText_iff.mpr (h text htext)
  refine ⟨texts.filterMap splitHeader?, ?_, readHeaders_of_valid hvalid⟩
  have hread := Outcome.mapM_eq_ok_iff.mp (mapM_readHeader hvalid)
  refine ((List.forall₂_and_left _ _).mpr ⟨h, hread⟩).imp ?_
  rintro text header ⟨htext, hheader⟩
  obtain ⟨header', hheader', hread'⟩ := exists_header htext
  cases hheader.symm.trans hread'
  exact hheader'

/-- Headers hold for each name the last pair with that name. -/
theorem isLastOf_of_mem_ofList {pairs : Headers} {header : String × String}
    (h : header ∈ Headers.ofList pairs) : IsLastOf pairs header.1 header := by
  rw [Headers.mem_iff_lookup (Headers.nodup_names_ofList pairs), Headers.lookup_ofList] at h
  obtain ⟨later, earlier, hsplit, hlater⟩ := List.lookup_eq_some_iff.mp h
  refine ⟨rfl, earlier.reverse, later.reverse, ?_, ?_⟩
  · rw [← List.reverse_reverse pairs, hsplit, List.reverse_append, List.reverse_cons,
      List.append_assoc]
    rfl
  · intro other hother
    exact (bne_iff_ne.mp (hlater other (List.mem_reverse.mp hother))).symm

/-- Headers correspond to the different names of the pairs that they are made of. -/
theorem forall₂_isLastOf_ofList (pairs : Headers) :
    List.Forall₂ (IsLastOf pairs) (Headers.names pairs).eraseDups (Headers.ofList pairs) := by
  rw [← Headers.names_ofList, Headers.names, List.forall₂_map_left_iff, List.forall₂_same]
  exact fun header hheader => isLastOf_of_mem_ofList hheader

theorem toHeaders_combined (first second : Headers) :
    (Credentials.combined [.headers first, .headers second]).toHeaders =
      (Headers.setAll [] first).setAll second := by
  simp only [Credentials.toHeaders, Credentials.combineHeaders]

/-- Two header texts, one with a colon in its value. -/
def keyTexts : List String := ["x-api-key: a:b", "X-Tenant:acme"]

/-- A text with another value for the first name. -/
def newKeyTexts : List String := ["x-api-key : c"]

theorem not_isNameless_keyTexts : ∀ text ∈ keyTexts ++ newKeyTexts, ¬IsNameless text := by
  intro text htext
  rw [← isHeaderText_iff]
  rcases (by simpa [keyTexts, newKeyTexts] using htext : _ ∨ _ ∨ _) with rfl | rfl | rfl
  · exact ⟨("x-api-key", "a:b"), by decide, by decide⟩
  · exact ⟨("X-Tenant", "acme"), by decide, by decide⟩
  · exact ⟨("x-api-key", "c"), by decide, by decide⟩

end Endpoint
end FlowDecl
