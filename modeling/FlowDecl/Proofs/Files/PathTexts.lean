import FlowDecl.Files.Tree
import FlowDecl.Proofs.Text.Pieces

/-!
# Texts of paths

A path that is made of names alone is the text of these names with a slash before each of them.  Its
parts are the names again, its last part is the last name, and what comes before it is the text of
the names above.
-/

namespace FlowDecl
namespace Files

/-! ## Parts -/

theorem parts_append_slash (start rest : List Char) :
    parts (String.ofList (start ++ '/' :: rest)) =
      parts (String.ofList start) ++ parts (String.ofList rest) := by
  simp only [parts, String.toList_ofList, Text.splitOn_append_cons, List.filter_append,
    List.map_append]

theorem parts_of_notMem {cs : List Char} (h : '/' ∉ cs) (hne : cs ≠ []) :
    parts (String.ofList cs) = [String.ofList cs] := by
  rw [parts, String.toList_ofList, Text.splitOn_of_notMem h]
  simp [hne]

/-- A part has some characters of the path and no slash. -/
theorem chars_of_mem_parts {path part : String} (h : part ∈ parts path) :
    part.toList ≠ [] ∧ '/' ∉ part.toList ∧ part.toList ⊆ path.toList := by
  obtain ⟨piece, hpiece, rfl⟩ := List.mem_map.mp h
  obtain ⟨hmem, hfull⟩ := List.mem_filter.mp hpiece
  have hpart := Text.isPiece_of_mem_splitOn hmem
  rw [String.toList_ofList]
  refine ⟨?_, hpart.plain, hpart.subset⟩
  simpa using hfull

/-! ## Names -/

/-- A part of a path that neither stays nor goes up. -/
structure IsName (part : String) : Prop where
  ne_empty : part.toList ≠ []
  ne_dot : part ≠ "."
  ne_dots : part ≠ ".."
  noSlash : '/' ∉ part.toList
  noNull : hasNull part = false

def AreNames (names : List String) : Prop :=
  ∀ name ∈ names, IsName name

namespace AreNames

theorem nil : AreNames [] :=
  List.forall_mem_nil _

theorem of_isPrefix {before names : List String} (h : AreNames names) (hbefore : before <+: names) :
    AreNames before :=
  fun name hname => h name (hbefore.subset hname)

theorem append {names more : List String} (h : AreNames names) (hmore : AreNames more) :
    AreNames (names ++ more) :=
  fun name hname => (List.mem_append.mp hname).elim (h name) (hmore name)

theorem dropLast {names : List String} (h : AreNames names) : AreNames names.dropLast :=
  h.of_isPrefix (List.dropLast_prefix names)

end AreNames

/-- The characters of names, with a slash before each name. -/
def nameChars (names : List String) : List Char :=
  names.flatMap fun name => '/' :: name.toList

/-- The path of names from the top. -/
def pathText (names : List String) : String :=
  if names = [] then "/" else String.ofList (nameChars names)

theorem nameChars_append (names more : List String) :
    nameChars (names ++ more) = nameChars names ++ nameChars more :=
  List.flatMap_append

theorem nameChars_concat (names : List String) (name : String) :
    nameChars (names ++ [name]) = nameChars names ++ '/' :: name.toList := by
  rw [nameChars_append]
  exact congrArg _ (List.flatMap_singleton _ _)

theorem toList_pathText_of_ne {names : List String} (h : names ≠ []) :
    (pathText names).toList = nameChars names := by
  rw [pathText, if_neg h, String.toList_ofList]

theorem toList_pathText_concat (names : List String) (name : String) :
    (pathText (names ++ [name])).toList = nameChars names ++ '/' :: name.toList := by
  rw [toList_pathText_of_ne (List.append_ne_nil_of_right_ne_nil _ (List.cons_ne_nil _ _)),
    nameChars_concat]

theorem parts_nameChars {names : List String} (h : AreNames names) :
    parts (String.ofList (nameChars names)) = names := by
  induction names using List.reverseRecOn with
  | nil => rfl
  | append_singleton names name ih =>
      have hname := h name (by simp)
      rw [nameChars_concat, parts_append_slash, ih (h.of_isPrefix (List.prefix_append _ _)),
        parts_of_notMem hname.noSlash hname.ne_empty, String.ofList_toList]

theorem parts_pathText {names : List String} (h : AreNames names) :
    parts (pathText names) = names := by
  rw [pathText]
  split
  next hnil =>
    rw [hnil]
    rfl
  next => exact parts_nameChars h

/-! ## Above and below -/

theorem baseName_concat (names : List String) {name : String} (h : IsName name) :
    baseName (pathText (names ++ [name])) = name := by
  have hname : ∀ c ∈ name.toList.reverse, (c != '/') = true := by
    intro c hc
    refine bne_iff_ne.mpr ?_
    rintro rfl
    exact h.noSlash (List.mem_reverse.mp hc)
  have hreverse : (nameChars names ++ '/' :: name.toList).reverse =
      name.toList.reverse ++ '/' :: (nameChars names).reverse := by
    simp
  rw [baseName, toList_pathText_concat, hreverse, List.takeWhile_append_of_pos hname]
  simp

/-- The last character of names is that of the last name. -/
theorem head?_reverse_nameChars {names : List String} (h : AreNames names) (hne : names ≠ []) :
    (nameChars names).reverse.dropWhile (· = '/') = (nameChars names).reverse ∧
      nameChars names ≠ [] := by
  obtain ⟨names, name, rfl⟩ := List.eq_nil_or_concat' names |>.resolve_left hne
  have hname := h name (by simp)
  rw [nameChars_concat]
  refine ⟨?_, List.append_ne_nil_of_right_ne_nil _ (List.cons_ne_nil _ _)⟩
  rw [List.reverse_append, List.reverse_cons, List.append_assoc]
  obtain ⟨c, cs, hcs⟩ := List.exists_cons_of_ne_nil (List.reverse_ne_nil_iff.mpr hname.ne_empty)
  have hc : c ≠ '/' := by
    rintro rfl
    refine hname.noSlash (List.mem_reverse.mp ?_)
    rw [hcs]
    exact List.mem_cons_self
  rw [hcs, List.cons_append, List.dropWhile_cons_of_neg (by simpa using hc)]

theorem dirName_concat {names : List String} (h : AreNames names) {name : String}
    (hname : IsName name) : dirName (pathText (names ++ [name])) = pathText names := by
  have hchars : ∀ c ∈ name.toList.reverse, (c != '/') = true := by
    intro c hc
    refine bne_iff_ne.mpr ?_
    rintro rfl
    exact hname.noSlash (List.mem_reverse.mp hc)
  have hreverse : (nameChars names ++ '/' :: name.toList).reverse =
      name.toList.reverse ++ '/' :: (nameChars names).reverse := by
    simp
  have hhead : (name.toList.reverse ++ '/' :: (nameChars names).reverse).dropWhile (· != '/') =
      '/' :: (nameChars names).reverse := by
    rw [List.dropWhile_append_of_pos hchars]
    rfl
  have hbare : ('/' :: (nameChars names).reverse).dropWhile (· = '/') =
      (nameChars names).reverse.dropWhile (· = '/') := rfl
  rw [dirName, toList_pathText_concat, hreverse, hhead, hbare]
  by_cases hne : names = []
  · rw [hne]
    rfl
  · obtain ⟨hdrop, hfull⟩ := head?_reverse_nameChars h hne
    have hsome : (nameChars names).reverse.isEmpty = false := by
      simpa using hfull
    rw [hdrop, hsome, if_neg Bool.false_ne_true, List.reverse_reverse, pathText, if_neg hne]

theorem foldl_below (names more : List String) :
    more.foldl below (String.ofList (nameChars names)) =
      String.ofList (nameChars (names ++ more)) := by
  induction more generalizing names with
  | nil => rw [List.append_nil, List.foldl_nil]
  | cons part rest ih =>
      have hbelow : below (String.ofList (nameChars names)) part =
          String.ofList (nameChars (names ++ [part])) := by
        apply String.toList_injective
        simp [below, nameChars_concat]
      rw [List.foldl_cons, hbelow, ih, List.append_assoc, List.singleton_append]

/-- The full path of a place is the path of its names. -/
theorem fullPath_eq_pathText (names : List String) : fullPath names = pathText names := by
  cases names with
  | nil => rfl
  | cons name rest => exact foldl_below [] (name :: rest)

/-! ## Octets and characters -/

theorem hasNull_pathText {names : List String} (h : AreNames names) :
    hasNull (pathText names) = false := by
  have hchars : ∀ c ∈ nameChars names, c ≠ Char.ofNat 0 := by
    intro c hc
    obtain ⟨name, hname, hc⟩ := List.mem_flatMap.mp hc
    rcases List.mem_cons.mp hc with rfl | hc
    · decide
    · rintro rfl
      have hnull := (h name hname).noNull
      simp [hasNull, hc] at hnull
  rw [pathText]
  split
  next => rfl
  next =>
    rw [hasNull, String.toList_ofList]
    simpa using fun hmem => hchars _ hmem rfl

theorem pathText_ne_empty (names : List String) : pathText names ≠ "" := by
  intro h
  have hchars := congrArg String.toList h
  cases names with
  | nil => cases hchars
  | cons name names =>
      rw [toList_pathText_of_ne (List.cons_ne_nil _ _)] at hchars
      cases hchars

theorem head?_pathText (names : List String) : (pathText names).toList.head? = some '/' := by
  cases names with
  | nil => rfl
  | cons name names =>
      rw [toList_pathText_of_ne (List.cons_ne_nil _ _)]
      rfl

theorem length_le_length_pathText (names : List String) :
    names.length ≤ (pathText names).length := by
  cases names with
  | nil => exact Nat.zero_le _
  | cons name rest =>
      have hchars : ∀ names : List String, names.length ≤ (nameChars names).length := by
        intro names
        induction names with
        | nil => exact Nat.le_refl 0
        | cons name names ih =>
            rw [nameChars, List.flatMap_cons, List.length_append, List.length_cons,
              List.length_cons]
            rw [nameChars] at ih
            omega
      rw [← String.length_toList, toList_pathText_of_ne (List.cons_ne_nil _ _)]
      exact hchars _

/-- A path to some names is no longer than a path to names below them. -/
theorem utf8ByteSize_pathText_le {names more : List String} :
    (pathText names).utf8ByteSize ≤ (pathText (names ++ more)).utf8ByteSize := by
  by_cases hnames : names = []
  · by_cases hmore : more = []
    · rw [hnames, hmore]
      exact Nat.le_refl _
    · have htext : pathText more = "/" ++ String.ofList (nameChars more).tail := by
        apply String.toList_injective
        obtain ⟨name, rest, rfl⟩ := List.exists_cons_of_ne_nil hmore
        rw [toList_pathText_of_ne hmore]
        simp [nameChars]
      rw [hnames, List.nil_append, htext, String.utf8ByteSize_append]
      exact Nat.le_add_right _ _
  · have htext : pathText (names ++ more) = pathText names ++ String.ofList (nameChars more) := by
      apply String.toList_injective
      rw [toList_pathText_of_ne (List.append_ne_nil_of_left_ne_nil hnames more),
        String.toList_append, toList_pathText_of_ne hnames, String.toList_ofList, nameChars_append]
    rw [htext, String.utf8ByteSize_append]
    exact Nat.le_add_right _ _

end Files
end FlowDecl
