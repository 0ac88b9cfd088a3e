import FlowDecl.Proofs.CommandLine.NameSets
import FlowDecl.Proofs.CommandLine.SavedDocument

/-!
# Commands with the same names

The types that a command leaves out are named by any number of options, each with any number of
names.  Two commands that differ in these options only, and name the same types with them, make the
same request and do the same.  So the names can be grouped in any way.
-/

namespace FlowDecl
namespace CommandLine

/-- What is given in two ways that differ in the options for the types to leave out, and name the
same types with them. -/
structure Regroups (g g' : Given OptionKey) : Prop where
  others : g.without .ignoredTypes = g'.without .ignoredTypes
  names : splitNames (g.values .ignoredTypes) = splitNames (g'.values .ignoredTypes)

namespace Regroups

variable {g g' : Given OptionKey} (h : Regroups g g')

include h

theorem positional : g.positional = g'.positional := by
  change (g.without .ignoredTypes).positional = (g'.without .ignoredTypes).positional
  rw [h.others]

theorem values {key : OptionKey} (hkey : key ≠ .ignoredTypes) :
    g.values key = g'.values key := by
  rw [← g.values_without hkey, h.others, g'.values_without hkey]

theorem value? {key : OptionKey} (hkey : key ≠ .ignoredTypes) :
    g.value? key = g'.value? key := by
  rw [Given.value?, Given.value?, h.values hkey]

theorem has {key : OptionKey} (hkey : key ≠ .ignoredTypes) : g.has key = g'.has key := by
  rw [← g.has_without hkey, h.others, g'.has_without hkey]

theorem check (tree : Files.Tree) (key : OptionKey) :
    Generate.check tree g key = Generate.check tree g' key := by
  cases key with
  | schema => rw [Generate.check, Generate.check, h.positional]
  | outputFile =>
      rw [Generate.check, Generate.check, Generate.outputOf, Generate.outputOf,
        h.value? (by decide)]
  | templates => rw [Generate.check, Generate.check, h.value? (by decide)]
  | timeout => rw [Generate.check, Generate.check, h.value? (by decide)]
  | _ => rfl

/-- The names to leave out are not checked, so the places where they are given do not matter. -/
theorem checks (tree : Files.Tree) (keys : List OptionKey) :
    (g.checkOrder keys).forM (Generate.check tree g) =
      (g'.checkOrder keys).forM (Generate.check tree g') := by
  have hnames : Generate.check tree g' .ignoredTypes = .ok () := rfl
  calc (g.checkOrder keys).forM (Generate.check tree g)
    _ = (g.checkOrder keys).forM (Generate.check tree g') :=
      forM_congr fun key _ => h.check tree key
    _ = (g'.checkOrder keys).forM (Generate.check tree g') := by
      rw [← forM_checkOrder_without hnames, h.others, forM_checkOrder_without hnames]

theorem endpoint (around : Surroundings) :
    readEndpoint .generate around g = readEndpoint .generate around g' := by
  rw [readEndpoint, readEndpoint, h.value? (by decide), h.value? (by decide),
    h.values (by decide)]

theorem request (around : Surroundings) : requestOf around g = requestOf around g' := by
  rw [requestOf, requestOf, h.endpoint around]
  refine congrArg _ (funext fun endpoint => ?_)
  simp (disch := decide) only [Generate.outputOf, h.positional, h.names, h.value?, h.has]

theorem checkedRequest (around : Surroundings) (tree : Files.Tree) :
    (checkGiven .generate generateForms 1 (Generate.check tree) g >>= requestOf around) =
      checkGiven .generate generateForms 1 (Generate.check tree) g' >>= requestOf around := by
  rw [checkGiven, checkGiven, h.has (by decide), h.checks, h.positional]
  split
  next => rfl
  next =>
    cases (g'.checkOrder (.schema :: generateForms.map (·.key))).forM
        (Generate.check tree g') with
    | error stop => rfl
    | ok _ =>
        by_cases hextra : (g'.positional.drop 1).isEmpty = true
        · simp only [hextra, bind, Except.bind, pure, Except.pure, if_true, h.request]
        · simp only [hextra, bind, Except.bind]
          rfl

end Regroups

/-! ## Options that stand first -/

/-- The arguments that give texts with names of types to leave out. -/
def ignoring (texts : List String) : List String :=
  texts.flatMap fun text => ["--ignored-types", text]

/-- What is given by these arguments. -/
def givenNames (texts : List String) : Given OptionKey where
  options := texts.map fun text => (.ignoredTypes, text)

theorem read_ignoring (texts rest : List String) :
    Arguments.read generateForms true (ignoring texts ++ rest) =
      (givenNames texts).append <$> Arguments.read generateForms true rest := by
  induction texts with
  | nil =>
      change Arguments.read generateForms true rest = _
      cases Arguments.read generateForms true rest with
      | error fault => rfl
      | ok g => rfl
  | cons text texts ih =>
      have hfirst : Arguments.read generateForms true (ignoring (text :: texts) ++ rest) =
          Given.append { options := [(.ignoredTypes, text)] } <$>
            Arguments.read generateForms true (ignoring texts ++ rest) :=
        Arguments.read_cons_of_option (by decide) (fun _ => rfl) _
      rw [hfirst, ih]
      cases Arguments.read generateForms true rest with
      | error fault => rfl
      | ok g => rfl

theorem values_givenNames (texts : List String) :
    (givenNames texts).values .ignoredTypes = texts := by
  have hall : ∀ o ∈ (givenNames texts).options, decide (o.1 = OptionKey.ignoredTypes) = true := by
    intro o ho
    obtain ⟨text, -, rfl⟩ := List.mem_map.mp ho
    rfl
  rw [Given.values, List.filter_eq_self.mpr hall, givenNames, List.map_map]
  exact List.map_id texts

theorem without_givenNames (texts : List String) :
    (givenNames texts).without .ignoredTypes = {} := by
  have hnone : ∀ o ∈ (givenNames texts).options, ¬(o.1 != OptionKey.ignoredTypes) = true := by
    intro o ho
    obtain ⟨text, -, rfl⟩ := List.mem_map.mp ho
    exact Bool.false_ne_true
  rw [Given.without, List.filter_eq_nil_iff.mpr hnone]
  rfl

theorem regroups_append {texts others : List String} (h : splitNames texts = splitNames others)
    (g : Given OptionKey) :
    Regroups ((givenNames texts).append g) ((givenNames others).append g) := by
  constructor
  · rw [Given.without_append, Given.without_append, without_givenNames, without_givenNames]
  · rw [Given.values_append, Given.values_append, values_givenNames, values_givenNames]
    exact splitNames_append_congr h _

/-- Options that name the same types do the same. -/
theorem run_ignoring {texts others : List String} (h : splitNames texts = splitNames others)
    (around : Surroundings) (rest : List String) :
    Generate.run around (ignoring texts ++ rest) =
      Generate.run around (ignoring others ++ rest) := by
  have hrequest (tree : Files.Tree) :
      Generate.readRequest around tree (ignoring texts ++ rest) =
        Generate.readRequest around tree (ignoring others ++ rest) := by
    rw [readRequest_generate, readRequest_generate, read_ignoring, read_ignoring]
    cases Arguments.read generateForms true rest with
    | error fault => rfl
    | ok g => exact (regroups_append h g).checkedRequest around tree
  simp only [Generate.run, hrequest]

/-- How names are grouped in texts does not matter.  Some texts name exactly the set of what stands
between commas in them, without the blanks around it and unless nothing is left.  The same set is
named by one text with commas between them, by the texts in another order or with repetitions, and
by the names of the set themselves, one by one or with commas between them.  A command that is given
any such texts does the same. -/
theorem splitNames_independent (texts : List String) :
    ((splitNames texts).Pairwise (· < ·) ∧
        ∀ name, name ∈ splitNames texts ↔ IsNameIn texts name) ∧
      splitNames [",".intercalate texts] = splitNames texts ∧
      (∀ others, (∀ text, text ∈ others ↔ text ∈ texts) →
        splitNames others = splitNames texts) ∧
      (∀ names, (∀ name, name ∈ names ↔ name ∈ splitNames texts) →
        splitNames names = splitNames texts ∧
          splitNames [",".intercalate names] = splitNames texts) ∧
      ∀ others, splitNames others = splitNames texts → ∀ around rest,
        Generate.run around (ignoring others ++ rest) =
          Generate.run around (ignoring texts ++ rest) := by
  refine ⟨⟨?_, fun name => mem_splitNames_iff⟩, splitNames_intercalate texts,
    fun others => splitNames_congr, ?_, fun others => run_ignoring⟩
  · exact pairwise_sortNames _
  · intro names hnames
    have hsame : splitNames names = splitNames texts := by
      rw [splitNames_congr hnames, splitNames_splitNames]
    refine ⟨hsame, ?_⟩
    rw [splitNames_intercalate, hsame]

/-- Three texts with two names, one of them after a blank that is no space. -/
def userTexts : List String := ["Post,\u00a0User", "", "User,"]

/-- The two names in some of the ways to group them. -/
theorem splitNames_userTexts :
    splitNames userTexts = ["Post", "User"] ∧
      ((∀ text, text ∈ "User," :: userTexts.reverse ↔ text ∈ userTexts) ∧
        splitNames ("User," :: userTexts.reverse) = splitNames userTexts) ∧
      ((∀ name, name ∈ ["User", "Post"] ↔ name ∈ splitNames userTexts) ∧
        splitNames ["User", "Post"] = splitNames userTexts ∧
          splitNames ["User,Post"] = splitNames userTexts) ∧
      Generate.run typelessEndpoint (ignoring ["User", "Post"] ++ ["--url", "http://localhost"]) =
        Generate.run typelessEndpoint (ignoring userTexts ++ ["--url", "http://localhost"]) := by
  have hnames : splitNames userTexts = ["Post", "User"] := by
    have hall : userTexts.flatMap namesIn = ["Post", "User", "User"] := by decide
    refine sortNames_eq_of_pairwise (by decide) fun name => ?_
    simp [hall]
  have htexts : ∀ text, text ∈ "User," :: userTexts.reverse ↔ text ∈ userTexts := by
    intro text
    simp only [userTexts, List.reverse_cons, List.reverse_nil, List.nil_append, List.cons_append,
      List.mem_cons, List.not_mem_nil, or_false]
    tauto
  have hswapped : ∀ name, name ∈ ["User", "Post"] ↔ name ∈ splitNames userTexts := by
    intro name
    rw [hnames, List.mem_pair, List.mem_pair, or_comm]
  obtain ⟨-, -, hothers, hback, hrun⟩ := splitNames_independent userTexts
  obtain ⟨hlisted, hjoined⟩ := hback _ hswapped
  exact ⟨hnames, ⟨htexts, hothers _ htexts⟩, ⟨hswapped, hlisted, hjoined⟩,
    hrun _ hlisted typelessEndpoint _⟩

end CommandLine
end FlowDecl
