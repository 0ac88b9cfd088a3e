import FlowDecl.Proofs.Flow.Descriptions
import FlowDecl.Sdl.Token
import Mathlib.Data.List.Infix

/-!
# Reading declarations back

The text of some declarations is read back into entries.  An entry tells everything that the text
tells about a declaration: the description, whether the declaration is exported, its name, and its
right side, in which the type of a line is a number of arrays around some words.  What a text does
not tell is whether such a word is a type of Flow or the name of another declaration.

Reading goes through the text once.  A comment goes up to the first `*/`, a word up to the first
character that is no part of a name, the lines of a structure up to the first closing brace, and
every other right side up to the first semicolon.  This undoes writing where words are made of the
characters of names, no description ends its comment, and no enum is without literals.
-/

namespace FlowDecl
namespace Flow

/-! ## Entries -/

/-- A type in a text: the number of its arrays and the words inside of them. -/
structure Shape where
  arrays : Nat
  words : List String
  deriving DecidableEq, Repr, Inhabited

inductive Line where
  | property (name : String) (optional : Bool) (shape : Shape)
  | indexer (key : String) (shape : Shape)
  deriving DecidableEq, Repr, Inhabited

/-- The right side of an entry. -/
inductive Content where
  | literals (values : List String)
  | names (names : List String)
  | lines (list : List Line)
  deriving DecidableEq, Repr, Inhabited

/-- What a text tells about a declaration. -/
structure Entry where
  description : Option String := none
  exported : Bool := false
  name : String
  content : Content
  deriving DecidableEq, Repr, Inhabited

/-- The shape of a type expression. -/
def TypeExpr.shape : TypeExpr → Shape
  | .primitive p => ⟨0, [p.text]⟩
  | .declared name => ⟨0, [name]⟩
  | .union names => ⟨0, names⟩
  | .array item => ⟨item.shape.arrays + 1, item.shape.words⟩

def Member.line : Member → Line
  | .property name optional type => .property name optional type.shape
  | .indexer key type => .indexer key type.shape

/-- The right side of an entry for a right side of a declaration. -/
def Body.content : Body → Content
  | .literals values => .literals values
  | .alias names => .names names
  | .members ms => .lines (ms.map Member.line)

def Declaration.entry (d : Declaration) : Entry :=
  { description := d.description, exported := d.exported, name := d.name
    content := d.body.content }

/-! ## Reading -/

/-- The word that a text begins with. -/
def firstWord (cs : List Char) : String :=
  String.ofList (cs.takeWhile Sdl.isNamePart)

/-- What follows the word that a text begins with. -/
def afterWord (cs : List Char) : List Char :=
  cs.dropWhile Sdl.isNamePart

/-- The parts of a text between the marks, without the empty ones. -/
def parts (mark : Char) (cs : List Char) : List (List Char) :=
  (cs.splitOn mark).filter (!·.isEmpty)

/-- The text before the first mark and the text after it. -/
def cut (mark : Char) (cs : List Char) : List Char × List Char :=
  (cs.takeWhile (· != mark), (cs.dropWhile (· != mark)).drop 1)

/-- Whether a character belongs to a word or to a bar between words. -/
def isWordChar (c : Char) : Bool :=
  Sdl.isNamePart c || c = '|'

/-- The words of a text, which has a bar between each two. -/
def readWords (cs : List Char) : List String :=
  (parts '|' (cs.filter isWordChar)).map String.ofList

/-- The number of arrays that a type begins with, and what follows. -/
def readArrays : List Char → Nat × List Char
  | 'A' :: 'r' :: 'r' :: 'a' :: 'y' :: '<' :: rest =>
    ((readArrays rest).1 + 1, (readArrays rest).2)
  | rest => (0, rest)

def readShape (cs : List Char) : Shape :=
  ⟨(readArrays cs).1, readWords (readArrays cs).2⟩

def readLine : List Char → Option Line
  | ' ' :: ' ' :: cs =>
    match afterWord cs with
    | '?' :: ':' :: ' ' :: type => some (.property (firstWord cs) true (readShape type))
    | ':' :: ' ' :: type => some (.property (firstWord cs) false (readShape type))
    | '[' :: key => do
      let type ← (afterWord key).dropPrefix? ": string]: ".toList
      return .indexer (firstWord key) (readShape type)
    | _ => none
  | _ => none

/-- A right side and the text after it. -/
def readContent : List Char → Option (Content × List Char)
  | '{' :: rest => do
    let lines ← (parts '\n' (cut '}' rest).1).mapM readLine
    return (.lines lines, (cut '}' rest).2)
  | '"' :: rest => some (.literals (readWords (cut ';' rest).1), (cut ';' rest).2)
  | rest => some (.names (readWords (cut ';' rest).1), (cut ';' rest).2)

/-- The description in the comment that a text begins with, and the text after the comment. -/
def readDescription (cs : List Char) : Option (Option String × List Char) :=
  match cs.dropPrefix? "/*\n  description: ".toList with
  | none => some (none, cs)
  | some rest => do
    let (inside, after) ← rest.dropInfix? ['*', '/']
    return (some (String.ofList inside.dropLast), after.drop 1)

/-- Whether a text begins with an export, and the text after it. -/
def readExport (cs : List Char) : Bool × List Char :=
  match cs.dropPrefix? "export ".toList with
  | none => (false, cs)
  | some rest => (true, rest)

/-- An entry and the text after it. -/
def readEntry (cs : List Char) : Option (Entry × List Char) := do
  let (description, cs) ← readDescription cs
  let (exported, cs) := readExport cs
  let cs ← cs.dropPrefix? "type ".toList
  let body ← (afterWord cs).dropPrefix? " = ".toList
  let (content, rest) ← readContent body
  return ({ description, exported, name := firstWord cs, content }, rest)

/-- Entries up to the end of the text, at most as many as the first argument tells.  The two
characters between entries make an empty line. -/
def readEntries : Nat → List Char → Option (List Entry)
  | _, [] => some []
  | 0, _ => none
  | count + 1, cs => do
    let (entry, rest) ← readEntry cs
    let entries ← readEntries count (rest.drop 2)
    return entry :: entries

/-- The entries of a text.  There are no more of them than characters. -/
def read? (text : String) : Option (List Entry) :=
  readEntries text.toList.length text.toList

/-! ## Legible entries -/

/-- A text that is a word: it has characters, and all of them are characters of names. -/
structure IsWord (word : String) : Prop where
  nonempty : word ≠ ""
  plain : ∀ c ∈ word.toList, Sdl.isNamePart c = true

instance (word : String) : Decidable (IsWord word) :=
  decidable_of_iff (word ≠ "" ∧ word.toList.all Sdl.isNamePart = true)
    ⟨fun h => ⟨h.1, List.all_eq_true.mp h.2⟩,
      fun h => ⟨h.nonempty, List.all_eq_true.mpr h.plain⟩⟩

/-- A line that is made of words. -/
def Line.Legible : Line → Prop
  | .property name _ shape => IsWord name ∧ ∀ word ∈ shape.words, IsWord word
  | .indexer key shape => IsWord key ∧ ∀ word ∈ shape.words, IsWord word

/-- A right side that is made of words, and has one at least if it consists of literals. -/
def Content.Legible : Content → Prop
  | .literals values => values ≠ [] ∧ ∀ value ∈ values, IsWord value
  | .names list => ∀ name ∈ list, IsWord name
  | .lines list => ∀ l ∈ list, l.Legible

/-- An entry that is made of words and a description that does not end its comment. -/
structure Entry.Legible (e : Entry) : Prop where
  description : ∀ text, e.description = some text → ¬['*', '/'] <:+: text.toList
  name : IsWord e.name
  content : e.content.Legible

/-! ## Words -/

theorem ne_of_isNamePart {c d : Char} (hc : Sdl.isNamePart c = true)
    (hd : Sdl.isNamePart d = false) :
    c ≠ d := by
  rintro rfl
  rw [hc] at hd
  cases hd

theorem IsWord.notMem {word : String} (h : IsWord word) {c : Char}
    (hc : Sdl.isNamePart c = false) :
    c ∉ word.toList :=
  fun hmem => ne_of_isNamePart (h.plain c hmem) hc rfl

theorem IsWord.toList_ne_nil {word : String} (h : IsWord word) :
    word.toList ≠ [] :=
  fun hnil => h.nonempty (String.toList_eq_nil_iff.mp hnil)

theorem IsWord.firstWord_append {word : String} (h : IsWord word) {c : Char}
    (hc : Sdl.isNamePart c = false) (rest : List Char) :
    firstWord (word.toList ++ c :: rest) = word := by
  rw [firstWord, List.takeWhile_append_of_pos h.plain,
    List.takeWhile_cons_of_neg (by simp [hc]), List.append_nil, String.ofList_toList]

theorem IsWord.afterWord_append {word : String} (h : IsWord word) {c : Char}
    (hc : Sdl.isNamePart c = false) (rest : List Char) :
    afterWord (word.toList ++ c :: rest) = c :: rest := by
  rw [afterWord, List.dropWhile_append_of_pos h.plain, List.dropWhile_cons_of_neg (by simp [hc])]

/-- A word ends where a separator follows that does not begin like a word. -/
theorem IsWord.split_append {word : String} (h : IsWord word) {separator : List Char} {c : Char}
    {others : List Char} (hseparator : separator = c :: others) (hc : Sdl.isNamePart c = false)
    (rest : List Char) :
    firstWord (word.toList ++ (separator ++ rest)) = word ∧
      afterWord (word.toList ++ (separator ++ rest)) = separator ++ rest := by
  rw [hseparator]
  exact ⟨h.firstWord_append hc _, h.afterWord_append hc _⟩

/-! ## Parts of a text -/

theorem dropPrefix?_append (before rest : List Char) :
    (before ++ rest).dropPrefix? before = some rest :=
  List.dropPrefix?_append_of_beq rest (BEq.refl before)

theorem cut_append {mark : Char} {before : List Char} (h : mark ∉ before) (rest : List Char) :
    cut mark (before ++ mark :: rest) = (before, rest) := by
  have hbefore : ∀ c ∈ before, (c != mark) = true := by
    intro c hc
    rw [bne_iff_ne]
    rintro rfl
    exact h hc
  rw [cut, List.takeWhile_append_of_pos hbefore, List.dropWhile_append_of_pos hbefore]
  simp

theorem parts_intercalate {mark : Char} {pieces : List (List Char)}
    (h : ∀ piece ∈ pieces, mark ∉ piece) :
    parts mark ([mark].intercalate pieces) = pieces.filter (!·.isEmpty) := by
  by_cases hnil : pieces = []
  · subst hnil
    rfl
  · rw [parts, List.splitOn_intercalate mark h hnil]

theorem parts_append_cons (mark : Char) (before rest : List Char) :
    parts mark (before ++ mark :: rest) = parts mark before ++ parts mark rest := by
  rw [parts, List.splitOn_append_cons_self, List.filter_append, parts, parts]

/-- Characters that are left out of a text that is put together are left out of its parts. -/
theorem filter_intercalate (keeps : Char → Bool) (separator : List Char)
    (pieces : List (List Char)) :
    (separator.intercalate pieces).filter keeps =
      (separator.filter keeps).intercalate (pieces.map (·.filter keeps)) := by
  induction pieces with
  | nil => rfl
  | cons piece pieces ih =>
      cases pieces with
      | nil => simp
      | cons next pieces =>
          simp only [List.map_cons, List.intercalate_cons_cons, List.filter_append] at ih ⊢
          rw [ih]

/-! ## Words and types -/

theorem readWords_append {tail : List Char} (htail : ∀ c ∈ tail, isWordChar c = false)
    (cs : List Char) :
    readWords (cs ++ tail) = readWords cs := by
  have hnone : tail.filter isWordChar = [] := by
    rw [List.filter_eq_nil_iff]
    intro c hc
    simp [htail c hc]
  rw [readWords, List.filter_append, hnone, List.append_nil, readWords]

/-- Words are read back from texts around them that have no other character of words. -/
theorem readWords_intercalate {f : String → String} {words : List String}
    (hwords : ∀ word ∈ words, IsWord word)
    (hf : ∀ word ∈ words, (f word).toList.filter isWordChar = word.toList) :
    readWords (" | ".intercalate (words.map f)).toList = words := by
  have hkept : ((words.map f).map String.toList).map (·.filter isWordChar) =
      words.map String.toList := by
    rw [List.map_map, List.map_map]
    exact List.map_congr_left hf
  have hbar : ∀ piece ∈ words.map String.toList, '|' ∉ piece := by
    rw [List.forall_mem_map]
    intro word hword
    exact (hwords word hword).notMem (by decide)
  have hfull : ∀ piece ∈ words.map String.toList, (!piece.isEmpty) = true := by
    rw [List.forall_mem_map]
    intro word hword
    simp [(hwords word hword).toList_ne_nil]
  have hseparator : " | ".toList.filter isWordChar = ['|'] := by decide
  rw [readWords, String.toList_intercalate, filter_intercalate, hkept, hseparator,
    parts_intercalate hbar, List.filter_eq_self.mpr hfull, List.map_map]
  simp

theorem isWordChar_of_isNamePart {c : Char} (h : Sdl.isNamePart c = true) :
    isWordChar c = true := by
  rw [isWordChar, h, Bool.true_or]

theorem IsWord.filter_eq {word : String} (h : IsWord word) :
    word.toList.filter isWordChar = word.toList :=
  List.filter_eq_self.mpr fun c hc => isWordChar_of_isNamePart (h.plain c hc)

/-- Characters that follow the words of a type. -/
def IsTail (tail : List Char) : Prop :=
  ∀ c ∈ tail, c = '>' ∨ c = ';'

theorem readArrays_of_notMem {cs : List Char} (h : '<' ∉ cs) :
    readArrays cs = (0, cs) := by
  rw [readArrays]
  rintro rest rfl
  simp at h

theorem readShape_array (cs : List Char) :
    readShape ("Array<".toList ++ cs) = ⟨(readShape cs).arrays + 1, (readShape cs).words⟩ :=
  rfl

theorem notMem_words {words : List String} (h : ∀ word ∈ words, IsWord word) {mark : Char}
    (hmark : Sdl.isNamePart mark = false) (hseparator : mark ∉ " | ".toList) :
    mark ∉ (" | ".intercalate words).toList :=
  notMem_intercalate hseparator fun word hword => (h word hword).notMem hmark

theorem readWords_words {words : List String} (h : ∀ word ∈ words, IsWord word) :
    readWords (" | ".intercalate words).toList = words := by
  have hread := readWords_intercalate (f := id) h fun word hword => (h word hword).filter_eq
  rwa [List.map_id] at hread

theorem readShape_words {words : List String} (h : ∀ word ∈ words, IsWord word)
    {tail : List Char} (htail : IsTail tail) :
    readShape ((" | ".intercalate words).toList ++ tail) = ⟨0, words⟩ := by
  have hopen : '<' ∉ (" | ".intercalate words).toList ++ tail := by
    rw [List.mem_append, not_or]
    refine ⟨notMem_words h (by decide) (by decide), ?_⟩
    intro hmem
    rcases htail _ hmem with hc | hc
    · cases hc
    · cases hc
  have hstop : ∀ c ∈ tail, isWordChar c = false := by
    intro c hc
    rcases htail c hc with rfl | rfl
    · rfl
    · rfl
  rw [readShape, readArrays_of_notMem hopen, readWords_append hstop, readWords_words h]

/-- A type is read back from its text. -/
theorem TypeExpr.readShape_text {e : TypeExpr} (h : ∀ word ∈ e.shape.words, IsWord word)
    {tail : List Char} (htail : IsTail tail) :
    readShape (e.text.toList ++ tail) = e.shape := by
  induction e generalizing tail with
  | primitive p => exact readShape_words h htail
  | declared name => exact readShape_words h htail
  | union names => exact readShape_words h htail
  | array item ih =>
      -- The bracket that closes this array is one more character after the words.
      have hclose : IsTail ('>' :: tail) := List.forall_mem_cons.mpr ⟨Or.inl rfl, htail⟩
      have htext : (TypeExpr.array item).text.toList ++ tail =
          "Array<".toList ++ (item.text.toList ++ '>' :: tail) := by
        simp [TypeExpr.text]
      rw [htext, readShape_array, ih h hclose]
      rfl

/-! ## Lines -/

theorem readLine_optional {name : String} (h : IsWord name) (type : List Char) :
    readLine (' ' :: ' ' :: (name.toList ++ '?' :: ':' :: ' ' :: type)) =
      some (.property name true (readShape type)) := by
  rw [readLine, h.afterWord_append (by decide), h.firstWord_append (by decide)]
  rfl

theorem readLine_required {name : String} (h : IsWord name) (type : List Char) :
    readLine (' ' :: ' ' :: (name.toList ++ ':' :: ' ' :: type)) =
      some (.property name false (readShape type)) := by
  rw [readLine, h.afterWord_append (by decide), h.firstWord_append (by decide)]
  rfl

theorem readLine_bracket (cs : List Char) :
    readLine (' ' :: ' ' :: '[' :: cs) = (do
      let type ← (afterWord cs).dropPrefix? ": string]: ".toList
      return .indexer (firstWord cs) (readShape type)) :=
  rfl

theorem readLine_indexer {key : String} (h : IsWord key) (type : List Char) :
    readLine (' ' :: ' ' :: '[' :: (key.toList ++ (": string]: ".toList ++ type))) =
      some (.indexer key (readShape type)) := by
  have hcolon : ": string]: ".toList = ':' :: " string]: ".toList := by decide
  obtain ⟨hfirst, hafter⟩ := h.split_append hcolon (by decide) type
  rw [readLine_bracket, hafter, hfirst, dropPrefix?_append]
  rfl

/-- A line is read back from its text. -/
theorem Member.readLine_text {m : Member} (h : m.line.Legible) :
    readLine ("  " ++ m.text).toList = some m.line := by
  have hend : IsTail [';'] := List.forall_mem_singleton.mpr (Or.inr rfl)
  cases m with
  | property name optional type =>
      obtain ⟨hname, hwords⟩ := h
      cases optional with
      | true =>
          have htext : ("  " ++ (Member.property name true type).text).toList =
              ' ' :: ' ' :: (name.toList ++ '?' :: ':' :: ' ' :: (type.text.toList ++ [';'])) := by
            simp [Member.text]
          rw [htext, readLine_optional hname, TypeExpr.readShape_text hwords hend]
          rfl
      | false =>
          have htext : ("  " ++ (Member.property name false type).text).toList =
              ' ' :: ' ' :: (name.toList ++ ':' :: ' ' :: (type.text.toList ++ [';'])) := by
            simp [Member.text]
          rw [htext, readLine_required hname, TypeExpr.readShape_text hwords hend]
          rfl
  | indexer key type =>
      obtain ⟨hkey, hwords⟩ := h
      have htext : ("  " ++ (Member.indexer key type).text).toList =
          ' ' :: ' ' :: '[' :: (key.toList ++
            (": string]: ".toList ++ (type.text.toList ++ [';']))) := by
        simp [Member.text]
      rw [htext, readLine_indexer hkey, TypeExpr.readShape_text hwords hend]
      rfl

/-- Whether a character can stand in a line. -/
def isLineChar (c : Char) : Bool :=
  Sdl.isNamePart c || [' ', '|', '<', '>', '?', ':', ';', '[', ']'].contains c

theorem isLineChar_of_all {cs : List Char} (h : cs.all isLineChar = true) :
    ∀ c ∈ cs, isLineChar c = true :=
  List.all_eq_true.mp h

theorem IsWord.isLineChar {word : String} (h : IsWord word) :
    ∀ c ∈ word.toList, isLineChar c = true := by
  intro c hc
  rw [Flow.isLineChar, h.plain c hc, Bool.true_or]

theorem isLineChar_intercalate {words : List String} (h : ∀ word ∈ words, IsWord word) :
    ∀ c ∈ (" | ".intercalate words).toList, isLineChar c = true :=
  forall_mem_intercalate (isLineChar_of_all (by decide))
    fun word hword => (h word hword).isLineChar

theorem TypeExpr.isLineChar_text {e : TypeExpr} (h : ∀ word ∈ e.shape.words, IsWord word) :
    ∀ c ∈ e.text.toList, isLineChar c = true := by
  induction e with
  | primitive p => exact isLineChar_intercalate h
  | declared name => exact isLineChar_intercalate h
  | union names => exact isLineChar_intercalate h
  | array item ih =>
      rw [TypeExpr.text, String.toList_append, String.toList_append, List.forall_mem_append,
        List.forall_mem_append]
      exact ⟨⟨isLineChar_of_all (by decide), ih h⟩, isLineChar_of_all (by decide)⟩

theorem Member.isLineChar_text {m : Member} (h : m.line.Legible) :
    ∀ c ∈ m.text.toList, isLineChar c = true := by
  cases m with
  | property name optional type =>
      have hmark : ∀ c ∈ (if optional then "?: " else ": ").toList, isLineChar c = true := by
        cases optional <;> exact isLineChar_of_all (by decide)
      simp only [Member.text, String.toList_append, List.forall_mem_append]
      exact ⟨⟨⟨h.1.isLineChar, hmark⟩, TypeExpr.isLineChar_text h.2⟩,
        isLineChar_of_all (by decide)⟩
  | indexer key type =>
      simp only [Member.text, String.toList_append, List.forall_mem_append]
      exact ⟨⟨⟨⟨isLineChar_of_all (by decide), h.1.isLineChar⟩, isLineChar_of_all (by decide)⟩,
        TypeExpr.isLineChar_text h.2⟩, isLineChar_of_all (by decide)⟩

/-- A character that cannot stand in a line does not stand in the line of a member. -/
theorem Member.notMem_line {m : Member} (h : m.line.Legible) {mark : Char}
    (hmark : Flow.isLineChar mark = false) :
    mark ∉ ("  " ++ m.text).toList := by
  intro hmem
  have hline : ∀ c ∈ ("  " ++ m.text).toList, Flow.isLineChar c = true := by
    rw [String.toList_append, List.forall_mem_append]
    exact ⟨isLineChar_of_all (by decide), Member.isLineChar_text h⟩
  rw [hline mark hmem] at hmark
  cases hmark

theorem mapM_readLine {ms : List Member} (h : ∀ m ∈ ms, m.line.Legible) :
    (ms.map fun m => ("  " ++ m.text).toList).mapM readLine = some (ms.map Member.line) := by
  induction ms with
  | nil => rfl
  | cons m ms ih =>
      obtain ⟨hm, hrest⟩ := List.forall_mem_cons.mp h
      rw [List.map_cons, List.mapM_cons, Member.readLine_text hm, ih hrest]
      rfl

/-! ## Right sides -/

/-- The text between the braces of a structure. -/
def insideText (ms : List Member) : String :=
  if ms.isEmpty then ""
  else "\n" ++ "\n".intercalate (ms.map fun m => "  " ++ m.text) ++ "\n"

theorem structureText_eq (ms : List Member) :
    structureText ms = "\x7b" ++ insideText ms ++ "\x7d" := by
  rw [structureText, insideText]
  split
  next => rfl
  next =>
    apply String.toList_injective
    simp

theorem parts_insideText {ms : List Member} (h : ∀ m ∈ ms, m.line.Legible) :
    parts '\n' (insideText ms).toList = ms.map fun m => ("  " ++ m.text).toList := by
  have hbreak : ∀ l ∈ ms.map fun m => ("  " ++ m.text).toList, '\n' ∉ l := by
    rw [List.forall_mem_map]
    intro m hm
    exact Member.notMem_line (h m hm) (by decide)
  have hfull : ∀ l ∈ ms.map fun m => ("  " ++ m.text).toList, (!l.isEmpty) = true := by
    rw [List.forall_mem_map]
    intro m hm
    simp
  have hlines := parts_intercalate hbreak
  rw [List.filter_eq_self.mpr hfull] at hlines
  rw [insideText]
  split
  next hnil =>
    rw [List.isEmpty_iff.mp hnil]
    rfl
  next =>
    have htext : ("\n" ++ "\n".intercalate (ms.map fun m => "  " ++ m.text) ++ "\n").toList =
        [] ++ '\n' :: (['\n'].intercalate (ms.map fun m => ("  " ++ m.text).toList) ++
          '\n' :: []) := by
      simp [String.toList_intercalate, Function.comp_def]
    rw [htext, parts_append_cons, parts_append_cons, hlines]
    exact List.append_nil _

theorem brace_notMem_insideText {ms : List Member} (h : ∀ m ∈ ms, m.line.Legible) :
    '}' ∉ (insideText ms).toList := by
  rw [insideText]
  split
  next => exact List.not_mem_nil
  next =>
    have hlines : ∀ line ∈ ms.map fun m => "  " ++ m.text, '}' ∉ line.toList := by
      rw [List.forall_mem_map]
      intro m hm
      exact Member.notMem_line (h m hm) (by decide)
    simp only [String.toList_append, List.mem_append, not_or]
    exact ⟨⟨by decide, notMem_intercalate (by decide) hlines⟩, by decide⟩

/-- A literal with the quotes around it. -/
def quoted (value : String) : String :=
  "\"" ++ value ++ "\""

theorem filter_quoted {value : String} (h : IsWord value) :
    (quoted value).toList.filter isWordChar = value.toList := by
  rw [quoted, String.toList_append, String.toList_append, List.filter_append, List.filter_append,
    h.filter_eq]
  exact List.append_nil _

theorem notMem_quoted {value : String} (h : IsWord value) {mark : Char}
    (hmark : Sdl.isNamePart mark = false) (hquote : mark ≠ '"') :
    mark ∉ (quoted value).toList := by
  simp [quoted, hquote, h.notMem hmark]

theorem exists_cons_literals {values : List String} (hne : values ≠ []) :
    ∃ cs, (" | ".intercalate (values.map quoted)).toList = '"' :: cs := by
  obtain ⟨first, others, rfl⟩ := List.exists_cons_of_ne_nil hne
  cases others with
  | nil => exact ⟨_, by simp [quoted]; rfl⟩
  | cons next others => exact ⟨_, by simp [quoted, String.toList_intercalate]; rfl⟩

/-- Literals are read back from their text. -/
theorem readContent_literals {values : List String} (hne : values ≠ [])
    (h : ∀ value ∈ values, IsWord value) (rest : List Char) :
    readContent ((Body.literals values).text.toList ++ rest) =
      some (.literals values, rest) := by
  obtain ⟨cs, hcs⟩ := exists_cons_literals hne
  have hend : ';' ∉ cs := by
    intro hmem
    have hall : ';' ∈ (" | ".intercalate (values.map quoted)).toList := by
      rw [hcs]
      exact List.mem_cons_of_mem _ hmem
    refine notMem_intercalate (by decide) ?_ hall
    rw [List.forall_mem_map]
    intro value hvalue
    exact notMem_quoted (h value hvalue) (by decide) (by decide)
  have hwords : readWords cs = values := by
    have hread := readWords_intercalate h fun value hvalue => filter_quoted (h value hvalue)
    rw [hcs] at hread
    exact hread
  have htext : (Body.literals values).text.toList ++ rest = '"' :: (cs ++ ';' :: rest) := by
    change (" | ".intercalate (values.map quoted) ++ ";").toList ++ rest = _
    rw [String.toList_append, hcs]
    simp
  rw [htext, readContent, cut_append hend, hwords]

theorem append_cons_ne_cons {cs : List Char} {c mark : Char} (h : mark ∉ cs) (hc : c ≠ mark)
    (after rest : List Char) :
    cs ++ c :: after ≠ mark :: rest := by
  intro heq
  cases cs with
  | nil => exact hc (List.cons.inj heq).1
  | cons d cs => exact h (List.mem_cons.mpr (Or.inl (List.cons.inj heq).1.symm))

/-- Names are read back from their text. -/
theorem readContent_alias {names : List String} (h : ∀ name ∈ names, IsWord name)
    (rest : List Char) :
    readContent ((Body.alias names).text.toList ++ rest) = some (.names names, rest) := by
  have htext : (Body.alias names).text.toList ++ rest =
      (" | ".intercalate names).toList ++ ';' :: rest := by
    simp [Body.text]
  have hend : ';' ∉ (" | ".intercalate names).toList :=
    notMem_words h (by decide) (by decide)
  -- A right side that is read as names begins with neither a brace nor a quote.
  rw [htext, readContent, cut_append hend, readWords_words h]
  · exact append_cons_ne_cons (notMem_words h (by decide) (by decide)) (by decide) _
  · exact append_cons_ne_cons (notMem_words h (by decide) (by decide)) (by decide) _

theorem readContent_members {ms : List Member} (h : ∀ m ∈ ms, m.line.Legible)
    (rest : List Char) :
    readContent ((Body.members ms).text.toList ++ rest) =
      some (.lines (ms.map Member.line), rest) := by
  have htext : (Body.members ms).text.toList ++ rest =
      '{' :: ((insideText ms).toList ++ '}' :: rest) := by
    rw [Body.text, structureText_eq]
    simp
  rw [htext, readContent, cut_append (brace_notMem_insideText h), parts_insideText h,
    mapM_readLine h]
  rfl

/-- A right side is read back from its text. -/
theorem Body.readContent_text {body : Body} (h : body.content.Legible) (rest : List Char) :
    readContent (body.text.toList ++ rest) = some (body.content, rest) := by
  match body with
  | .literals values => exact readContent_literals h.1 h.2 rest
  | .alias names => exact readContent_alias h rest
  | .members ms => exact readContent_members (List.forall_mem_map.mp h) rest

/-! ## Descriptions -/

/-- A description that does not end its comment goes up to the first end of a comment. -/
theorem dropInfix?_description {text : List Char} (h : ¬['*', '/'] <:+: text)
    (rest : List Char) :
    (text ++ '\n' :: '*' :: '/' :: rest).dropInfix? ['*', '/'] = some (text ++ ['\n'], rest) := by
  rw [List.dropInfix?_eq_some_iff]
  refine ⟨⟨_, by simp, BEq.refl _⟩, ?_⟩
  intro before mark after hsplit hmark
  obtain rfl := eq_of_beq hmark
  -- An end that comes earlier would be in the text, or in the text and the characters after it.
  by_contra hearly
  have hprefix : before ++ ['*', '/'] <+: text ++ ['\n'] ++ ['*'] := by
    refine List.prefix_of_prefix_length_le ⟨after, hsplit.symm⟩ ⟨'/' :: rest, by simp⟩ ?_
    simp only [List.length_append, List.length_cons, List.length_nil] at hearly ⊢
    omega
  rcases List.prefix_concat_iff.mp hprefix with hlast | hprefix
  · have := congrArg List.getLast? hlast
    simp at this
  rcases List.prefix_concat_iff.mp hprefix with hlast | hprefix
  · have := congrArg List.getLast? hlast
    simp at this
  · exact h ((List.suffix_append before _).isInfix.trans hprefix.isInfix)

/-- A description is read back from its comment. -/
theorem readDescription_some {description : String}
    (h : ¬['*', '/'] <:+: description.toList) (rest : List Char) :
    readDescription ((commentText (some description)).toList ++ rest) =
      some (some description, rest) := by
  have htext : (commentText (some description)).toList ++ rest =
      "/*\n  description: ".toList ++
        (description.toList ++ '\n' :: '*' :: '/' :: '\n' :: rest) := by
    have hclose : "\n*/\n".toList = ['\n', '*', '/', '\n'] := by decide
    rw [commentText_some, String.toList_append, String.toList_append, hclose]
    simp only [List.append_assoc, List.cons_append, List.nil_append]
  rw [htext, readDescription, dropPrefix?_append]
  dsimp only
  rw [dropInfix?_description h, Option.bind_eq_bind, Option.bind_some, List.dropLast_concat,
    String.ofList_toList]
  rfl

theorem dropPrefix?_of_head_ne {c d : Char} (h : c ≠ d) (before rest : List Char) :
    (c :: rest).dropPrefix? (d :: before) = none := by
  rw [List.dropPrefix?, if_neg (by simpa using h)]

/-- A description is read back from its comment, and a text that begins with no slash has none. -/
theorem readDescription_comment {description : Option String}
    (h : ∀ text, description = some text → ¬['*', '/'] <:+: text.toList)
    {c : Char} (hc : c ≠ '/') (rest : List Char) :
    readDescription ((commentText description).toList ++ c :: rest) =
      some (description, c :: rest) := by
  cases description with
  | some text => exact readDescription_some (h text rfl) (c :: rest)
  | none =>
      have hopen : "/*\n  description: ".toList = '/' :: "*\n  description: ".toList := by decide
      change readDescription (c :: rest) = _
      rw [readDescription, hopen, dropPrefix?_of_head_ne hc]

/-! ## Declarations -/

theorem readExport_append (exported : Bool) (rest : List Char) :
    readExport ((if exported then "export " else "").toList ++ ("type ".toList ++ rest)) =
      (exported, "type ".toList ++ rest) := by
  cases exported with
  | true => rw [if_pos rfl, readExport, dropPrefix?_append]
  | false =>
      have hnone : ("type ".toList ++ rest).dropPrefix? "export ".toList = none := by
        have hexport : "export ".toList = 'e' :: "xport ".toList := by decide
        have htype : "type ".toList = 't' :: "ype ".toList := by decide
        rw [hexport, htype]
        exact dropPrefix?_of_head_ne (by decide) _ _
      change readExport ("type ".toList ++ rest) = _
      rw [readExport, hnone]

theorem exists_cons_export (exported : Bool) (rest : List Char) :
    ∃ c cs, c ≠ '/' ∧
      (if exported then "export " else "").toList ++ ("type ".toList ++ rest) = c :: cs := by
  cases exported with
  | true => exact ⟨'e', _, by decide, rfl⟩
  | false => exact ⟨'t', _, by decide, rfl⟩

/-- An entry is read part by part. -/
theorem readEntry_eq {cs declared named right rest : List Char} {description : Option String}
    {exported : Bool} {content : Content}
    (hdescription : readDescription cs = some (description, declared))
    (hexport : readExport declared = (exported, "type ".toList ++ named))
    (hname : afterWord named = " = ".toList ++ right)
    (hcontent : readContent right = some (content, rest)) :
    readEntry cs = some ({ description, exported, name := firstWord named, content }, rest) := by
  rw [readEntry, hdescription, Option.bind_eq_bind, Option.bind_some]
  dsimp only
  rw [hexport]
  dsimp only
  rw [dropPrefix?_append, Option.bind_eq_bind, Option.bind_some, hname, dropPrefix?_append,
    Option.bind_eq_bind, Option.bind_some, hcontent, Option.bind_some]
  rfl

/-- A declaration is read back from its text, whatever comes after it. -/
theorem Declaration.readEntry_text {d : Declaration} (h : d.entry.Legible) (rest : List Char) :
    readEntry (d.text.toList ++ rest) = some (d.entry, rest) := by
  have htext : d.text.toList ++ rest =
      (commentText d.description).toList ++ ((if d.exported then "export " else "").toList ++
        ("type ".toList ++ (d.name.toList ++ (" = ".toList ++ (d.body.text.toList ++ rest))))) := by
    simp only [Declaration.text, String.toList_append, List.append_assoc]
  have hequals : " = ".toList = ' ' :: "= ".toList := by decide
  have hword : IsWord d.name := h.name
  obtain ⟨hname, hafter⟩ := hword.split_append hequals (by decide) (d.body.text.toList ++ rest)
  obtain ⟨c, cs, hc, hcs⟩ := exists_cons_export d.exported
    (d.name.toList ++ (" = ".toList ++ (d.body.text.toList ++ rest)))
  have hdescription := readDescription_comment h.description hc cs
  rw [← hcs] at hdescription
  have hentry := readEntry_eq hdescription (readExport_append d.exported _) hafter
    (Body.readContent_text h.content rest)
  rw [hname] at hentry
  rw [htext]
  exact hentry

theorem Declaration.text_ne_nil (d : Declaration) :
    d.text.toList ≠ [] := by
  intro hnil
  have htext := String.toList_eq_nil_iff.mp hnil
  simp [Declaration.text] at htext

theorem joinTexts_cons_cons (text next : String) (texts : List String) :
    (joinTexts (text :: next :: texts)).toList =
      text.toList ++ '\n' :: '\n' :: (joinTexts (next :: texts)).toList := by
  simp [joinTexts, String.toList_intercalate]

theorem readEntries_nil (count : Nat) :
    readEntries count [] = some [] := by
  cases count <;> rfl

/-- One declaration in front of others is read first. -/
theorem readEntries_append {d : Declaration} (h : d.entry.Legible) (count : Nat)
    (rest : List Char) :
    readEntries (count + 1) (d.text.toList ++ rest) =
      (d.entry :: ·) <$> readEntries count (rest.drop 2) := by
  have hne : d.text.toList ++ rest ≠ [] :=
    fun hnil => d.text_ne_nil (List.append_eq_nil_iff.mp hnil).1
  rw [readEntries, Declaration.readEntry_text h, Option.bind_eq_bind, Option.bind_some]
  · dsimp only
    cases readEntries count (rest.drop 2) <;> rfl
  · exact hne

/-- Declarations are read back from their texts. -/
theorem readEntries_joinTexts {ds : List Declaration} (h : ∀ d ∈ ds, d.entry.Legible)
    {count : Nat} (hcount : ds.length ≤ count) :
    readEntries count (joinTexts (ds.map Declaration.text)).toList =
      some (ds.map Declaration.entry) := by
  induction ds generalizing count with
  | nil => exact readEntries_nil count
  | cons d ds ih =>
      obtain ⟨hd, hrest⟩ := List.forall_mem_cons.mp h
      obtain ⟨count, rfl⟩ := Nat.exists_eq_succ_of_ne_zero (Nat.ne_zero_of_lt hcount)
      have hshort : ds.length ≤ count := Nat.le_of_succ_le_succ hcount
      cases ds with
      | nil =>
          have hlast := readEntries_append hd count []
          rw [List.append_nil, List.drop_nil, readEntries_nil] at hlast
          exact hlast
      | cons next ds =>
          have hothers := ih hrest hshort
          rw [List.map_cons] at hothers
          rw [List.map_cons, List.map_cons, joinTexts_cons_cons, readEntries_append hd, List.drop,
            List.drop, List.drop, hothers]
          rfl

theorem length_le_length_joinTexts (ds : List Declaration) :
    ds.length ≤ (joinTexts (ds.map Declaration.text)).toList.length := by
  induction ds with
  | nil => exact Nat.zero_le _
  | cons d ds ih =>
      cases ds with
      | nil => exact List.length_pos_iff.mpr d.text_ne_nil
      | cons next ds =>
          rw [List.map_cons, List.map_cons, joinTexts_cons_cons]
          simp only [List.map_cons, List.length_append, List.length_cons] at ih ⊢
          omega

/-- Declarations are read back from the text that they are joined to. -/
theorem read?_joinTexts {ds : List Declaration} (h : ∀ d ∈ ds, d.entry.Legible) :
    read? (joinTexts (ds.map Declaration.text)) = some (ds.map Declaration.entry) :=
  readEntries_joinTexts h (length_le_length_joinTexts ds)

example :
    read? "type A = \x7b\x7d\n\n/*\n  description: type B = A;\n*/\nexport type B = A | C;" =
      some [
        { name := "A", content := .lines [] },
        { description := some "type B = A;", exported := true, name := "B",
          content := .names ["A", "C"] }] := by
  decide +kernel

end Flow
end FlowDecl
