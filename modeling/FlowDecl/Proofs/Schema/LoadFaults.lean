import FlowDecl.Proofs.Sdl.Reading
import FlowDecl.Proofs.Text.Encoding
import FlowDecl.Schema.Load

/-!
# Faults of loading

A path gives a schema, or a fault that is reported to the user.  The exceptions are those of a path
that a file is looked for under: it has a null character, or the file is not the encoding of a
text, or the toolkit comes to grief over the schema definition text in it.  The last happens while
a type system is built, although the text is not found to be invalid, or while it is introspected,
be it that it turns out not to be valid only then.  Loading then fails by itself, with a fault that
nobody reports.

This holds of every toolkit.  Nesting and numbers of a document are not bounded here.
-/

namespace FlowDecl

/-! ## Paths that no file has -/

namespace Files
namespace Tree

theorem walk_ne_nullCharacter {t : Tree} {place : List String} {parts : List String} :
    t.walk place parts ≠ .error .nullCharacter := by
  induction parts generalizing place with
  | nil => simp [walk]
  | cons part parts ih =>
      rw [walk]
      split
      next => simp
      next => simp
      next =>
        split_ifs
        · exact ih
        · exact ih
        · simp
        · exact ih

theorem locate_eq_nullCharacter_iff {t : Tree} {path : String} :
    t.locate path = .error .nullCharacter ↔ hasNull path = true := by
  rw [locate]
  split_ifs with hnull hlong hempty
  · simp [hnull]
  · simp [hnull]
  · simp [hnull]
  · exact iff_of_false walk_ne_nullCharacter hnull

theorem stat_eq_nullCharacter_iff {t : Tree} {path : String} :
    t.stat path = .error .nullCharacter ↔ hasNull path = true := by
  rw [stat, Outcome.bind_eq_error_iff, locate_eq_nullCharacter_iff]
  refine or_iff_left ?_
  rintro ⟨place, -, h⟩
  split at h
  next => cases h
  next => cases h
  next =>
    split_ifs at h
    · cases h
    · cases h

/-- Reading refuses a null character in a path before it looks for a file. -/
theorem read_eq_nullCharacter_iff {t : Tree} {path : String} :
    t.read path = .error .nullCharacter ↔ hasNull path = true := by
  rw [read, Outcome.bind_eq_error_iff, stat_eq_nullCharacter_iff]
  refine or_iff_left ?_
  rintro ⟨node, -, h⟩
  cases node with
  | file octets => cases h
  | directory => cases h

end Tree
end Files

namespace Load

open Outcome (Succeeds)

/-- A computation that ends in a fault that is not reported. -/
def Escapes {α : Type} (x : Except Fault α) : Prop :=
  ∃ fault, x = .error fault ∧ fault.isReported = false

variable {α β : Type} {tree : Files.Tree} {path : String}

theorem not_escapes_iff {x : Except Fault α} :
    ¬Escapes x ↔ Succeeds x ∨ ∃ fault, x = .error fault ∧ fault.isReported = true := by
  cases x with
  | error fault => simp [Escapes, Outcome.not_succeeds_error]
  | ok a => simp [Escapes, Outcome.succeeds_ok]

theorem escapes_bind_iff {x : Except Fault α} {f : α → Except Fault β} :
    Escapes (x >>= f) ↔ Escapes x ∨ ∃ a, x = .ok a ∧ Escapes (f a) := by
  cases x with
  | error fault => simp [bind, Except.bind, Escapes]
  | ok a => simp [bind, Except.bind, Escapes]

/-! ## Files -/

/-- Octets that are the encoding of a text. -/
def IsEncoded (octets : List UInt8) : Prop :=
  ∃ cs : List Char, octets = cs.flatMap Text.Utf8.encodeChar

/-- A path that has a null character, or leads to a file that is not the encoding of a text. -/
def HasNoText (tree : Files.Tree) (path : String) : Prop :=
  Files.hasNull path = true ∨ ∃ octets, tree.read path = .ok octets ∧ ¬IsEncoded octets

/-- A path that leads to a file of a text; its line ends are read as `LF`. -/
def HasText (tree : Files.Tree) (path text : String) : Prop :=
  ∃ cs : List Char, tree.read path = .ok (cs.flatMap Text.Utf8.encodeChar) ∧
    text = String.ofList (Text.unifyNewlines cs)

theorem escapes_decodeFrom_iff {octets : List UInt8} :
    (∃ refusal, Text.Utf8.decodeFrom 0 [] octets = .error refusal) ↔ ¬IsEncoded octets := by
  rw [← Outcome.not_succeeds_iff, Succeeds, IsEncoded]
  simp only [Text.Utf8.decodeFrom_eq_ok_iff]

theorem escapes_readChars_iff : Escapes (readChars tree path) ↔ HasNoText tree path := by
  rw [HasNoText, ← Files.Tree.read_eq_nullCharacter_iff (t := tree), readChars]
  cases tree.read path with
  | error cause => cases cause <;> simp [Escapes, Fault.isReported]
  | ok octets =>
      simp only [reduceCtorEq, false_or, Except.ok.injEq, exists_eq_left', ← escapes_decodeFrom_iff]
      cases Text.Utf8.decodeFrom 0 [] octets with
      | error refusal => simp [Escapes, Fault.isReported]
      | ok cs => simp [Escapes]

theorem readChars_eq_ok_iff {cs : List Char} :
    readChars tree path = .ok cs ↔
      ∃ written : List Char, tree.read path = .ok (written.flatMap Text.Utf8.encodeChar) ∧
        Text.unifyNewlines written = cs := by
  rw [readChars]
  cases tree.read path with
  | error cause => simp
  | ok octets =>
      simp only [Except.ok.injEq, ← Text.Utf8.decodeFrom_eq_ok_iff]
      cases Text.Utf8.decodeFrom 0 [] octets with
      | error refusal => simp
      | ok written => simp

/-- A document that has a text is read, or refused with a report. -/
theorem escapes_readDocument_iff : Escapes (readDocument tree path) ↔ HasNoText tree path := by
  rw [readDocument, escapes_bind_iff, escapes_readChars_iff]
  -- A fault after that is one of the syntax or of the document, and both are reported.
  refine or_iff_left ?_
  rintro ⟨cs, -, fault, hfault, hreported⟩
  split at hfault
  next =>
    cases hfault
    cases hreported
  next =>
    obtain ⟨fault', -, rfl⟩ := Outcome.mapError_eq_error_iff.mp hfault
    cases hreported

/-! ## Schema definition text -/

/-- A text that a toolkit comes to grief over: building ends in a mishap, or a type system is built
and introspecting it does. -/
def ComesToGrief (toolkit : Sdl.Toolkit) (text : String) : Prop :=
  (∃ mishap, toolkit.build text = .error (.mishap mishap)) ∨
    ∃ types mishap, toolkit.build text = .ok types ∧ toolkit.introspect types = .error mishap

theorem escapes_readDefinitions_iff {toolkit : Sdl.Toolkit} {text : String} :
    Escapes (readDefinitions toolkit text) ↔ ComesToGrief toolkit text := by
  rw [readDefinitions, ComesToGrief]
  cases toolkit.build text with
  | error fault => cases fault <;> simp [Escapes, Fault.isReported]
  | ok types =>
      cases hintrospected : toolkit.introspect types with
      | error mishap => simp [hintrospected, Escapes, Fault.isReported]
      | ok document =>
          -- A fault of the document itself is reported.
          simp only [hintrospected, Escapes, Outcome.mapError_eq_error_iff]
          refine iff_of_false ?_ (by simp [hintrospected])
          rintro ⟨fault, ⟨fault', -, rfl⟩, hreported⟩
          cases hreported

theorem escapes_readDefinitionsAt_iff {toolkit : Sdl.Toolkit} :
    Escapes (readDefinitionsAt toolkit tree path) ↔
      HasNoText tree path ∨ ∃ text, HasText tree path text ∧ ComesToGrief toolkit text := by
  rw [readDefinitionsAt, escapes_bind_iff, escapes_readChars_iff]
  refine or_congr_right ?_
  simp only [escapes_readDefinitions_iff, readChars_eq_ok_iff, HasText]
  constructor
  · rintro ⟨-, ⟨written, hread, rfl⟩, hgrief⟩
    exact ⟨_, ⟨written, hread, rfl⟩, hgrief⟩
  · rintro ⟨-, ⟨written, hread, rfl⟩, hgrief⟩
    exact ⟨_, ⟨written, hread, rfl⟩, hgrief⟩

/-! ## Paths -/

/-- A path under which a file is looked for. -/
def IsSchemaPath (path : String) : Prop :=
  hasEnding documentEndings path = true ∨ hasEnding definitionEndings path = true

/-- What loading does not report: a path under which a file is looked for has a null character or
leads to a file that is not the encoding of a text, or it is that of schema definition text that the
toolkit comes to grief over. -/
def IsUnreported (toolkit : Sdl.Toolkit) (tree : Files.Tree) (path : String) : Prop :=
  (IsSchemaPath path ∧ HasNoText tree path) ∨
    (hasEnding documentEndings path = false ∧ hasEnding definitionEndings path = true ∧
      ∃ text, HasText tree path text ∧ ComesToGrief toolkit text)

theorem escapes_schemaAt_iff {toolkit : Sdl.Toolkit} :
    Escapes (schemaAt toolkit tree (some path)) ↔ IsUnreported toolkit tree path := by
  rw [schemaAt, IsUnreported, IsSchemaPath]
  by_cases hempty : path = ""
  · have hdocument : hasEnding documentEndings "" = false := by decide
    have hdefinitions : hasEnding definitionEndings "" = false := by decide
    rw [if_pos hempty, hempty, hdocument, hdefinitions]
    simp [Escapes, Fault.isReported]
  rw [if_neg hempty]
  cases hdocument : hasEnding documentEndings path with
  | true => simp [escapes_readDocument_iff]
  | false =>
      cases hdefinitions : hasEnding definitionEndings path with
      | true => simp [escapes_readDefinitionsAt_iff]
      | false => simp [Escapes, Fault.isReported]

/-- Loading gives a schema or a fault that is reported, whatever the toolkit, the path and the files
are, unless it comes to one of the faults that nobody reports. -/
theorem schemaAt_isReported_iff (toolkit : Sdl.Toolkit) (tree : Files.Tree)
    (path : Option String) :
    (Succeeds (schemaAt toolkit tree path) ∨
        ∃ fault, schemaAt toolkit tree path = .error fault ∧ fault.isReported = true) ↔
      ∀ name, path = some name → ¬IsUnreported toolkit tree name := by
  rw [← not_escapes_iff]
  cases path with
  | none => simp [schemaAt, Escapes, Fault.isReported]
  | some name => simp [escapes_schemaAt_iff]

/-! ## Faults that nobody reports -/

/-- A directory with a file of one octet that no text is encoded with. -/
def garbledTree : Files.Tree where
  entries := [(["schema.json"], .file [0xff])]

/-- A type system without a query. -/
def querylessChars : List Char :=
  ['t', 'y', 'p', 'e', ' ', 'A', ' ', '{', ' ', 'x', ':', ' ', 'I', 'n', 't', ' ', '}']

/-- A directory with a file of a type system without a query. -/
def querylessTree : Files.Tree where
  entries := [(["schema.graphql"], .file (querylessChars.flatMap Text.Utf8.encodeChar))]

/-- The definition in the file. -/
def querylessDocument : Sdl.Document :=
  [.type false { name := "A", shape := .object [] [{ name := "x", type := .named "Int" }] }]

theorem comesToGrief_queryless :
    ComesToGrief Sdl.standardToolkit (String.ofList querylessChars) := by
  have htokens : Sdl.tokens (String.ofList querylessChars) =
      some [.name "type", .name "A", .punctuator '{', .name "x", .punctuator ':', .name "Int",
        .punctuator '}'] := by
    decide +kernel
  have hparse : Sdl.parse (String.ofList querylessChars) = some querylessDocument := by
    rw [Sdl.parse, htokens]
    rfl
  have hbuild := Sdl.build_eq_ok_iff.mpr
    ⟨_, hparse, ⟨by decide +kernel, by decide +kernel⟩, rfl⟩
  have hreadable : (Sdl.TypeSystem.ofDocument querylessDocument).isUnreadable = false := by
    decide +kernel
  have hinvalid : (Sdl.TypeSystem.ofDocument querylessDocument).isValid = false := by
    decide +kernel
  have hintrospect : Sdl.introspect (.ofDocument querylessDocument) = .error ⟨"TypeError", ""⟩ := by
    rw [Sdl.introspect, hreadable, hinvalid]
    rfl
  exact Or.inr ⟨_, _, hbuild, hintrospect⟩

/-- A file is there that is not the encoding of a text, or a type system turns out not to be valid
when it is introspected, and the fault is not reported. -/
theorem exists_unreported_file :
    (¬∀ (tree : Files.Tree) (path : Option String),
        Succeeds (schemaAt Sdl.standardToolkit tree path) ∨
          ∃ fault, schemaAt Sdl.standardToolkit tree path = .error fault ∧
            fault.isReported = true) ∧
      Escapes (schemaAt Sdl.standardToolkit querylessTree (some "schema.graphql")) := by
  constructor
  · intro h
    have hfile : garbledTree.read "schema.json" = .ok [0xff] := by decide +kernel
    have hencoded : ¬IsEncoded [0xff] := by
      rw [← escapes_decodeFrom_iff]
      exact ⟨_, rfl⟩
    have hunreported : IsUnreported Sdl.standardToolkit garbledTree "schema.json" :=
      Or.inl ⟨Or.inl (by decide), Or.inr ⟨_, hfile, hencoded⟩⟩
    exact not_escapes_iff.mpr (h garbledTree (some "schema.json"))
      (escapes_schemaAt_iff.mpr hunreported)
  · have hfile : querylessTree.read "schema.graphql" =
        .ok (querylessChars.flatMap Text.Utf8.encodeChar) := by
      decide +kernel
    refine escapes_schemaAt_iff.mpr (Or.inr ⟨by decide, by decide, _, ⟨_, hfile, rfl⟩, ?_⟩)
    exact comesToGrief_queryless

end Load
end FlowDecl
