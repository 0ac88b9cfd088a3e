import FlowDecl.Proofs.CommandLine.Deliveries
import FlowDecl.Proofs.CommandLine.SavedDocument

/-!
# The files that a run leaves

A run that ends well has written one file, unless it was asked for a page, and a run that fails has
changed nothing: directories are made only where the file can be written afterwards.

There is one exception.  A name that is too long for a file is found out only when it is used, and
by then the directories above it are made.  They stay.
-/

namespace FlowDecl
namespace CommandLine

open Json (Value)
open Files (Tree IsName AreNames pathText)

/-! ## The files that are left -/

/-- The files after a delivery: the text is in its file, and besides only directories that were
missing above it are new. -/
def IsDelivered (around : Surroundings) (tree : Tree) (arguments : List String) (left : Tree) :
    Prop :=
  ∃ path text, Delivers around tree arguments path text ∧
    left.read (tree.absolute path) = .ok (Text.Utf8.encode text) ∧
    tree.SameBeside (tree.resolve (tree.absolute path)) left

theorem keepsFiles_typelessEndpoint : Formatter.KeepsFiles typelessEndpoint.runner :=
  fun _ _ _ => rfl

theorem isName_work : IsName "work" :=
  ⟨by decide, by decide, by decide, by decide, by decide⟩

theorem isSound_emptyTree : emptyTree.IsSound where
  current := List.forall_mem_singleton.mpr isName_work
  above := by
    intro names _ hne hthere
    have hwork : names = ["work"] := by
      by_contra hother
      refine hthere ?_
      rw [Tree.node?, if_neg (by simpa using hne), emptyTree, List.lookup_cons,
        beq_eq_false_iff_ne.mpr hother]
      rfl
    rw [hwork]
    rfl

/-- The directory without files after a directory is made in it. -/
def newTree : Tree :=
  emptyTree.put ["work", "new"] .directory

/-- The path of a name in that directory. -/
def newPath (name : String) : String :=
  pathText ["work", "new", name]

theorem isName_new : IsName "new" :=
  ⟨by decide, by decide, by decide, by decide, by decide⟩

section Overlong

variable {name : String} (hname : IsName name)

include hname

theorem areNames_newPath : AreNames ["work", "new", name] := by
  intro part hpart
  simp only [List.mem_cons, List.not_mem_nil, or_false] at hpart
  rcases hpart with rfl | rfl | rfl
  · exact isName_work
  · exact isName_new
  · exact hname

/-- The path leads to the name if the directory is there and nothing is too long. -/
theorem locate_newPath {t : Tree} (hwork : t.node? ["work"] = some .directory) :
    t.locate (newPath name) =
      if Files.longestPath < (newPath name).utf8ByteSize then .error .tooLong
      else
        match t.node? ["work", "new"] with
        | none => .error .missing
        | some (.file _) => .error .notADirectory
        | some .directory =>
          if Files.longestPart < name.utf8ByteSize then .error .tooLong
          else .ok ["work", "new", name] := by
  have hshort : ¬Files.longestPart < "work".utf8ByteSize := by decide
  have hnew : ¬Files.longestPart < "new".utf8ByteSize := by decide
  rw [newPath, Tree.locate_pathText_eq (areNames_newPath hname)]
  simp only [Tree.walk, Tree.node?_nil, List.nil_append, if_neg isName_work.ne_dot,
    if_neg isName_work.ne_dots, if_neg hshort, hwork, if_neg isName_new.ne_dot,
    if_neg isName_new.ne_dots, if_neg hname.ne_dot, if_neg hname.ne_dots, if_neg hnew]
  rfl

/-- The output is accepted, for nothing is there yet. -/
theorem checkFile_newPath (hint : String) :
    checkFile .introspect emptyTree false hint (newPath name) = .ok () := by
  have hlocate : ∃ cause, emptyTree.locate (newPath name) = .error cause ∧
      cause ≠ .nullCharacter := by
    rw [locate_newPath hname (show emptyTree.node? ["work"] = some .directory by decide)]
    split
    · exact ⟨.tooLong, rfl, by decide⟩
    · exact ⟨.missing, rfl, by decide⟩
  obtain ⟨cause, hcause, hnull⟩ := hlocate
  have hstat : emptyTree.stat (newPath name) = .error cause := by
    rw [Tree.stat, hcause]
    rfl
  have hlook : lookAt emptyTree (newPath name) = .ok none := by
    rw [lookAt, hstat]
    cases cause <;> first | rfl | exact absurd rfl hnull
  rw [checkFile, hlook]
  rfl

/-- The directory of a name that is too long is made, and then the name is refused. -/
theorem run_save_newPath (hlong : Files.longestPart < name.utf8ByteSize) (document : Value) :
    (Introspect.save (newPath name) document).run.run emptyTree =
      (.error ⟨.tooLong, newPath name⟩, newTree) := by
  have hlocate : newTree.locate (newPath name) = .error .tooLong := by
    have hwork : newTree.node? ["work"] = some .directory := by decide
    have hthere : newTree.node? ["work", "new"] = some .directory := by decide
    rw [locate_newPath hname hwork, hthere]
    simp only [if_pos hlong, ite_self]
  have hwrite (octets : List UInt8) : newTree.write (newPath name) octets = .error .tooLong := by
    rw [Tree.write, hlocate]
    rfl
  have hplace : (Files.makePlace 3 ["work", "new"]).run.run emptyTree = (.ok (), newTree) := rfl
  have habove : ["work", "new", name].dropLast = ["work", "new"] := rfl
  have hcount : ["work", "new", name].length = 3 := rfl
  have htext : pathText ["work", "new", name] = newPath name := rfl
  have hresolve : emptyTree.resolve (newPath name) = ["work", "new", name] :=
    Tree.resolve_pathText (areNames_newPath hname)
  rw [run_save_document, Tree.absolute_eq, hresolve, FlowDecl.Outcome.run_bind, habove, hcount,
    hplace]
  simp only [htext, Files.run_save, hwrite]

end Overlong

/-- What is given to save the document of the endpoint. -/
def savingOptions (path : String) : Given OptionKey where
  options := [(.url, "http://localhost"), (.output, path)]

/-- A request for saving the document is read if its output is accepted. -/
theorem readRequest_typelessEndpoint {path : String}
    (hpath : ∀ hint, checkFile .introspect emptyTree false hint path = .ok ()) :
    Introspect.readRequest typelessEndpoint emptyTree ["--url", "http://localhost", "-o", path] =
      .ok { url := "http://localhost", output := path, endpoint := {} } := by
  have hread : Arguments.read introspectForms true ["--url", "http://localhost", "-o", path] =
      .ok (savingOptions path) := rfl
  have hcheck (key : OptionKey) :
      Introspect.check emptyTree (savingOptions path) key = .ok () := by
    cases key with
    | output => exact hpath _
    | _ => rfl
  have hchecks (keys : List OptionKey) :
      keys.forM (Introspect.check emptyTree (savingOptions path)) = .ok () := by
    induction keys with
    | nil => rfl
    | cons key keys ih =>
        rw [List.forM, hcheck key]
        exact ih
  have hgiven : checkGiven .introspect introspectForms 0 (Introspect.check emptyTree)
      (savingOptions path) = .ok (savingOptions path) := by
    have hhelp : (savingOptions path).has .help = false := rfl
    rw [checkGiven, hhelp, hchecks]
    rfl
  rw [Introspect.readRequest, readCommand_eq, hread]
  change (checkGiven .introspect introspectForms 0 (Introspect.check emptyTree)
    (savingOptions path) >>= _) = _
  rw [hgiven]
  rfl

/-- Saving under a name that is too long fails and leaves the directory of the name behind. -/
theorem isOf_introspect_newPath {name : String} (hname : IsName name)
    (hlong : Files.longestPart < name.utf8ByteSize) :
    (run typelessEndpoint emptyTree
        ["introspect", "--url", "http://localhost", "-o", newPath name]).IsOf
      (.error (.crash (.file ⟨.tooLong, newPath name⟩)), newTree) := by
  have hending : introspectEnding typelessEndpoint emptyTree
      ["--url", "http://localhost", "-o", newPath name] =
        (.error (.crash (.file ⟨.tooLong, newPath name⟩)), newTree) := by
    obtain ⟨credentials, hcredentials, hsend⟩ : ∃ credentials,
        Endpoint.Credentials.ofTexts none [] = .ok credentials ∧
          (clientOf "http://localhost" credentials {}).canSend = true := ⟨_, rfl, rfl⟩
    have hdocument : documentOf typelessEndpoint .introspect "http://localhost" {} =
        .ok typelessDocument :=
      documentOf_eq_ok_iff.mpr ⟨credentials, hcredentials, fetch_typelessEndpoint _ hsend⟩
    rw [introspectEnding, readRequest_typelessEndpoint (checkFile_newPath hname)]
    simp only [Ending.after_ok, hdocument, saveEnding, run_save_newPath hname hlong]
  rw [← hending]
  exact isOf_of_comesTo takesTexts_typelessEndpoint (comesTo_introspect _)

/-- A name with one octet more than a file can have. -/
def overlongName : String :=
  String.ofList (List.replicate 256 'x')

theorem isName_overlongName : IsName overlongName := by
  have hchars : overlongName.toList = List.replicate 256 'x' := String.toList_ofList
  have hlength (text : String) (h : text.toList.length ≠ 256) : overlongName ≠ text := by
    rintro rfl
    rw [hchars, List.length_replicate] at h
    exact h rfl
  refine ⟨?_, hlength "." (by decide), hlength ".." (by decide), ?_, ?_⟩
  · rw [hchars]
    exact List.cons_ne_nil _ _
  · rw [hchars]
    intro hslash
    exact absurd (List.eq_of_mem_replicate hslash) (by decide)
  · rw [Files.hasNull, hchars]
    decide +kernel

/-- A run that is asked for help delivers nothing. -/
theorem not_delivers_help {around : Surroundings} {tree : Tree} {path text : String} :
    ¬Delivers around tree ["generate", "--help"] path text := by
  intro h
  cases h with
  | module hcommand hrequest =>
      cases hcommand
      cases hrequest
  | document hcommand =>
      have hname := List.head_eq_of_cons_eq (Except.ok.inj hcommand)
      exact absurd hname (by decide)

end CommandLine
end FlowDecl
