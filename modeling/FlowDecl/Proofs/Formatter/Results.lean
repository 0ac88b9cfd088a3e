import FlowDecl.Formatter.Outcome
import FlowDecl.Proofs.Outcome
import FlowDecl.Proofs.Schema.LoadFaults

/-!
# What comes of a formatter

A command that ends has written two texts, or octets that are no text.  Both are read before the
status is looked at.  So a status of zero is not enough for a result, and whether a fault is
reported does not depend on the status either: it is reported unless one of the two is no text, or
the command could not even be tried.
-/

namespace FlowDecl
namespace Formatter

open Load (IsEncoded)
open FlowDecl.Outcome (Succeeds bind_eq_ok_iff bind_eq_error_iff run_bind)

/-! ## Outcomes -/

/-- The command ends well, and it wrote a text and no errors but a text. -/
def Outcome.Gives (outcome : Outcome) (formatted : String) : Prop :=
  ∃ (written : List Char) (errors : List UInt8), IsEncoded errors ∧
    outcome = .ended 0 (written.flatMap Text.Utf8.encodeChar) errors ∧
      formatted = String.ofList (Text.unifyNewlines written)

/-- The command ends, and what it wrote or its errors are no text. -/
def Outcome.IsGarbled (outcome : Outcome) : Prop :=
  ∃ status output errors, outcome = .ended status output errors ∧
    ¬(IsEncoded output ∧ IsEncoded errors)

/-- A command that can be tried: none of its words has a null character. -/
def Command.CanBeTried (command : Command) : Prop :=
  ∀ word ∈ command.words, Files.hasNull word = false

/-! ## Reading what was written -/

variable {octets : List UInt8} {formatted : String} {fault : Fault}

theorem readWritten_eq_ok_iff :
    readWritten octets = .ok formatted ↔
      ∃ written : List Char, octets = written.flatMap Text.Utf8.encodeChar ∧
        formatted = String.ofList (Text.unifyNewlines written) := by
  simp only [← Text.Utf8.decodeFrom_eq_ok_iff]
  rw [readWritten]
  cases Text.Utf8.decodeFrom 0 [] octets with
  | error refusal => simp
  | ok written => simp [eq_comm]

theorem isEncoded_iff_succeeds : IsEncoded octets ↔ Succeeds (readWritten octets) := by
  simp only [Succeeds, readWritten_eq_ok_iff, IsEncoded]
  constructor
  · rintro ⟨written, hwritten⟩
    exact ⟨_, written, hwritten, rfl⟩
  · rintro ⟨-, written, hwritten, -⟩
    exact ⟨written, hwritten⟩

theorem not_isEncoded_of_readWritten (h : readWritten octets = .error fault) :
    ¬IsEncoded octets ∧ fault.isReported = false := by
  constructor
  · intro hencoded
    obtain ⟨written, hwritten⟩ := isEncoded_iff_succeeds.mp hencoded
    cases h.symm.trans hwritten
  · rw [readWritten] at h
    split at h
    · cases h
    · cases h
      rfl

theorem isEncoded_of_readWritten (h : readWritten octets = .ok formatted) : IsEncoded octets :=
  isEncoded_iff_succeeds.mpr ⟨formatted, h⟩

/-! ## Reading outcomes -/

variable {command : Command} {outcome : Outcome}

theorem readOutcome_eq_ok_iff :
    readOutcome command outcome = .ok formatted ↔ outcome.Gives formatted := by
  rw [Outcome.Gives]
  cases outcome with
  | notStarted cause => simp [readOutcome]
  | timedOut => simp [readOutcome]
  | ended status output errors =>
      rw [readOutcome, bind_eq_ok_iff]
      constructor
      · rintro ⟨text, htext, hrest⟩
        obtain ⟨words, hwords, hstatus⟩ := bind_eq_ok_iff.mp hrest
        obtain ⟨written, rfl, rfl⟩ := readWritten_eq_ok_iff.mp htext
        split at hstatus
        next hzero =>
          cases hstatus
          exact ⟨written, errors, isEncoded_of_readWritten hwords, by rw [hzero], rfl⟩
        next => cases hstatus
      · rintro ⟨written, _, hencoded, heq, rfl⟩
        cases heq
        obtain ⟨words, hwords⟩ := isEncoded_iff_succeeds.mp hencoded
        refine ⟨_, readWritten_eq_ok_iff.mpr ⟨written, rfl, rfl⟩, ?_⟩
        rw [hwords]
        rfl

/-- A fault of an outcome is reported unless something that was written is no text. -/
theorem isReported_iff_of_readOutcome (h : readOutcome command outcome = .error fault) :
    fault.isReported = true ↔ ¬outcome.IsGarbled := by
  rw [Outcome.IsGarbled]
  cases outcome with
  | notStarted cause =>
      cases h
      simp [Fault.isReported]
  | timedOut =>
      cases h
      simp [Fault.isReported]
  | ended status output errors =>
      have hgarbled : (∃ status' output' errors',
          Outcome.ended status output errors = .ended status' output' errors' ∧
            ¬(IsEncoded output' ∧ IsEncoded errors')) ↔ ¬(IsEncoded output ∧ IsEncoded errors) := by
        simp
      rw [hgarbled, not_not]
      rw [readOutcome, bind_eq_error_iff] at h
      rcases h with houtput | ⟨written, hwritten, h⟩
      · obtain ⟨hnone, hfault⟩ := not_isEncoded_of_readWritten houtput
        simp [hnone, hfault]
      · rcases bind_eq_error_iff.mp h with herrors | ⟨words, hwords, h⟩
        · obtain ⟨hnone, hfault⟩ := not_isEncoded_of_readWritten herrors
          simp [hnone, hfault]
        · have hfault : fault.isReported = true := by
            split at h
            · cases h
            · cases h
              rfl
          exact iff_of_true hfault
            ⟨isEncoded_of_readWritten hwritten, isEncoded_of_readWritten hwords⟩

/-- A fault that is reported names the program. -/
theorem exists_message_of_readOutcome (h : readOutcome command outcome = .error fault)
    (hreported : fault.isReported = true) :
    ∃ rest, fault.message = "Formatter " ++ command.program ++ rest := by
  have happend (a b c d e f g : String) :
      a ++ b ++ c ++ d ++ e ++ f ++ g = a ++ b ++ (c ++ d ++ e ++ f ++ g) := by
    simp only [String.append_assoc]
  cases outcome with
  | notStarted cause =>
      cases h
      exact ⟨_, String.append_assoc⟩
  | timedOut =>
      cases h
      exact ⟨_, happend _ _ _ _ _ _ _⟩
  | ended status output errors =>
      rw [readOutcome] at h
      have hwritten {octets : List UInt8} : readWritten octets ≠ .error fault := by
        intro hfault
        rw [(not_isEncoded_of_readWritten hfault).2] at hreported
        cases hreported
      obtain ⟨_, -, h⟩ := (bind_eq_error_iff.mp h).resolve_left hwritten
      obtain ⟨_, -, h⟩ := (bind_eq_error_iff.mp h).resolve_left hwritten
      split at h
      · cases h
      · cases h
        exact ⟨_, String.append_assoc⟩

/-! ## Formatting -/

section Format

variable (run : Runner) (command : Command) (text : String) (tree : Files.Tree)

/-- What comes of running the command on a text. -/
def outcomeOf : Outcome :=
  ((run command (Text.Utf8.encode text)).run tree).1

theorem any_hasNull_iff : command.words.any Files.hasNull = true ↔ ¬command.CanBeTried := by
  simp [Command.CanBeTried]

theorem run_format_of_canBeTried (h : command.CanBeTried) :
    ((format run command text).run.run tree).1 =
      readOutcome command (outcomeOf run command text tree) := by
  have hnone : ¬command.words.any Files.hasNull = true := by
    rw [any_hasNull_iff, not_not]
    exact h
  obtain ⟨tree', houtcome⟩ : ∃ tree',
      (liftM (run command (Text.Utf8.encode text)) : Action Outcome).run.run tree =
        (.ok (outcomeOf run command text tree), tree') := ⟨_, rfl⟩
  rw [format, if_neg hnone, run_bind, houtcome]
  dsimp only
  cases readOutcome command (outcomeOf run command text tree) <;> rfl

theorem run_format_of_not_canBeTried (h : ¬command.CanBeTried) :
    ((format run command text).run.run tree).1 = .error .nullCharacter := by
  rw [format, if_pos ((any_hasNull_iff command).mpr h)]
  rfl

variable {run command text tree} {formatted : String} {fault : Fault}

theorem format_eq_ok_iff :
    ((format run command text).run.run tree).1 = .ok formatted ↔
      command.CanBeTried ∧ (outcomeOf run command text tree).Gives formatted := by
  by_cases htried : command.CanBeTried
  · rw [run_format_of_canBeTried run command text tree htried, readOutcome_eq_ok_iff]
    exact (and_iff_right htried).symm
  · rw [run_format_of_not_canBeTried run command text tree htried]
    exact iff_of_false (FlowDecl.Outcome.error_ne_ok _ _) fun h => htried h.1

/-- A fault is reported if the command was tried and all that it wrote is text. -/
theorem isReported_iff_of_format (h : ((format run command text).run.run tree).1 = .error fault) :
    fault.isReported = true ↔
      command.CanBeTried ∧ ¬(outcomeOf run command text tree).IsGarbled := by
  by_cases htried : command.CanBeTried
  · rw [run_format_of_canBeTried run command text tree htried] at h
    rw [isReported_iff_of_readOutcome h]
    exact (and_iff_right htried).symm
  · rw [run_format_of_not_canBeTried run command text tree htried] at h
    cases h
    exact iff_of_false Bool.false_ne_true fun h => htried h.1

theorem exists_message_of_format (h : ((format run command text).run.run tree).1 = .error fault)
    (hreported : fault.isReported = true) :
    ∃ rest, fault.message = "Formatter " ++ command.program ++ rest := by
  have htried := ((isReported_iff_of_format h).mp hreported).1
  rw [run_format_of_canBeTried run command text tree htried] at h
  exact exists_message_of_readOutcome h hreported

end Format

end Formatter
end FlowDecl
