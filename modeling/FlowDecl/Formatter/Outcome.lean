import FlowDecl.Files.Tree
import FlowDecl.Json.Display
import FlowDecl.Text.Blank
import FlowDecl.Text.Lines
import FlowDecl.Text.Utf8

/-!
# External formatters

A formatter is a command that reads a text and writes another.  What comes of running it is an
outcome: it cannot be started, it takes too long, or it ends with a status and with what it wrote.
The written text is taken if the status is zero.  What it wrote has to be UTF-8 in any case, and
line ends of any sort are read as `LF`.
-/

namespace FlowDecl
namespace Formatter

open Json.Value (Numeric)

/-- What comes of running a command. -/
inductive Outcome where
  | notStarted (cause : Files.Cause)
  | timedOut
  /-- A negative status is the number of the signal that ended the command. -/
  | ended (status : Int) (output errors : List UInt8)
  deriving Repr, Inhabited

/-- A command and the seconds that it may take. -/
structure Command where
  program : String
  arguments : List String := []
  timeout : Numeric := .float (.ofDecimal false 60 0)

def Command.words (c : Command) : List String :=
  c.program :: c.arguments

/-- A way to run commands on an input.  A command may change files. -/
abbrev Runner := Command → List UInt8 → StateM Files.Tree Outcome

/-- Why a text is not formatted. -/
inductive Fault where
  | emptyCommand
  /-- A word of the command has a null character. -/
  | nullCharacter
  | notStarted (program : String) (cause : Files.Cause)
  | timedOut (command : Command)
  | badStatus (program : String) (status : Int) (words : String)
  | notUtf8 (refusal : Text.Utf8.Refusal)

namespace Fault

/-- The sentence for a fault. -/
def message : Fault → String
  | .emptyCommand => "Formatter command is empty"
  | .nullCharacter => Files.Cause.words .nullCharacter
  | .notStarted program cause =>
    "Formatter " ++ program ++ " failed: " ++ Files.Fault.message ⟨cause, program⟩
  | .timedOut command =>
    "Formatter " ++ command.program ++ " failed: Command '" ++
      (Json.Value.arr (command.words.map .str)).shown ++ "' timed out after " ++
      command.timeout.shown ++ " seconds"
  | .badStatus program status words =>
    "Formatter " ++ program ++ s!" exited with status {status}: " ++ words
  | .notUtf8 refusal => refusal.message

def isReported : Fault → Bool
  | .nullCharacter => false
  | .notUtf8 _ => false
  | _ => true

end Fault

def Command.ofWords (words : List String) (timeout : Option Numeric := none) :
    Except Fault Command :=
  match words with
  | [] => .error .emptyCommand
  | program :: arguments =>
    match timeout with
    | none => .ok { program, arguments }
    | some timeout => .ok { program, arguments, timeout }

/-- The text that a command wrote. -/
def readWritten (octets : List UInt8) : Except Fault String :=
  match Text.Utf8.decodeFrom 0 [] octets with
  | .ok cs => .ok (String.ofList (Text.unifyNewlines cs))
  | .error refusal => .error (.notUtf8 refusal)

def readOutcome (command : Command) : Outcome → Except Fault String
  | .notStarted cause => .error (.notStarted command.program cause)
  | .timedOut => .error (.timedOut command)
  | .ended status output errors => do
    let written ← readWritten output
    let words ← readWritten errors
    if status = 0 then return written
    else throw (.badStatus command.program status (Text.trim words))

/-- What may fail with a fault and changes files, even if it fails. -/
abbrev Action := ExceptT Fault (StateM Files.Tree)

def format (run : Runner) (command : Command) (text : String) : Action String := do
  if command.words.any Files.hasNull then throw .nullCharacter
  match readOutcome command (← run command (Text.Utf8.encode text)) with
  | .ok formatted => return formatted
  | .error fault => throw fault

end Formatter
end FlowDecl
