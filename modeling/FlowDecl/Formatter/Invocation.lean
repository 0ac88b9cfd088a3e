import FlowDecl.Formatter.Filter

/-!
# Switches of filters

Most filters are told what to do by switches among their arguments: letters after a hyphen, which
may be written together, and names after two hyphens, which may be cut short.  What is no switch is
an operand.
-/

namespace FlowDecl
namespace Formatter

inductive SwitchValue where
  | never
  | always
  /-- The value is written together with the switch if there is one. -/
  | sometimes
  deriving DecidableEq, Repr

/-- A switch: its letter, its names and its value.  A switch without a letter of its own is told by
a letter that cannot be written. -/
structure Switch where
  letter : Char
  names : List String := []
  value : SwitchValue := .never
  deriving Repr

/-- Why arguments cannot be read. -/
inductive InvocationFault where
  | unknownLetter (c : Char)
  | unknownName (text : String)
  | ambiguous (text : String) (names : List String)
  | missingValue (c : Char)
  | missingNameValue (name : String)
  | unwantedValue (name : String)
  deriving DecidableEq, Repr

/-- The octets of the words for a fault.  A letter is named by its first octet. -/
def InvocationFault.words : InvocationFault → List UInt8
  | .unknownLetter c =>
    Text.Utf8.encode "invalid option -- '" ++ (Text.Utf8.encodeChar c).take 1 ++ [39]
  | .unknownName text => Text.Utf8.encode ("unrecognized option '" ++ text ++ "'")
  | .ambiguous text names =>
    Text.Utf8.encode ("option '" ++ text ++ "' is ambiguous; possibilities: " ++
      " ".intercalate (names.map fun n => "'--" ++ n ++ "'"))
  | .missingValue c =>
    Text.Utf8.encode ("option requires an argument -- '" ++ c.toString ++ "'")
  | .missingNameValue name => Text.Utf8.encode ("option '--" ++ name ++ "' requires an argument")
  | .unwantedValue name => Text.Utf8.encode ("option '--" ++ name ++ "' doesn't allow an argument")

/-- The arguments of a filter as far as they can be read. -/
structure Invocation where
  /-- The letters of the switches that are given, with their values. -/
  switches : List (Char × String) := []
  operands : List String := []
  /-- Why the arguments after these switches cannot be read. -/
  fault : Option InvocationFault := none

namespace Invocation

/-- What is read of an argument that begins with a hyphen. -/
structure Taken where
  switches : List (Char × String) := []
  /-- The arguments after it. -/
  rest : List String := []
  fault : Option InvocationFault := none

/-- Reads letters that are written together. -/
def takeLetters (known : List Switch) : List Char → List String → Taken
  | [], rest => { rest }
  | c :: cs, rest =>
    match known.find? fun s => s.letter = c && c != '-' with
    | none => { rest, fault := some (.unknownLetter c) }
    | some s =>
      match s.value with
      | .never =>
        let t := takeLetters known cs rest
        { t with switches := (c, "") :: t.switches }
      | .sometimes => { switches := [(c, String.ofList cs)], rest }
      | .always =>
        if !cs.isEmpty then { switches := [(c, String.ofList cs)], rest }
        else
          match rest with
          | [] => { rest, fault := some (.missingValue c) }
          | value :: rest => { switches := [(c, value)], rest }

/-- The switches that a name can stand for, each with its full name. -/
def candidates (known : List Switch) (name : String) : List (Switch × String) :=
  let all := known.flatMap fun s => s.names.map fun n => (s, n)
  match all.filter fun p => p.2 = name with
  | [] => all.filter fun p => name.toList.isPrefixOf p.2.toList
  | exact => exact

/-- Reads a name; `text` is what follows the two hyphens. -/
def takeName (known : List Switch) (text : List Char) (rest : List String) : Taken :=
  let name := String.ofList (text.takeWhile (· != '='))
  let value := (text.dropWhile (· != '=')).drop 1
  let hasValue := text.contains '='
  let found := candidates known name
  let fail (fault : InvocationFault) : Taken := { rest, fault := some fault }
  match found with
  | [] => fail (.unknownName ("--" ++ String.ofList text))
  | (s, full) :: others =>
    if others.any fun p => p.1.letter != s.letter then
      fail (.ambiguous ("--" ++ String.ofList text) (found.map (·.2)))
    else if hasValue && s.value = .never then fail (.unwantedValue full)
    else if s.value = .always && !hasValue then
      match rest with
      | [] => fail (.missingNameValue full)
      | value :: rest => { switches := [(s.letter, value)], rest }
    else { switches := [(s.letter, String.ofList value)], rest }

/-- Reads at most `fuel` arguments, up to a fault. -/
def readFrom (known : List Switch) (permuted : Bool) (i : Invocation) :
    Nat → List String → Invocation
  | 0, _ => i
  | _, [] => i
  | fuel + 1, argument :: rest =>
    let goOn (t : Taken) : Invocation :=
      let i := { i with switches := i.switches ++ t.switches, fault := t.fault }
      if t.fault.isSome then i else readFrom known permuted i fuel t.rest
    match argument.toList with
    | ['-', '-'] => { i with operands := i.operands ++ rest }
    | '-' :: '-' :: text => goOn (takeName known text rest)
    | '-' :: c :: cs => goOn (takeLetters known (c :: cs) rest)
    | _ =>
      if permuted then
        readFrom known permuted { i with operands := i.operands ++ [argument] } fuel rest
      else { i with operands := i.operands ++ argument :: rest }

/-- Reads arguments.  Unless they are permuted, the switches end at the first operand. -/
def read (known : List Switch) (permuted : Bool) (arguments : List String) : Invocation :=
  readFrom known permuted {} arguments.length arguments

def has (i : Invocation) (letters : List Char) : Bool :=
  i.switches.any fun s => letters.contains s.1

end Invocation

/-- The letter of the switch that asks how a filter is called. -/
def helpLetter : Char := '\x10'

/-- The letter of the switch that asks which version a filter has. -/
def versionLetter : Char := '\x11'

/-- The switches that ask about the filter itself. -/
def askingSwitches : List Switch :=
  [⟨helpLetter, ["help"], .never⟩, ⟨versionLetter, ["version"], .never⟩]

namespace Call

/-- A filter that ends with a fault of its arguments. -/
def misinvoke (c : Call) (fault : InvocationFault) : Result :=
  let hint := Text.Utf8.encode ("\nTry '" ++ c.program ++ " --help' for more information.")
  { status := 1, written := [(2, c.sayOctets (fault.words ++ hint))], rest := c.input }

/-- Runs a filter on its switches and operands.  What is wrong with the arguments comes after what
is asked before. -/
def invoke (c : Call) (known : List Switch) (permuted : Bool) (usage : String)
    (run : Invocation → Result) : Result :=
  let i := Invocation.read (known ++ askingSwitches) permuted c.arguments
  if i.has [helpLetter] then c.closing (c.tell usage)
  else if i.has [versionLetter] then c.closing (c.tell (c.program ++ "\n"))
  else
    match i.fault with
    | none => run i
    | some fault => c.misinvoke fault

end Call
end Formatter
end FlowDecl
