import FlowDecl.Text.Similarity

/-!
# Arguments

Arguments are options and positional arguments.  A long option is written with its name, and its
value follows or comes after an equals sign; short options may be written together, and the rest of
such an argument is the value of the first of them that takes one.  Two hyphens end the options.

The options are answered in the order in which they are given.
-/

namespace FlowDecl
namespace CommandLine

structure OptionForm (κ : Type) where
  key : κ
  long : String
  short : Option Char := none
  takesValue : Bool := true

/-- What was given: the options with their values, in order, and the other arguments. -/
structure Given (κ : Type) where
  options : List (κ × String) := []
  positional : List String := []

/-- Why arguments cannot be read. -/
inductive ArgumentFault where
  /-- An option that there is none of, and the long options that are like it. -/
  | unknownOption (option : String) (alike : List String := [])
  | missingValue (option : String)
  | unwantedValue (option : String)
  deriving DecidableEq, Repr

namespace Arguments

variable {κ : Type}

/-- What the options in one argument leave: the options and the arguments that follow. -/
abbrev Taken (κ : Type) := Except ArgumentFault (List (κ × String) × List String)

/-- The value of an option is the next argument. -/
def takeNext (key : κ) (option : String) : List String → Taken κ
  | [] => .error (.missingValue option)
  | value :: rest => .ok ([(key, value)], rest)

/-- Reads short options that are written together. -/
def takeShort (forms : List (OptionForm κ)) : List Char → List String → Taken κ
  | [], rest => .ok ([], rest)
  | c :: cs, rest =>
    let option := String.ofList ['-', c]
    match forms.find? fun f => f.short = some c with
    | none => .error (.unknownOption option)
    | some f =>
      if f.takesValue then
        if cs.isEmpty then takeNext f.key option rest
        else .ok ([(f.key, String.ofList cs)], rest)
      else (takeShort forms cs rest).map fun taken => ((f.key, "") :: taken.1, taken.2)

def takeLong (forms : List (OptionForm κ)) (argument : List Char) (rest : List String) : Taken κ :=
  let option := String.ofList (argument.takeWhile (· != '='))
  match forms.find? fun f => f.long = option with
  | none => .error (.unknownOption option (Text.closeNames option (forms.map (·.long))))
  | some f =>
    match argument.dropWhile (· != '=') with
    | [] => if f.takesValue then takeNext f.key option rest else .ok ([(f.key, "")], rest)
    | _ :: value =>
      if f.takesValue then .ok ([(f.key, String.ofList value)], rest)
      else .error (.unwantedValue option)

/-- Reads the first argument as an option, unless it is none. -/
def takeOption? (forms : List (OptionForm κ)) (argument : String) (rest : List String) :
    Option (Taken κ) :=
  match argument.toList with
  | '-' :: '-' :: cs => some (takeLong forms ('-' :: '-' :: cs) rest)
  | '-' :: c :: cs => some (takeShort forms (c :: cs) rest)
  | _ => none

/-- Reads at most `fuel` arguments. -/
def readFrom (forms : List (OptionForm κ)) (interspersed : Bool) (given : Given κ) :
    Nat → List String → Except ArgumentFault (Given κ)
  | 0, _ => .ok given
  | _, [] => .ok given
  | fuel + 1, argument :: rest =>
    if argument = "--" then .ok { given with positional := given.positional ++ rest }
    else
      match takeOption? forms argument rest with
      | some taken => do
        let (options, rest) ← taken
        readFrom forms interspersed { given with options := given.options ++ options } fuel rest
      | none =>
        if interspersed then
          readFrom forms interspersed { given with positional := given.positional ++ [argument] }
            fuel rest
        else .ok { given with positional := given.positional ++ argument :: rest }

/-- Reads arguments.  Unless options may be interspersed, they end at the first argument that is
none. -/
def read (forms : List (OptionForm κ)) (interspersed : Bool) (arguments : List String) :
    Except ArgumentFault (Given κ) :=
  readFrom forms interspersed {} arguments.length arguments

end Arguments

namespace Given

variable {κ : Type} [DecidableEq κ]

def has (g : Given κ) (key : κ) : Bool :=
  g.options.any fun o => o.1 = key

def values (g : Given κ) (key : κ) : List String :=
  (g.options.filter fun o => o.1 = key).map (·.2)

/-- The value of an option; the last one counts. -/
def value? (g : Given κ) (key : κ) : Option String :=
  (g.values key).getLast?

/-- The keys in the order in which they are checked: those that are given in their order, and then
those that are not in the order of their forms. -/
def checkOrder (g : Given κ) (keys : List κ) : List κ :=
  let first := (g.options.map (·.1)).eraseDups
  first ++ keys.filter fun key => !first.contains key

end Given
end CommandLine
end FlowDecl
