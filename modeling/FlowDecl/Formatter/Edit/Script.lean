import FlowDecl.Files.Tree
import FlowDecl.Formatter.Edit.Escape
import FlowDecl.Formatter.PatternText

/-!
# Edit scripts

The text of a script for line editing.  A script may come in several pieces; blocks, labels and the
text of an instruction may go on in the next piece.  A script that cannot be read is refused with
the place where reading stopped.

Reading gives drafts, in which jumps name their labels.  The instructions of the finished script
jump to places.  The files that a script writes are made while it is read.
-/

namespace FlowDecl
namespace Formatter
namespace Edit

structure ScriptManner where
  /-- Patterns are written in the extended way. -/
  extended : Bool := false
  /-- Only what all editors of lines agree on is understood. -/
  plain : Bool := false
  /-- Instructions that read or write files or run scripts are refused. -/
  confined : Bool := false
  deriving DecidableEq, Repr

/-- A piece of a script. -/
structure ScriptPiece where
  text : List Char := []
  /-- The file that the piece is in if it is not an argument. -/
  file : Option String := none
  /-- The number of arguments up to the piece. -/
  number : Nat := 0

/-- The position in a piece before what is left of it. -/
def ScriptPiece.position (p : ScriptPiece) (left : List Char) : Position :=
  let read := p.text.take (p.text.length - left.length)
  match p.file with
  | some file => .inFile file (read.count '\n' + 1)
  | none => .inArgument p.number read.length

/-- The line of a piece before what is left of it; the octets of an argument are not told. -/
def ScriptPiece.line (p : ScriptPiece) (left : List Char) : Position :=
  match p.position left with
  | .inArgument number _ => .inArgument number 0
  | position => position

inductive Body where
  | action (a : Action)
  | jump (condition : JumpCondition) (label : List UInt8)
  | block
  /-- An instruction whose text is not ended. -/
  | unfinished (make : List UInt8 → Action) (text : List Char)

/-- An instruction that is read. -/
structure Draft where
  address : Address
  others : Bool
  body : Body

/-- Where reading stands. -/
structure Cursor where
  manner : ScriptManner := {}
  piece : ScriptPiece := {}
  /-- What is left of the piece. -/
  rest : List Char := []
  /-- The instructions, last first. -/
  drafts : List Draft := []
  /-- The positions where the open blocks begin, the innermost first. -/
  openBlocks : List Position := []
  /-- Lines are written only where an instruction says so. -/
  quiet : Bool := false
  /-- The number of pieces before. -/
  pieces : Nat := 0
  /-- The number of addresses with patterns. -/
  addresses : Nat := 0
  tree : Files.Tree
  /-- The files that are written. -/
  written : List String := []
  /-- The files that lines are taken from, and whether they were there. -/
  taken : List (String × Bool) := []

/-- Reads a script or stops with a fault. -/
abbrev Reading := ExceptT Fault (StateM Cursor)

def refuse {α : Type} (fault : Fault) : Reading α :=
  throw fault

/-- Stops if a part of a script cannot be read. -/
def accept {α : Type} : Except Fault α → Reading α
  | .ok a => pure a
  | .error fault => throw fault

def isBlank (c : Char) : Bool :=
  c = ' ' || c = '\t'

def isSpace (c : Char) : Bool :=
  c = ' ' || ('\t' ≤ c && c ≤ '\r')

def left : Reading (List Char) :=
  return (← get).rest

def goTo (rest : List Char) : Reading Unit :=
  modify fun c => { c with rest }

/-- The next octet, which is not read yet. -/
def peek : Reading (Option Char) :=
  return (← left).head?

def next : Reading (Option Char) := do
  let rest ← left
  goTo (rest.drop 1)
  return rest.head?

def skipBlanks : Reading Unit := do
  goTo ((← left).dropWhile isBlank)

/-- Numbers are counted up to this one, which counts as zero. -/
def numberLimit : Nat := 18446744073709551616

/-- Reads a number, which is zero if there are no digits. -/
def readNumber : Reading Nat := do
  let rest ← left
  goTo (rest.dropWhile Char.isDigit)
  let digits := rest.takeWhile Char.isDigit
  return (digits.foldl (fun n c => n * 10 + (c.toNat - 48)) 0) % numberLimit

def readEnd : Reading Unit := do
  skipBlanks
  let c ← peek
  if c = some '\x7d' || c = some '#' then return
  let c ← next
  if c.any fun c => c != '\n' && c != ';' then refuse .extraCharacters

/-- Reads the name of a file up to the end of the line. -/
def readFileName : Reading String := do
  if (← get).manner.confined then refuse .forbidden
  skipBlanks
  let rest ← left
  let name := rest.takeWhile (· != '\n')
  goTo (rest.drop (name.length + 1))
  if name.isEmpty then refuse .missingFile
  return Text.gather name

def readLabel : Reading (List UInt8) := do
  skipBlanks
  let rest ← left
  let label := rest.takeWhile fun c => !isSpace c && c != ';' && c != '\x7d'
  goTo (rest.drop label.length)
  return Text.charOctets label

/-! ## Files -/

/-- What a name stands for that lines are written to.  Its file is made empty when it is named for
the first time. -/
def openSink (name : String) : Reading Sink := do
  let c ← get
  if !c.manner.plain && name = "/dev/stdout" then return .plainOutput
  if !c.manner.plain && name = "/dev/stderr" then return .errors
  if c.written.contains name || Files.isDevice name then return .file name
  if name = "/dev/stdout" || name = "/dev/stderr" then return .file name
  match c.tree.write name [] with
  | .error cause => refuse (.closedFile name cause.words)
  | .ok tree =>
    set { c with tree, written := name :: c.written }
    return .file name

/-- Whether there is a file that lines are taken from. -/
def findSource (name : String) : Reading Bool := do
  let c ← get
  match c.taken.lookup name with
  | some found => return found
  | none =>
    let found := name = "/dev/stdin" || Files.isDevice name || c.tree.hasPath name
    set { c with taken := (name, found) :: c.taken }
    return found

/-! ## Texts between delimiters -/

/-- Where the reading of a bracket expression stands. -/
inductive BracketState where
  | plain
  /-- After a bracket inside of the expression. -/
  | opened
  /-- In a name that a mark ends. -/
  | inName (mark : Char)
  /-- After the mark that may end a name. -/
  | closing (mark : Char)

/-- Where the reading of a bracket expression stands after an octet; nothing if the octet ends
it. -/
def BracketState.after (c : Char) : BracketState → Option BracketState
  | .plain => if c = ']' then none else some (if c = '[' then .opened else .plain)
  | .opened =>
    if c = ']' then none
    else if c = '.' || c = ':' || c = '=' then some (.inName c)
    else some (if c = '[' then .opened else .plain)
  | .inName mark => some (if c = mark then .closing mark else .inName mark)
  | .closing mark =>
    some (if c = ']' then .plain else if c = '[' then .closing mark else .inName mark)

/-- The rest of a bracket expression up to its closing bracket, and what follows it; at the end of a
line there is none. -/
def bracketRest (read : List Char) : BracketState → List Char → Except (List Char) (List Char × List Char)
  | _, [] => .error []
  | state, c :: rest =>
    if c = '\n' then .error (c :: rest)
    else
      match state.after c with
      | some state => bracketRest (c :: read) state rest
      | none => .ok ((c :: read).reverse, rest)

/-- A bracket expression after its opening bracket, and what follows it; or what is left where it
breaks off. -/
def bracketText (cs : List Char) : Except (List Char) (List Char × List Char) :=
  match cs with
  | '^' :: ']' :: rest => bracketRest [']', '^'] .plain rest
  | '^' :: rest => bracketRest ['^'] .plain rest
  | ']' :: rest => bracketRest [']'] .plain rest
  | cs => bracketRest [] .plain cs

/-- The text up to a delimiter, and what follows it, in at most `fuel` steps; or what is left where
it breaks off.  `read` is read so far, last first.  A delimiter after a backslash counts as a
character, and so does one in a bracket expression of a pattern. -/
def delimited (delimiter : Char) (inPattern : Bool) :
    Nat → List Char → List Char → Except (List Char) (List Char × List Char)
  | 0, _, cs => .error cs
  | _, _, [] => .error []
  | fuel + 1, read, c :: rest =>
    if c = '\n' then .error (c :: rest)
    else if c = delimiter then .ok (read.reverse, rest)
    else if c = '\\' then
      match rest with
      | [] => .error []
      | d :: rest =>
        let newline := d = '\n' || (d = 'n' && inPattern && delimiter != 'n')
        let bare := d = delimiter && (inPattern || d != '&')
        let read := if newline then '\n' :: read else if bare then d :: read else d :: c :: read
        delimited delimiter inPattern fuel read rest
    else if c = '[' && inPattern then
      match bracketText rest with
      | .error rest => .error rest
      | .ok (text, rest) => delimited delimiter inPattern fuel (text.reverse ++ c :: read) rest
    else delimited delimiter inPattern fuel (c :: read) rest

/-- Reads a text up to a delimiter, which is one octet. -/
def readDelimited (delimiter : Option Char) (inPattern : Bool) (fault : Fault) :
    Reading (List Char) := do
  if delimiter.any fun c => 0x80 ≤ c.toNat then refuse .wideDelimiter
  let rest ← left
  match delimited (delimiter.getD '\n') inPattern (rest.length + 1) [] rest with
  | .ok (text, rest) =>
    goTo rest
    return text
  | .error rest =>
    goTo rest
    refuse fault

/-! ## Addresses -/

/-- What a text looks for; an empty text stands for what was looked for last.  A replacement asks
for groups up to a number. -/
def searchFor (text : List Char) (manner : Manner) (address : Option Nat) (asked : Nat) :
    Reading (Option Search) := do
  let m := (← get).manner
  if text.isEmpty then
    if manner != {} then refuse .emptyPatternSwitches
    return none
  let resolved ← accept (resolvePattern m.plain .outside ' ' ' ' text.length text)
  let octets := Text.charOctets resolved
  let style : PatternText.Style :=
    { extended := m.extended, foldCase := manner.foldCase, plain := m.plain
      linewise := manner.multiline }
  match Pattern.ofSymbols style (Symbol.ofOctets octets) with
  | .error fault => refuse (.pattern fault.words)
  | .ok p =>
    if !m.plain && p.groups < asked then refuse (.badReference asked)
    if p.bareName then refuse (.pattern PatternFault.bareClassName.words)
    return some { pattern := p.pattern, manner, groups := p.groups, text := octets, address }

/-- Reads the switches after the pattern of an address in at most `fuel` steps. -/
def readManner : Nat → Manner → Reading Manner
  | 0, m => return m
  | fuel + 1, m => do
    skipBlanks
    let c ← peek
    if (← get).manner.plain then return m
    if c = some 'I' then
      goTo ((← left).drop 1)
      readManner fuel { m with foldCase := true }
    else if c = some 'M' then
      goTo ((← left).drop 1)
      readManner fuel { m with multiline := true }
    else return m

/-- Reads the pattern of an address after its delimiter. -/
def readMatching (delimiter : Option Char) : Reading RangeEnd := do
  let text ← readDelimited delimiter true .openAddress
  let manner ← readManner ((← left).length + 1) {}
  let number := (← get).addresses
  let search ← searchFor text manner (some number) 0
  modify fun c => { c with addresses := number + 1 }
  return .point (.matching search)

def readAddress : Reading (Option RangeEnd) := do
  let plain := (← get).manner.plain
  match ← peek with
  | some '$' =>
    let _ ← next
    return some (.point .last)
  | some '/' => return some (← readMatching (← next))
  | some '\\' =>
    let _ ← next
    return some (← readMatching (← next))
  | some c =>
    if c.isDigit then
      let n ← readNumber
      skipBlanks
      if plain || (← peek) != some '~' then return some (.point (.number n))
      let _ ← next
      skipBlanks
      let step ← readNumber
      return some (.point (if step = 0 then .number n else .every n step))
    else if (c = '+' || c = '~') && !plain then
      let _ ← next
      skipBlanks
      let n ← readNumber
      return some (if c = '+' then .further n else .multiple n)
    else return none
  | none => return none

/-- Reads the lines that an instruction is done on; the number of addresses is answered too. -/
def readLines : Reading (Address × Nat) := do
  match ← readAddress with
  | none => return (.every, 0)
  | some (.point first) =>
    skipBlanks
    let final ←
      if (← peek) = some ',' then do
        let _ ← next
        skipBlanks
        let final ← readAddress
        if final.isNone then
          let _ ← next
          refuse .strayComma
        skipBlanks
        pure final
      else pure none
    let mayBeZero ← show Reading Bool from
      match final with
      | none => return (← peek) = some 'r'
      | some (.point (.matching _)) => pure true
      | some _ => pure false
    if first = .number 0 && (!mayBeZero || (← get).manner.plain) then
      let _ ← next
      refuse .zeroAddress
    match final with
    | none => return (.one first, 1)
    | some final => return (.range first final, 2)
  | some _ => refuse .badStep

/-! ## Instructions -/

/-- The text of an instruction up to a line end that no backslash stands before, and what follows;
`false` tells that the piece ends after a backslash. -/
def textLines : List Char → List Char × List Char × Bool
  | [] => (['\n'], [], true)
  | '\n' :: rest => (['\n'], rest, true)
  | ['\\'] => (['\n'], [], false)
  | '\\' :: c :: rest =>
    let (text, rest, ended) := textLines rest
    ('\\' :: c :: text, rest, ended)
  | c :: rest =>
    let (text, rest, ended) := textLines rest
    (c :: text, rest, ended)

/-- Reads the text of an instruction after its beginning. -/
def readText (make : List UInt8 → Action) (start : List Char) : Reading Body := do
  let (text, rest, ended) := textLines (← left)
  goTo rest
  let text := start ++ text
  if ended then return .action (make (Text.charOctets (← accept (resolveText text))))
  if (← get).manner.plain then refuse .incomplete
  return .unfinished make text

/-- Reads an instruction with a text after its letter. -/
def readTextAction (make : List UInt8 → Action) : Reading Body := do
  let plain := (← get).manner.plain
  skipBlanks
  match ← next with
  | none => refuse .missingText
  | some '\\' =>
    match ← next with
    | none =>
      if plain then refuse .incomplete
      return .unfinished make []
    | some '\n' => readText make []
    | some c => readText make [c]
  | some c =>
    if plain then refuse .missingText
    goTo (c :: (← left))
    readText make []

structure Switches where
  manner : Manner := {}
  everywhere : Bool := false
  executed : Bool := false
  /-- `p` was read, before or after `e`. -/
  printed : Option Bool := none
  first : Option Nat := none
  written : Option Sink := none

/-- Reads the switches of a substitution in at most `fuel` steps. -/
def readSwitches : Nat → Switches → Reading Switches
  | 0, s => return s
  | fuel + 1, s => do
    let m := (← get).manner
    match ← next with
    | none => return s
    | some c =>
      if isBlank c then readSwitches fuel s
      else if (c = 'i' || c = 'I') && !m.plain then
        readSwitches fuel { s with manner := { s.manner with foldCase := true } }
      else if (c = 'm' || c = 'M') && !m.plain then
        readSwitches fuel { s with manner := { s.manner with multiline := true } }
      else if c = 'e' && !m.plain then readSwitches fuel { s with executed := true }
      else if c = 'p' then
        if s.printed.isSome then refuse (.repeatedSwitch 'p')
        readSwitches fuel { s with printed := some s.executed }
      else if c = 'g' then
        if s.everywhere then refuse (.repeatedSwitch 'g')
        readSwitches fuel { s with everywhere := true }
      else if c.isDigit then
        if s.first.isSome then refuse .repeatedNumber
        goTo (c :: (← left))
        let n ← readNumber
        if n = 0 then refuse .zeroNumber
        readSwitches fuel { s with first := some n }
      else if c = 'w' then
        let sink ← openSink (← readFileName)
        return { s with written := some sink }
      else if c = '\x7d' || c = '#' then
        goTo (c :: (← left))
        return s
      else if c = '\n' || c = ';' then return s
      else if c = '\r' then
        if (← next) = some '\n' then return s else refuse .unknownSwitch
      else refuse .unknownSwitch

def readSubstitution : Reading Action := do
  let delimiter ← next
  let pattern ← readDelimited delimiter true .openSubstitution
  let text ← readDelimited delimiter false .openSubstitution
  let m := (← get).manner
  let parts ← accept (readReplacement m.plain text)
  let s ← readSwitches ((← left).length + 1) {}
  let sub : Substitution :=
    { search := none, parts, first := s.first, everywhere := s.everywhere, executed := s.executed
      printedBefore := s.executed && s.printed = some false
      printed := s.printed = some s.executed
      written := s.written }
  let search ← searchFor pattern s.manner none sub.greatestGroup
  if s.executed && m.confined then refuse .forbidden
  return .substitute { sub with search }

def readExchange : Reading Action := do
  let delimiter ← next
  let source ← accept (resolveSide (← readDelimited delimiter false .openExchange))
  let target ← accept (resolveSide (← readDelimited delimiter false .openExchange))
  let symbols (side : List Char) := Symbol.ofOctets (Text.charOctets side)
  if (symbols source).length != (symbols target).length then refuse .differentLengths
  readEnd
  return .exchange ((symbols source).zip (symbols target))

/-- Reads a number after an instruction if there is one. -/
def readArgument : Reading (Option Nat) := do
  skipBlanks
  let hasNumber := (← peek).any Char.isDigit && !(← get).manner.plain
  let n ← if hasNumber then some <$> readNumber else pure none
  readEnd
  return n

def version : List Char :=
  "4.9".toList

/-- Whether a version is later than another one; `inNumber` tells that a digit comes before them. -/
def isLater (inNumber : Bool) : List Char → List Char → Bool
  | [], _ => false
  | _ :: _, [] => true
  | c :: cs, d :: ds =>
    if c = d then isLater c.isDigit cs ds
    else
      let digits (cs : List Char) := (cs.takeWhile Char.isDigit).length
      let counts (c : Char) := c.isDigit && (inNumber || c != '0')
      if counts c && counts d then
        if digits cs = digits ds then d < c else digits ds < digits cs
      else if inNumber && c.isDigit then true
      else if inNumber && d.isDigit then false
      else d < c

def letterActions : List (Char × Action) :=
  [('=', .number), ('d', .delete), ('D', .deleteFirst), ('F', .fileName), ('g', .get false),
    ('G', .get true), ('h', .hold false), ('H', .hold true), ('n', .next), ('N', .appendNext),
    ('p', .print), ('P', .printFirst), ('x', .swap), ('z', .clear)]

def textActions : List (Char × (List UInt8 → Action)) :=
  [('a', .append), ('i', .insert), ('c', .change)]

def jumps : List (Char × JumpCondition) :=
  [('b', .always), ('t', .replaced), ('T', .notReplaced)]

/-- Reads the rest of an instruction after a letter that is none of the ones above. -/
def readSpecial (count : Nat) (c : Char) : Reading Body := do
  match c with
  | '\x7b' =>
    modify fun s => { s with openBlocks := s.piece.line s.rest :: s.openBlocks }
    return .block
  | '\x7d' =>
    let s ← get
    if s.openBlocks.isEmpty then refuse .strayBrace
    if 0 < count then refuse .addressedBrace
    readEnd
    modify fun s => { s with openBlocks := s.openBlocks.drop 1 }
    return .action .blockEnd
  | ':' =>
    if 0 < count then refuse .addressedLabel
    let label ← readLabel
    if label.isEmpty then refuse .missingLabel
    return .action (.label label)
  | 'e' =>
    if (← get).manner.confined then refuse .forbidden
    skipBlanks
    let c ← peek
    if c = none || c = some '\n' then
      let _ ← next
      return .action (.execute [])
    readTextAction .execute
  | 'r' =>
    return .action (.readFile (← readFileName))
  | 'R' =>
    let name ← readFileName
    return .action (.readLine name (← findSource name))
  | 'w' => return .action (.writeFile (← openSink (← readFileName)))
  | 'W' => return .action (.writeFirst (← openSink (← readFileName)))
  | 's' => return .action (← readSubstitution)
  | 'y' => return .action (← readExchange)
  | 'l' => return .action (.list (← readArgument))
  | 'L' => return .action (.reformat (← readArgument))
  | 'q' =>
    if 1 < count then refuse .oneAddress
    return .action (.quit true (← readArgument))
  | 'Q' =>
    if 1 < count then refuse .oneAddress
    return .action (.quit false (← readArgument))
  | c => refuse (.unknownCommand c.toNat.toUInt8)

/-- The letters of the instructions that only some editors of lines understand. -/
def ownLetters : List Char :=
  "eFvzLQTRW".toList

/-- The letters of the instructions that have one address for all editors of lines. -/
def singleLetters : List Char :=
  "ailqr=".toList

/-- Reads the body of an instruction that begins with a letter. -/
def readBody (count : Nat) (c : Char) : Reading Body := do
  if (← get).manner.plain then
    if ownLetters.contains c then refuse (.unknownCommand c.toNat.toUInt8)
    if singleLetters.contains c && 1 < count then refuse .oneAddress
  match letterActions.lookup c, textActions.lookup c, jumps.lookup c with
  | some action, _, _ =>
    readEnd
    return .action action
  | none, some make, _ => readTextAction make
  | none, none, some condition => return .jump condition (← readLabel)
  | none, none, none => readSpecial count c

/-- A draft, in which a file that is read before the first line is read on it. -/
def Draft.begun (d : Draft) : Draft :=
  match d.address, d.body with
  | .one (.number 0), .action (.readFile name) =>
    { d with address := .one (.number 1), body := .action (.readFirst name) }
  | _, _ => d

/-- Reads an instruction if there is one: a comment and a version are none. -/
def readInstruction : Reading Unit := do
  let (address, count) ← readLines
  let others := (← peek) = some '!'
  if others then
    let _ ← next
    skipBlanks
    if (← peek) = some '!' then
      let _ ← next
      refuse .repeatedNegation
  match ← next with
  | none => refuse .missingCommand
  | some '#' =>
    if 0 < count then refuse .addressedComment
    goTo (((← left).dropWhile (· != '\n')).drop 1)
  | some 'v' =>
    if (← get).manner.plain then refuse (.unknownCommand 118)
    let label ← readLabel
    if isLater false (Text.octetChars label) version then refuse .newerVersion
  | some c =>
    let body ← readBody count c
    modify fun s => { s with drafts := Draft.begun { address, others, body } :: s.drafts }

/-- Reads instructions in at most `fuel` steps. -/
def readInstructions : Nat → Reading Unit
  | 0 => return
  | fuel + 1 => do
    let rest := (← left).dropWhile fun c => c = ';' || isSpace c
    goTo rest
    if rest.isEmpty then return
    readInstruction
    readInstructions fuel

/-- Goes on with the text of the last instruction if it is not ended. -/
def readPending : Reading Unit := do
  match (← get).drafts with
  | [] => return
  | d :: drafts =>
    match d.body with
    | .unfinished make text =>
      let body ← readText make text
      modify fun s => { s with drafts := { d with body } :: drafts }
    | _ => return

/-- Whether a script begins with the comment that tells that lines are written only where an
instruction says so. -/
def beginsQuiet (text : List Char) : Bool :=
  text.take 2 = ['#', 'n']

def readPiece (piece : ScriptPiece) : Reading Unit := do
  modify fun s =>
    { s with
      piece
      rest := piece.text
      quiet := s.quiet || (s.pieces = 0 && beginsQuiet piece.text)
      pieces := s.pieces + 1 }
  readPending
  readInstructions (piece.text.length + 1)

/-! ## Finished scripts -/

structure Script where
  instructions : Array Instruction := #[]
  /-- Lines are written only where an instruction says so. -/
  quiet : Bool := false
  /-- The position after the script. -/
  finish : Position := .inArgument 0 0

/-- The place of the last label with a name. -/
def labelPlace? (drafts : List Draft) (name : List UInt8) : Option Nat :=
  ((List.range drafts.length).zip drafts).reverse.findSome? fun (place, d) =>
    match d.body with
    | .action (.label n) => if n = name then some place else none
    | _ => none

/-- The place of the end of the block that begins before a place; `depth` counts the blocks that are
open. -/
def blockEnd : Nat → Nat → List Draft → Nat
  | place, _, [] => place
  | place, depth, d :: rest =>
    match d.body with
    | .block => blockEnd (place + 1) (depth + 1) rest
    | .action .blockEnd => if depth = 0 then place else blockEnd (place + 1) (depth - 1) rest
    | _ => blockEnd (place + 1) depth rest

/-- The action of a body at a place; `later` are the drafts after it. -/
def Body.finish (drafts : List Draft) (place : Nat) (later : List Draft) : Body → Action
  | .action a => a
  | .unfinished make text => make (Text.charOctets text)
  | .block => .block (blockEnd (place + 1) 0 later)
  | .jump condition name => .jump condition ((labelPlace? drafts name).getD drafts.length)

/-- The instructions of drafts from a place on. -/
def finishFrom (drafts : List Draft) : Nat → List Draft → List Instruction
  | _, [] => []
  | place, d :: later =>
    { address := d.address, others := d.others, action := d.body.finish drafts place later } ::
      finishFrom drafts (place + 1) later

/-- The name of the label that a draft jumps to, if it is nowhere. -/
def lostLabel? (drafts : List Draft) (d : Draft) : Option (List UInt8) :=
  match d.body with
  | .jump _ name => if name.isEmpty || (labelPlace? drafts name).isSome then none else some name
  | _ => none

/-- The script that was read; a fault is told with what is said about it. -/
def Cursor.script (c : Cursor) : Except (Fault × Position) Script :=
  let finish := c.piece.line []
  match c.openBlocks with
  | position :: _ => .error (.openBrace, position)
  | [] =>
    match c.drafts.findSome? (lostLabel? c.drafts.reverse) with
    | some name => .error (.unknownLabel name, finish)
    | none =>
      let drafts := c.drafts.reverse
      .ok { instructions := (finishFrom drafts 0 drafts).toArray, quiet := c.quiet, finish }

end Edit
end Formatter
end FlowDecl
