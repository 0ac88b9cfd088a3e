import FlowDecl.Formatter.Shell.Words

/-!
# Commands of scripts

Tokens, commands and lists of commands are read from a script.  A script is read one line after the
other, so that the commands of a line can run before the next line is looked at.
-/

namespace FlowDecl
namespace Formatter
namespace Shell
namespace Inner

open Reading

/-! ## Tokens -/

/-- Passes blanks and comments, in at most `fuel` steps. -/
def skipBlanks : Nat → Reading Unit
  | 0 => return ()
  | fuel + 1 => do
    match ← peek with
    | some c =>
      if c = ' ' || c = '\t' then
        let _ ← takeRaw
        skipBlanks fuel
      else if c = '#' then
        modify fun s => { s with rest := s.rest.dropWhile (· != '\n') }
      else return ()
    | none => return ()

/-- How the target of a redirection for writing is opened. -/
def readWriting : Reading Opening := do
  if ← takeIf '>' then return .append
  if ← takeIf '|' then return .overwrite
  if ← takeIf '&' then return .copy false
  return .write

/-- How the target of a redirection for reading is opened. -/
def readReading : Reading Opening := do
  if ← takeIf '&' then return .copy true
  if ← takeIf '>' then return .readWrite
  return .read

/-- Reads a redirection of a descriptor up to its target; the descriptor is the usual one if none is
given. -/
def readRedirection (descriptor : Option Nat) (c : Char) : Reading Token := do
  let _ ← takeRaw
  if c = '>' then
    return .redirection (descriptor.getD 1) (← readWriting) false
  else if ← takeIf '<' then
    let stripped ← takeIf '-'
    let number := (← get).nextNumber
    modify fun s => { s with nextNumber := number + 1 }
    return .redirection (descriptor.getD 0) (.text number) stripped
  else
    return .redirection (descriptor.getD 0) (← readReading) false

/-- Reads a word, or a redirection if an angle follows at most one digit. -/
def readWordToken (inner : Inner) : Reading Token := do
  let word ← inner.readPieces (2 * (← get).rest.length + 8) .word 0 []
  let descriptor : Option (Option Nat) :=
    match word with
    | [] => some none
    | [.plain d] => if d.isDigit then some (some (d.toNat - 48)) else none
    | _ => none
  match ← peek, descriptor with
  | some c, some descriptor =>
    if c = '<' || c = '>' then return ← readRedirection descriptor c
  | _, _ => pure ()
  modify fun s => { s with word }
  return .word word

def readToken (inner : Inner) : Reading Token := do
  skipBlanks ((← get).rest.length + 1)
  match ← peek with
  | none => return .finish
  | some c =>
    if ['\n', '&', '|', ';', '(', ')'].contains c then
      let _ ← takeRaw
      if c = '\n' then return .newline
      else if c = '&' then return if ← takeIf '&' then .both else .background
      else if c = '|' then return if ← takeIf '|' then .either else .pipe
      else if c = ';' then return if ← takeIf ';' then .caseEnd else .semicolon
      else return if c = '(' then .opening else .closing
    else inner.readWordToken

def nextToken (inner : Inner) : Reading Token := do
  let s ← get
  if s.again then
    set { s with again := false }
    return s.last
  else
    let t ← inner.readToken
    modify fun s => { s with last := t }
    return t

def readTexts (inner : Inner) : Reading Unit := do
  let waiting := (← get).waiting
  modify fun s => { s with waiting := [] }
  for w in waiting do
    modify fun s => { s with ending := some (w.mark, w.stripped) }
    let fuel := 2 * (← get).rest.length + 8
    let word ←
      if w.exact then takeLines fuel
      else if ← atLineStart then pure []
      else inner.readPieces fuel .text 0 []
    modify fun s => { s with ending := none, texts := (w.number, word) :: s.texts }

/-- Passes the line ends before a token, in at most `fuel` steps. -/
def passNewlines (inner : Inner) : Nat → Token → Reading Token
  | fuel + 1, .newline => do
    inner.readTexts
    passNewlines inner fuel (← inner.nextToken)
  | _, t => return t

/-- The text of a word without quotes and parameters. -/
def plainText? (word : Word) : Option (List Char) :=
  if word.any Piece.isQuoting then none
  else
    word.mapM fun p =>
      match p with
      | .plain c => some c
      | _ => none

def keyword? : Token → Option Keyword
  | .word word => (plainText? word).bind fun text => Keyword.all.lookup (String.ofList text)
  | _ => none

/-- Puts the meaning of a name in the place of the word that was read, if there is one and the name
does not stand in its own meaning. -/
def replaceAlias (word : Word) : Reading Bool := do
  let s ← get
  if s.aliases.isEmpty then return false
  let left := s.rest.length
  match (plainText? word).bind fun name => (s.aliases.lookup name).map fun v => (name, v) with
  | none => return false
  | some (name, value) =>
    let replaced := s.replaced.filter fun r => r.left ≤ left
    if replaced.any fun r => r.name = name then return false
    else
      let goesOn := value.getLast?.any fun c => c = ' ' || c = '\t'
      let new : List Replaced := if value.isEmpty then [] else [{ name, left, goesOn }]
      set { s with rest := value ++ s.rest, replaced := new ++ replaced }
      return true

/-- The next token, after line ends if `newlines` is set; words may be keywords if `keywords` is,
and names with a meaning if `aliases` is.  At most `fuel` meanings are put in place. -/
def tokenFrom (inner : Inner) (newlines keywords aliases : Bool) : Nat → Reading Token
  | 0 => refuse
  | fuel + 1 => do
    let before ← get
    let t ← inner.nextToken
    let t ← if newlines then inner.passNewlines ((← get).rest.length + 1) t else pure t
    match if keywords then keyword? t else none with
    | some k =>
      modify fun s => { s with last := .keyword k }
      return .keyword k
    | none =>
      match t with
      | .word word =>
        let goesOn :=
          !before.replaced.isEmpty && before.replaced.any fun r =>
            r.goesOn && r.left ≤ before.rest.length
        let left ← if goesOn then (fun s => s.rest.length) <$> get else pure 0
        let isNext := goesOn && before.replaced.any fun r =>
          r.goesOn && r.left ≤ before.rest.length && left < r.left
        if aliases || isNext then
          if ← replaceAlias word then inner.tokenFrom newlines keywords aliases fuel else return t
        else return t
      | t => return t

/-- The next token of a place where names may have a meaning or not. -/
def aliasedToken (inner : Inner) (newlines keywords aliases : Bool) : Reading Token := do
  let s ← get
  let most := if s.aliases.isEmpty then 1 else s.rest.length + s.aliases.length + 2
  inner.tokenFrom newlines keywords aliases most

/-- The next token; words that may be keywords may also be names with a meaning. -/
def token (inner : Inner) (newlines keywords : Bool) : Reading Token :=
  inner.aliasedToken newlines keywords keywords

/-- Lets the last token be read again. -/
def putBack : Reading Unit :=
  modify fun s => { s with again := true }

/-! ## Commands -/

def readTarget (inner : Inner) (descriptor : Nat) (opening : Opening) (stripped : Bool) :
    Reading Redirection := do
  match opening with
  | .text number =>
    modify fun s => { s with literal := true }
    let t ← inner.token false false
    modify fun s => { s with literal := false }
    match t with
    | .word word =>
      let mark := word.filterMap fun p =>
        match p with
        | .plain c => some c
        | .quoted c => some c
        | _ => none
      let w : Waiting := { number, mark, exact := word.any Piece.isQuoting, stripped }
      modify fun s => { s with waiting := s.waiting ++ [w] }
      return .mk descriptor opening []
    | _ => refuse
  | _ =>
    match ← inner.token false false with
    | .word word => return .mk descriptor opening word
    | _ => refuse

/-- Reads redirections, in at most `fuel` steps. -/
def readRedirections (inner : Inner) : Nat → Reading (List Redirection)
  | 0 => return []
  | fuel + 1 => do
    match ← inner.token false true with
    | .redirection descriptor opening stripped =>
      let r ← inner.readTarget descriptor opening stripped
      return r :: (← inner.readRedirections fuel)
    | _ =>
      putBack
      return []

/-- The name that a word without quotes is. -/
def plainName? (word : Word) : Option (List Char) :=
  let name := word.map fun p =>
    match p with
    | .plain c => c
    | _ => ' '
  if isName name then some name else none

/-- The commands of the shell that every shell has to have. -/
def specialNames : List String :=
  [".", ":", "break", "continue", "eval", "exec", "exit", "export", "local", "readonly", "return",
    "set", "shift", "times", "trap", "unset"]

/-- What a simple command consists of, last part first. -/
structure Parts where
  assignments : List (List Char × Word) := []
  words : List Word := []
  redirections : List Redirection := []

/-- Reads the body of a function whose name was read. -/
def readDefinition (inner : Inner) (word : Word) : Reading Command := do
  match ← inner.token false false with
  | .closing => pure ()
  | _ => want .closing
  match plainName? word with
  | none => fail .functionName
  | some name =>
    if specialNames.contains (String.ofList name) then fail .functionName
    else
      let _ ← inner.token true true
      putBack
      return .define name (← inner.command)

/-- Reads a command of words, in at most `fuel` steps. -/
def readSimple (inner : Inner) (line : Nat) : Nat → Parts → Reading Command
  | 0, _ => refuse
  | fuel + 1, parts => do
    let done : Command :=
      .simple line parts.assignments.reverse parts.words.reverse parts.redirections.reverse
    match ← inner.aliasedToken false false parts.words.isEmpty with
    | .word word =>
      match parts.words, assignment? word with
      | [], some a =>
        inner.readSimple line fuel { parts with assignments := a :: parts.assignments }
      | _, _ => inner.readSimple line fuel { parts with words := word :: parts.words }
    | .redirection descriptor opening stripped =>
      let r ← inner.readTarget descriptor opening stripped
      inner.readSimple line fuel { parts with redirections := r :: parts.redirections }
    | .opening =>
      match parts with
      | ⟨[], [word], []⟩ => inner.readDefinition word
      | _ =>
        putBack
        return done
    | _ =>
      putBack
      return done

def readBody (inner : Inner) : Reading Script := do
  return (← inner.list .command).getD []

def expect (inner : Inner) (newlines : Bool) (k : Keyword) : Reading Unit := do
  let t ← inner.token newlines newlines
  if !t.isKeyword k then want (.keyword k)

/-- Reads a choice after its first keyword, in at most `fuel` steps. -/
def readChoice (inner : Inner) : Nat → Reading Command
  | 0 => refuse
  | fuel + 1 => do
    let test ← inner.readBody
    inner.expect false .thenWord
    let script ← inner.readBody
    match ← inner.token false false with
    | .keyword .elifWord => return .choice test script [← inner.readChoice fuel]
    | .keyword .elseWord => return .choice test script (← inner.readBody)
    | _ =>
      putBack
      return .choice test script []

/-- Reads words up to another token, in at most `fuel` steps. -/
def readWords (inner : Inner) : Nat → Reading (List Word)
  | 0 => return []
  | fuel + 1 => do
    match ← inner.token false false with
    | .word word => return word :: (← inner.readWords fuel)
    | _ => return []

/-- Reads a loop over words after its keyword. -/
def readEach (inner : Inner) (line : Nat) : Reading Command := do
  let name ←
    match ← inner.token false false with
    | .word word =>
      match plainName? word with
      | some name => pure name
      | none => fail .loopName
    | _ => fail .loopName
  let t ← inner.token true true
  let words ←
    if t.isKeyword .inWord then do
      let words ← inner.readWords ((← get).rest.length + 1)
      match (← get).last with
      | .newline => pure words
      | .semicolon => pure words
      | _ => refuse
    else do
      match t with
      | .semicolon => pure ()
      | _ => putBack
      pure [[.mark, .parameter ['@'] .value true, .mark]]
  inner.expect true .doWord
  return .each line name words (← inner.readBody)

/-- Reads the patterns of a case, in at most `fuel` steps. -/
def readPatterns (inner : Inner) : Nat → Reading (List Word)
  | 0 => return []
  | fuel + 1 => do
    let pattern := (← get).word
    match ← inner.token false false with
    | .pipe =>
      let _ ← inner.token false false
      return pattern :: (← inner.readPatterns fuel)
    | _ => return [pattern]

/-- Reads cases, in at most `fuel` steps. -/
def readCases (inner : Inner) : Nat → Reading (List (List Word × Script))
  | 0 => return []
  | fuel + 1 => do
    match ← inner.token true true with
    | .keyword .esacWord => return []
    | t =>
      match t with
      | .opening =>
        let _ ← inner.token false false
      | _ => pure ()
      let patterns ← inner.readPatterns ((← get).rest.length + 1)
      match (← get).last with
      | .closing => pure ()
      | _ => want .closing
      let script := (← inner.list .free).getD []
      match ← inner.token true true with
      | .keyword .esacWord => return [(patterns, script)]
      | .caseEnd => return (patterns, script) :: (← inner.readCases fuel)
      | _ => want .caseEnd

/-- Reads a choice among cases after its keyword. -/
def readSelect (inner : Inner) (line : Nat) : Reading Command := do
  match ← inner.token false false with
  | .word word =>
    inner.expect true .inWord
    return .select line word (← inner.readCases ((← get).rest.length + 1))
  | _ => want (.word [])

/-- Reads the redirections after a command and puts them to it. -/
def readAfter (inner : Inner) (line : Nat) (command : Command) : Reading Command := do
  match ← inner.readRedirections ((← get).rest.length + 1) with
  | [] => return command
  | redirections =>
    match command with
    | .inner line script _ => return .inner line script redirections
    | _ => return .redirected line command redirections

/-- Reads the keyword that ends a command, and what comes after it. -/
def finish (inner : Inner) (line : Nat) (wanted : Token) (command : Command) : Reading Command := do
  let t ← inner.token false false
  if t.shown = wanted.shown then inner.readAfter line command else want wanted

/-- Reads a command; the flags are those of its first token. -/
def readCommand (inner : Inner) (newlines keywords : Bool) : Reading Command := do
  let line := (← get).line
  match ← inner.token newlines keywords with
  | .word _ =>
    putBack
    let s ← get
    inner.readSimple s.line (s.rest.length + 2) {}
  | .redirection .. =>
    putBack
    let s ← get
    inner.readSimple s.line (s.rest.length + 2) {}
  | .keyword .ifWord =>
    inner.finish line (.keyword .fiWord) (← inner.readChoice ((← get).rest.length + 1))
  | .keyword .whileWord =>
    let test ← inner.readBody
    inner.expect false .doWord
    inner.finish line (.keyword .doneWord) (.loop true test (← inner.readBody))
  | .keyword .untilWord =>
    let test ← inner.readBody
    inner.expect false .doWord
    inner.finish line (.keyword .doneWord) (.loop false test (← inner.readBody))
  | .keyword .forWord => inner.finish line (.keyword .doneWord) (← inner.readEach line)
  | .keyword .caseOf => inner.readAfter line (← inner.readSelect line)
  | .opening => inner.finish line .closing (.inner line (← inner.readBody) [])
  | .keyword .openBrace => inner.finish line (.keyword .closeBrace) (.group (← inner.readBody))
  | _ => refuse

/-! ## Lists -/

/-- Reads the commands that read what the ones before them write, in at most `fuel` steps. -/
def readPiped (inner : Inner) : Nat → Reading (List Command)
  | 0 => return []
  | fuel + 1 => do
    match ← inner.token false false with
    | .pipe =>
      let command ← inner.readCommand true true
      return command :: (← inner.readPiped fuel)
    | _ =>
      putBack
      return []

/-- Reads commands that are piped; the flags are those of the first token. -/
def readPipe (inner : Inner) (newlines keywords : Bool) : Reading Command := do
  let negated := (← inner.token newlines keywords).isKeyword .negation
  let first ←
    if negated then inner.readCommand false true
    else do
      putBack
      inner.readCommand false false
  let others ← inner.readPiped ((← get).rest.length + 1)
  let command := if others.isEmpty then first else .pipe (first :: others)
  return if negated then .negated command else command

/-- Reads the commands that depend on a first one, in at most `fuel` steps. -/
def readDependent (inner : Inner) : Nat → Command → Reading Command
  | 0, first => return first
  | fuel + 1, first => do
    match ← inner.token false false with
    | .both => inner.readDependent fuel (.both first (← inner.readPipe true true))
    | .either => inner.readDependent fuel (.either first (← inner.readPipe true true))
    | _ =>
      putBack
      return first

/-- Reads a list, in at most `fuel` steps; `read` holds its commands, last command first, and
`mayEnd` tells that it may end before the next token. -/
def readListFrom (inner : Inner) (place : ListPlace) (mayEnd : Bool) :
    Nat → List Command → Reading (Option Script)
  | 0, read => return some read.reverse
  | fuel + 1, read => do
    match ← inner.token (place != .line) true with
    | .newline =>
      inner.readTexts
      return some read.reverse
    | .finish =>
      inner.readTexts
      putBack
      modify fun s => { s with last := .finish }
      return if read.isEmpty && place = .line then none else some read.reverse
    | t =>
      putBack
      if mayEnd && t.endsList then return some read.reverse
      else
        let first ← inner.readPipe false false
        let command ← inner.readDependent ((← get).rest.length + 1) first
        let mayEnd := place != .line
        match ← inner.token false false with
        | .background => inner.readListFrom place mayEnd fuel (.beside command :: read)
        | .semicolon => inner.readListFrom place mayEnd fuel (command :: read)
        | .newline =>
          putBack
          inner.readListFrom place mayEnd fuel (command :: read)
        | .finish =>
          inner.readTexts
          putBack
          modify fun s => { s with last := .finish }
          return some (command :: read).reverse
        | _ =>
          if place = .line then refuse
          else
            putBack
            return some (command :: read).reverse

def readList (inner : Inner) (place : ListPlace) : Reading (Option Script) := do
  inner.readListFrom place (place = .free) ((← get).rest.length + 2) []

/-- What reads a number of levels. -/
def ofDepth : Nat → Inner
  | 0 => { list := fun _ => refuse, command := refuse }
  | depth + 1 =>
    let inner := ofDepth depth
    { list := inner.readList, command := inner.readCommand false false }

end Inner

/-- Reads a text in which only dollars, backquotes and backslashes have a meaning. -/
def readText (text : List Char) : Except (Nat × SyntaxFault) Word :=
  let inner := Inner.ofDepth (text.length + 1)
  (inner.readPieces (2 * text.length + 8) .text 0 []).run' { rest := text }

/-- Reads the next line of a script; there is none at its end. -/
def Source.next (s : Source) : Except (Nat × SyntaxFault) (Option Script × Source) :=
  ((Inner.ofDepth (s.rest.length + 1)).list .line).run { s with again := false }

end Shell
end Formatter
end FlowDecl
