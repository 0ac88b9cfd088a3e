import FlowDecl.Formatter.Shell.Source

/-!
# Words of scripts

Words are read piece by piece.  Scripts stand within words and words within scripts; what reads the
inner parts of a level is given to what reads the level, so that each level is read by the level
below it.
-/

namespace FlowDecl
namespace Formatter
namespace Shell

/-- Where a list of commands stands. -/
inductive ListPlace where
  /-- It is one line of the script. -/
  | line
  /-- It stands in a command and is not empty. -/
  | command
  /-- It may be empty. -/
  | free
  deriving DecidableEq, Repr

/-- What reads the inner parts of a script.  Only the end of a script is no list at all. -/
structure Inner where
  list : ListPlace → Reading (Option Script)
  command : Reading Command

namespace Inner

open Reading

/-! ## Words -/

/-- Reads a list on its own, apart from what is read around it. -/
def apart (inner : Inner) : Reading Script := do
  let s ← get
  set { s with again := false, waiting := [], literal := false, ending := none }
  let script := (← inner.list .free).getD []
  return script

/-- Goes back to reading what is around a list. -/
def resume (around : Source) : Reading Unit :=
  modify fun s =>
    { s with
      again := false, waiting := around.waiting, literal := around.literal, ending := around.ending }

/-- Reads the name of a parameter between braces.  The result is the name, nothing if it is wrong,
and whether the length of its value is asked for. -/
def readName (fuel : Nat) (length : Bool) : Reading (Option (List Char)) := do
  match ← peek with
  | some c =>
    if beginsName c then some <$> takeWhile isInName fuel
    else if c.isDigit then some <$> takeWhile Char.isDigit fuel
    else if isSpecial c && !(length && c = '\x7d') then
      let _ ← takeRaw
      return some [c]
    else return none
  | none => return none

/-- Whether a number sign between braces asks for the length of a value. -/
def asksLength (cs : List Char) : Bool :=
  match cs with
  | '#' :: c :: d :: _ =>
    beginsName c || c.isDigit || (c != '\x7d' && d = '\x7d')
  | _ => false

/-- What follows the name of a parameter between braces: what is wanted, and the sign. -/
def readSign : Reading (Wanting × Option Char) := do
  let colon ← takeIf ':'
  let w := if colon then Wanting.unsetOrEmpty else .unset
  match ← peek with
  | some c =>
    let _ ← takeRaw
    return (w, some c)
  | none => return (w, none)

mutual

/-- Reads the pieces of a word; `depth` counts the open brackets of an expression, and `read` holds
what is read already, last piece first. -/
def readPieces (inner : Inner) : Nat → Place → Nat → List Piece → Reading Word
  | 0, _, _, read => return read.reverse
  | fuel + 1, place, depth, read => do
    let s ← get
    match ← peek with
    | none =>
      match place.openFault? with
      | some fault => fail fault
      | none => return read.reverse
    | some c =>
      if place = .word && endsWord c then return read.reverse
      else
        let _ ← takeRaw
        let asIs (c : Char) : Piece := if place.isQuoted then .quoted c else .plain c
        let goOn (pieces : List Piece) := readPieces inner fuel place depth (pieces.reverse ++ read)
        if c = '\n' && s.ending.isSome then
          if ← atLineStart then
            if place = .text then return (asIs c :: read).reverse
            else fail (if place = .sum then .openSum else .openBraces)
          else goOn [asIs c]
        else if c = '\\' then
          match ← takeRaw with
          | none => goOn [.quoted '\\']
          | some d => if place.escapes d then goOn [.quoted d] else goOn [.quoted '\\', .quoted d]
        else if c = '$' && !s.literal then
          let pieces ← readDollar inner fuel place
          goOn pieces
        else if c.toNat = 96 && !s.literal then
          let text ← takeBackquoted place.isDouble fuel
          let around ← get
          set { around with rest := text, line := 1 }
          let script ← inner.apart
          resume around
          modify fun s => { s with rest := around.rest, line := around.line }
          goOn [.output script place.isDouble]
        else if c = '\'' && (place = .word || place = .braces) then
          let around ← get
          match takeQuoted around.rest around.line with
          | none =>
            let line := around.line + around.rest.countP (· = '\n')
            set { around with rest := [], line }
            fail .openQuote
          | some (cs, rest, line) =>
            set { around with rest, line }
            goOn (.mark :: cs.map .quoted ++ [.mark])
        else if c = '"' then
          match place with
          | .word =>
            let pieces ← readPieces inner fuel .quotes 0 []
            goOn (.mark :: pieces ++ [.mark])
          | .braces =>
            let pieces ← readPieces inner fuel .quotes 0 []
            goOn (.mark :: pieces ++ [.mark])
          | .quotes => return read.reverse
          | .innerQuotes => return read.reverse
          | .quotedBraces =>
            let pieces ← readPieces inner fuel .innerQuotes 0 []
            goOn pieces
          | .textBraces =>
            let pieces ← readPieces inner fuel .innerQuotes 0 []
            goOn pieces
          | .sum => goOn [asIs c]
          | .text => goOn [asIs c]
        else if c = '\x7d' && (place = .braces || place = .quotedBraces || place = .textBraces) then
          return read.reverse
        else if place = .sum && c = '(' then
          readPieces inner fuel place (depth + 1) (asIs c :: read)
        else if place = .sum && c = ')' then
          if 0 < depth then readPieces inner fuel place (depth - 1) (asIs c :: read)
          else if ← takeIf ')' then return read.reverse
          else goOn [asIs c]
        else goOn [asIs c]

def readDollar (inner : Inner) : Nat → Place → Reading Word
  | 0, _ => return []
  | fuel + 1, place => do
    let inQuotes := place.isDouble
    match ← peek with
    | some c =>
      if c = '(' then
        let _ ← takeRaw
        if ← takeIf '(' then
          return [.value (← readPieces inner fuel .sum 0 []) inQuotes]
        else
          let around ← get
          let script ← inner.apart
          let s ← get
          let closed :=
            match s.last with
            | .closing => true
            | _ => false
          if !closed then want .closing
          resume around
          return [.output script inQuotes]
      else if c = '\x7b' then
        let _ ← takeRaw
        readBraces inner fuel place
      else if beginsName c then
        return [.parameter (← takeWhile isInName (← get).rest.length) .value inQuotes]
      else if isSpecial c then
        let _ ← takeRaw
        return [.parameter [c] .value inQuotes]
      else return [if place.isQuoted then .quoted '$' else .plain '$']
    | none => return [if place.isQuoted then .quoted '$' else .plain '$']

/-- Reads a parameter between braces.  A colon that no sign follows is passed over, and so are the
braces around what follows it. -/
def readBraces (inner : Inner) : Nat → Place → Reading Word
  | 0, _ => fail .openBraces
  | fuel + 1, place => do
    let inQuotes := place.isDouble
    let word := readPieces inner fuel place.inBraces 0 []
    let length := asksLength (← get).rest
    if length then
      let _ ← takeRaw
    let some name ← readName fuel length
      | let _ ← word
        return [.parameter [] .wrong inQuotes]
    let parameter (use : Use) : Word := [.parameter name use inQuotes]
    if length then
      let closed := (← peek) = some '\x7d'
      let _ ← word
      return parameter (if closed then .length else .wrong)
    else
      let (w, sign) ← readSign
      let wrong : Reading Word := do
        let _ ← word
        return parameter .wrong
      let trim (atEnd : Bool) : Reading Word := do
        if w != .unset then wrong
        else
          let longest ← takeIf (if atEnd then '%' else '#')
          return parameter (.trim atEnd longest (← readPieces inner fuel .braces 0 []))
      match sign with
      | some '\x7d' =>
        if w = .unset then return parameter .value else return parameter .value ++ (← word)
      | some '-' => return parameter (.default w (← word))
      | some '=' => return parameter (.assign w (← word))
      | some '?' => return parameter (.require w (← word))
      | some '+' => return parameter (.alternative w (← word))
      | some '%' => trim true
      | some '#' => trim false
      | _ => wrong

end

end Inner
end Shell
end Formatter
end FlowDecl
