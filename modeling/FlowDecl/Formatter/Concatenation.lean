import FlowDecl.Formatter.Invocation
import FlowDecl.Formatter.Usage

/-!
# Passing on an input

The filter that passes on its input or the files that it is told.  It may number lines, leave out
repeated blank lines, and show octets that cannot be seen.
-/

namespace FlowDecl
namespace Formatter
namespace Filter

def catSwitches : List Switch :=
  [⟨'b', ["number-nonblank"], .never⟩, ⟨'n', ["number"], .never⟩,
    ⟨'s', ["squeeze-blank"], .never⟩, ⟨'v', ["show-nonprinting"], .never⟩,
    ⟨'E', ["show-ends"], .never⟩, ⟨'T', ["show-tabs"], .never⟩, ⟨'A', ["show-all"], .never⟩,
    ⟨'e', [], .never⟩, ⟨'t', [], .never⟩, ⟨'u', [], .never⟩]

structure CatManner where
  numbered : Bool := false
  blankNumbered : Bool := true
  squeezed : Bool := false
  endsShown : Bool := false
  tabsShown : Bool := false
  controlsShown : Bool := false
  deriving DecidableEq, Repr

/-- The manner that switches ask for. -/
def CatManner.ofInvocation (i : Invocation) : CatManner :=
  { numbered := i.has ['n', 'b']
    blankNumbered := !i.has ['b']
    squeezed := i.has ['s']
    endsShown := i.has ['E', 'A', 'e']
    tabsShown := i.has ['T', 'A', 't']
    controlsShown := i.has ['v', 'A', 'e', 't'] }

/-- How an octet below `0x80` is shown. -/
def showLow (b : UInt8) : List UInt8 :=
  if b < 32 then [94, b + 64] else if b = 127 then [94, 63] else [b]

def CatManner.show (m : CatManner) (b : UInt8) : List UInt8 :=
  if b = 9 then (if m.tabsShown then [94, 73] else [9])
  else if b = lineFeed || !m.controlsShown then [b]
  else if b < 128 then showLow b
  else [77, 45] ++ showLow (b - 128)

/-- How the octets of a line are shown; a carriage return before a line end that is shown is shown
too. -/
def CatManner.showLine (m : CatManner) : List UInt8 → List UInt8
  | [] => []
  | [10] => if m.endsShown then [36, 10] else [10]
  | [13, 10] =>
    if m.endsShown then [94, 77, 36, 10] else m.show 13 ++ [10]
  | b :: rest => m.show b ++ CatManner.showLine m rest

/-- Where passing on stands: the number of the next line, how many blank lines were just before, and
whether a line goes on. -/
structure CatPlace where
  number : Nat := 1
  blanks : Nat := 0
  inside : Bool := false

/-- Passes on lines, and tells where passing on stands after them. -/
def passLines (m : CatManner) (p : CatPlace) : List (List UInt8) → List UInt8 × CatPlace
  | [] => ([], p)
  | line :: rest =>
    let inside := line.getLast? != some lineFeed
    let isBlank := line = [lineFeed] && !p.inside
    let blanks := if isBlank then p.blanks + 1 else 0
    if isBlank && m.squeezed && 1 < blanks then passLines m { p with blanks } rest
    else
      let counts := m.numbered && !p.inside && (m.blankNumbered || !isBlank)
      let title := if counts then Text.Utf8.encode (padded 6 p.number ++ "\t") else []
      let number := if counts then p.number + 1 else p.number
      let (octets, p) := passLines m { number, blanks, inside } rest
      (title ++ m.showLine line ++ octets, p)

/-- Passes on sources one after the other; a line may go on in the next one. -/
def passSources (c : Call) (m : CatManner) (p : CatPlace) :
    List (String × Except Files.Cause (List UInt8)) → List (Nat × List UInt8)
  | [] => []
  | (name, source) :: rest =>
    match source with
    | .error cause => (2, c.say (Quoting.asNeeded name ++ ": " ++ cause.words)) :: passSources c m p rest
    | .ok octets =>
      if m = {} then (1, octets) :: passSources c m p rest
      else
        let (octets, p) := passLines m p (linesOf octets)
        (1, octets) :: passSources c m p rest

def cat : Filter := fun c =>
  c.invoke catSwitches true (Usage.textOf c.program Usage.cat) fun i =>
    let sources := c.sources i.operands
    if c.outputFault = some .badDescriptor then
      c.complain ("standard output: " ++ Files.Cause.badDescriptor.words)
    else
      let written := passSources c (CatManner.ofInvocation i) {} sources
      let fails := sources.any fun s => s.2.toOption.isNone
      let closing :=
        if c.inputClosed && (i.operands.isEmpty || i.operands.contains "-") then
          [(2, c.say ("closing standard input: " ++ Files.Cause.badDescriptor.words))]
        else []
      c.closing
        { status := if fails then 1 else 0
          written := written ++ closing
          rest := c.restAfter i.operands }

end Filter
end Formatter
end FlowDecl
