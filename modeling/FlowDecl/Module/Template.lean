import FlowDecl.Module.Engine
import FlowDecl.Text.Lines
import FlowDecl.Text.Quoted

/-!
# The standard engine

A template is text with places for values.  A place shows a value or its length, repeats a part for
each item of a value, or chooses a part by whether a value is given.  Inserted values are not looked
at again: braces in them are text.
-/

namespace FlowDecl
namespace Template

/-- A value that a template can show. -/
inductive Datum where
  | text (s : String)
  | texts (items : List String)
  | number (n : Nat)
  /-- One of the rounds in which a part is repeated. -/
  | round (number total : Nat)
  | missing
  deriving DecidableEq, Repr

/-- Why a template cannot be filled in. -/
inductive Fault where
  /-- Something is asked of a name that has no value. -/
  | unknownName (name : String)
  /-- The length of a number is asked for. -/
  | noLength
  deriving DecidableEq, Repr

/-- A fault as the engine ends with it. -/
def Fault.mishap : Fault → Mishap
  | .unknownName name => ⟨"UndefinedError", "'" ++ name ++ "' is undefined"⟩
  | .noLength => ⟨"TypeError", "object of type 'int' has no len()"⟩

namespace Datum

def ofArgument : Argument → Datum
  | .text s => .text s
  | .texts items => .texts items

/-- The text of a value where a template shows it. -/
def shown : Datum → String
  | .text s => s
  | .texts items => "[" ++ ", ".intercalate (items.map Text.quoted) ++ "]"
  | .number n => toString n
  | .round n total => s!"<LoopContext {n}/{total}>"
  | .missing => ""

/-- The number of characters of a text, of the items of a list or of all rounds. -/
def length? : Datum → Option Nat
  | .text s => some s.length
  | .texts items => some items.length
  | .number _ => none
  | .round _ total => some total
  | .missing => some 0

/-- Whether a value is given: nothing, zero and everything empty are not. -/
def isGiven : Datum → Bool
  | .number n => n != 0
  | d => d.length? != some 0

def items : Datum → List String
  | .text s => s.toList.map Char.toString
  | .texts items => items
  | _ => []

end Datum

abbrev Names := List (String × Datum)

/-- The name under which a repeated part finds its round. -/
def roundName : String := "loop"

inductive Expression where
  | name (name : String)
  /-- The number of the round. -/
  | roundNumber
  | length (e : Expression)
  deriving DecidableEq, Repr

/-- The value of an expression; a name without a value is missing. -/
def Expression.value (names : Names) : Expression → Except Fault Datum
  | .name n => .ok ((names.lookup n).getD .missing)
  | .roundNumber =>
    match names.lookup roundName with
    | some (.round n _) => .ok (.number n)
    | some _ => .ok .missing
    | none => .error (.unknownName roundName)
  | .length e => do
    match (← e.value names).length? with
    | some n => return .number n
    | none => throw .noLength

inductive Fragment where
  | text (s : String)
  | show (e : Expression)
  | repeat (item : String) (source : Expression) (body otherwise : List Fragment)
  | choose (condition : Expression) (body otherwise : List Fragment)
  deriving Repr

mutual

/-- The text of a part; `escape` is done to every value that is shown. -/
def renderFragment (escape : String → String) (names : Names) : Fragment → Except Fault String
  | .text s => .ok s
  | .show e => (fun d => escape d.shown) <$> e.value names
  | .repeat item source body otherwise => do
    let items := (← source.value names).items
    if items.isEmpty then render escape names otherwise
    else
      let texts ← items.zipIdx.mapM fun (s, n) =>
        render escape ((item, .text s) :: (roundName, .round (n + 1) items.length) :: names) body
      return "".intercalate texts
  | .choose condition body otherwise => do
    if (← condition.value names).isGiven then render escape names body
    else render escape names otherwise

/-- The text of the parts of a template. -/
def render (escape : String → String) (names : Names) : List Fragment → Except Fault String
  | [] => .ok ""
  | part :: rest => do
    let text ← renderFragment escape names part
    let texts ← render escape names rest
    return text ++ texts

end

/-! ## Reading templates -/

inductive Piece where
  | text (cs : List Char)
  | place (content : List Char)
  | mark (content : List Char)
  deriving Repr

/-- The characters up to a closing pair, and those after it. -/
def upTo (a b : Char) : List Char → Option (List Char × List Char)
  | [] => none
  | [_] => none
  | c :: d :: rest =>
    if c = a && d = b then some ([], rest)
    else (fun r => (c :: r.1, r.2)) <$> upTo a b (d :: rest)

/-- Puts a character in front of pieces. -/
def addChar (c : Char) : List Piece → List Piece
  | .text cs :: rest => .text (c :: cs) :: rest
  | pieces => .text [c] :: pieces

/-- The pieces of a template text, in at most `fuel` steps.  Comments leave no piece. -/
def pieces : Nat → List Char → Option (List Piece)
  | 0, _ => none
  | _, [] => some []
  | fuel + 1, '{' :: '{' :: rest => do
    let (content, rest) ← upTo '}' '}' rest
    return .place content :: (← pieces fuel rest)
  | fuel + 1, '{' :: '%' :: rest => do
    let (content, rest) ← upTo '%' '}' rest
    return .mark content :: (← pieces fuel rest)
  | fuel + 1, '{' :: '#' :: rest => do
    let (_, rest) ← upTo '#' '}' rest
    return .text [] :: (← pieces fuel rest)
  | fuel + 1, c :: rest => addChar c <$> pieces fuel rest

/-- The words of a place or a mark; a bar is a word of its own. -/
def wordsOf : List Char → List String
  | [] => []
  | c :: rest =>
    let words := wordsOf rest
    if Text.isBlank c then "" :: words
    else if c = '|' then "" :: "|" :: "" :: words
    else
      match words with
      | [] => [c.toString]
      | word :: words => (c.toString ++ word) :: words

def readExpression : List String → Option Expression
  | [name] => some (nameExpression name)
  | [name, "|", "length"] => some (.length (nameExpression name))
  | _ => none
where
  /-- The expression for a name. -/
  nameExpression (name : String) : Expression :=
    if name = roundName ++ ".index" then .roundNumber else .name name

/-- What a mark begins. -/
inductive Opening where
  | repeat (item : String) (source : Expression)
  | choose (condition : Expression)

/-- A part whose end is not reached: what it began with, the parts before it and, after the
alternative has begun, the parts of its body. -/
structure Frame where
  opening : Opening
  before : List Fragment
  body : Option (List Fragment) := none

/-- The part of a frame that ends after some parts. -/
def Frame.close (frame : Frame) (inside : List Fragment) : Fragment :=
  let (body, otherwise) :=
    match frame.body with
    | none => (inside, [])
    | some body => (body, inside)
  match frame.opening with
  | .repeat item source => .repeat item source body otherwise
  | .choose condition => .choose condition body otherwise

/-- The mark that ends a frame. -/
def Opening.closing : Opening → String
  | .repeat .. => "endfor"
  | .choose _ => "endif"

/-- Puts parts together from pieces; `done` holds the parts of the innermost frame, last first. -/
def assemble (frames : List Frame) (done : List Fragment) : List Piece → Option (List Fragment)
  | [] => if frames.isEmpty then some done.reverse else none
  | .text cs :: rest => assemble frames (.text (String.ofList cs) :: done) rest
  | .place content :: rest => do
    let e ← readExpression ((wordsOf content).filter (· != ""))
    assemble frames (.show e :: done) rest
  | .mark content :: rest =>
    match (wordsOf content).filter (· != "") with
    | "for" :: item :: "in" :: source => do
      let source ← readExpression source
      assemble (⟨.repeat item source, done, none⟩ :: frames) [] rest
    | "if" :: condition => do
      let condition ← readExpression condition
      assemble (⟨.choose condition, done, none⟩ :: frames) [] rest
    | ["else"] =>
      match frames with
      | frame :: frames =>
        if frame.body.isSome then none
        else assemble ({ frame with body := some done.reverse } :: frames) [] rest
      | [] => none
    | [word] =>
      match frames with
      | frame :: frames =>
        if word = frame.opening.closing then
          assemble frames (frame.close done.reverse :: frame.before) rest
        else none
      | [] => none
    | _ => none

/-- Reads a template; nothing if it is not well formed. -/
def ofChars? (cs : List Char) : Option (List Fragment) := do
  assemble [] [] (← pieces (cs.length + 1) cs)

/-! ## The engine -/

/-- The text that stands for a character where texts are escaped. -/
def escapeChar (c : Char) : List Char :=
  if c = '&' then "&amp;".toList
  else if c = '<' then "&lt;".toList
  else if c = '>' then "&gt;".toList
  else if c = '\'' then "&#39;".toList
  else if c = '"' then "&#34;".toList
  else [c]

def escapeText (s : String) : String :=
  String.ofList (s.toList.flatMap escapeChar)

def fillIn (escape : String → String) (arguments : Arguments) (source : List Char) :
    Except Mishap String :=
  match ofChars? source with
  | none => .error ⟨"TemplateSyntaxError", ""⟩
  | some template =>
    (render escape (arguments.map fun a => (a.1, Datum.ofArgument a.2)) template).mapError
      Fault.mishap

def standardEngine : Engine := fun settings sources name arguments => do
  match ← sources name with
  | none => throw ⟨"TemplateNotFound", name⟩
  | some source =>
    fillIn (if settings.escapes name then escapeText else id) arguments
      (settings.taken (Text.unifyNewlines source.toList))

end Template
end FlowDecl
