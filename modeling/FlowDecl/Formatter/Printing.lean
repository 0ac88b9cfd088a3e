import FlowDecl.Formatter.Filter
import FlowDecl.Formatter.Numerals
import FlowDecl.Formatter.Usage
import FlowDecl.Text.Octets

/-!
# Escapes and formats

The filters that write their arguments.  An escape is a backslash with a letter for a control
character or with a number for an octet.  A format has places that are filled by arguments.

There are two dialects: that of the programs and that of the shell.  They differ in which escapes
they know and in how they word what is wrong.  Arguments are worked on octet by octet.
-/

namespace FlowDecl
namespace Formatter
namespace Printing

open Decimal (Fraction)

/-- Who writes its arguments. -/
inductive Dialect where
  | program
  | shell
  deriving DecidableEq, Repr

/-- Where an escape stands. -/
inductive Setting where
  /-- In a line of arguments. -/
  | line
  | format
  /-- In an argument of a format. -/
  | argument
  deriving DecidableEq, Repr

/-- The octet of a number. -/
def octetOf (n : Nat) : Char :=
  Char.ofNat (n % 256)

def isOctal (c : Char) : Bool :=
  '0' ≤ c && c ≤ '7'

/-- Whether a character is a hexadecimal digit. -/
def isHex (c : Char) : Bool :=
  (Text.hexValue? c).isSome

/-! ## Escapes -/

def letters : List (Char × Char) :=
  [('\\', '\\'), ('a', octetOf 7), ('b', octetOf 8), ('e', octetOf 27), ('f', octetOf 12),
    ('n', '\n'), ('r', '\r'), ('t', '\t'), ('v', octetOf 11)]

inductive Escape where
  /-- The octets that it stands for, and what follows it. -/
  | octets (written rest : List Char)
  /-- All writing ends. -/
  | stop
  /-- It cannot be read, for a reason. -/
  | wrong (words : List Char)

/-- An escape of at most three octal digits; a further zero may stand before them. -/
def readOctal (s : Setting) (cs : List Char) : Option (Char × List Char) :=
  let skipsZero := s != .format && cs.head? = some '0' && (cs.drop 1).head?.any isOctal
  let cs' := if skipsZero then cs.drop 1 else cs
  let digits := (cs'.take 3).takeWhile isOctal
  if digits.isEmpty then none
  else some (octetOf (Numerals.valueOf 8 digits), cs'.drop digits.length)

/-- The reason if a number is not whole. -/
def noHex : Escape :=
  .wrong "missing hexadecimal number in escape".toList

/-- An escape of the number of a character, after its letter. -/
def readCharacter (letter : Char) (cs : List Char) : Escape :=
  let n := if letter = 'u' then 4 else 8
  let digits := (cs.take n).takeWhile isHex
  let value := Numerals.valueOf 16 digits
  let isPlain := [0x24, 0x40, 0x60].contains value
  if digits.length < n then noHex
  else if (value ≤ 0x9f && !isPlain) || (0xd800 ≤ value && value ≤ 0xdfff) then
    .wrong ("invalid universal character name \\".toList ++
      letter :: Numerals.digitsAtLeast 16 false n value)
  else .octets (Text.spread (Char.ofNat value).toString) (cs.drop n)

/-- What becomes of an escape after its backslash. -/
def readEscape (d : Dialect) (s : Setting) : List Char → Escape
  | [] => .octets ['\\'] []
  | c :: rest =>
    match letters.lookup c, readOctal s (c :: rest) with
    | some e, _ => .octets [e] rest
    | none, some (o, rest) => .octets [o] rest
    | none, none =>
      let none_ : Escape := .octets ['\\'] (c :: rest)
      if c = 'c' then if d = .shell && s = .format then none_ else .stop
      else if d = .shell then none_
      else if c = 'x' then
        let digits := (rest.take 2).takeWhile isHex
        if !digits.isEmpty then
          .octets [octetOf (Numerals.valueOf 16 digits)] (rest.drop digits.length)
        else if s = .line then none_
        else noHex
      else if s = .line then none_
      else if c = '"' then .octets [c] rest
      else if c = 'u' || c = 'U' then readCharacter c rest
      else .octets ['\\', c] rest

/-- A text whose escapes are resolved, up to what ends all writing. -/
structure Resolved where
  octets : List Char := []
  /-- All writing ends here, for a reason if something is wrong. -/
  ending : Option (Option (List Char)) := none

/-- Resolves the escapes of a text of at most `fuel` characters. -/
def resolve (d : Dialect) (s : Setting) : Nat → List Char → Resolved
  | 0, _ => {}
  | _, [] => {}
  | fuel + 1, c :: rest =>
    let after (written rest : List Char) : Resolved :=
      let r := resolve d s fuel rest
      { r with octets := written ++ r.octets }
    if c = '\\' then
      match readEscape d s rest with
      | .octets written rest => after written rest
      | .stop => { ending := some none }
      | .wrong words => { ending := some (some words) }
    else after [c] rest

/-- The arguments of a line with blanks between them. -/
def joined (arguments : List (List Char)) : List Char :=
  [' '].intercalate arguments

/-! ## Formats -/

/-- A width or a precision in a format. -/
inductive Amount where
  | number (n : Nat)
  /-- The next argument. -/
  | argument
  deriving DecidableEq, Repr

/-- A place in a format. -/
structure Directive where
  flags : List Char := []
  width : Option Amount := none
  precision : Option Amount := none
  /-- The letter of the conversion; none if the format ends before it. -/
  conversion : Option Char
  /-- The place as it is written. -/
  text : List Char
  deriving Repr

/-- A piece of a format. -/
inductive Piece where
  | text (octets : List Char)
  | place (d : Directive)
  | ending (words : Option (List Char))
  deriving Repr

def readAmount : List Char → Option Amount × List Char
  | '*' :: rest => (some .argument, rest)
  | cs =>
    let digits := cs.takeWhile Char.isDigit
    (if digits.isEmpty then none else some (.number (Numerals.valueOf 10 digits)),
      cs.drop digits.length)

def flagsOf : Dialect → List Char
  | .program => ['#', '-', '+', ' ', '0', '\'', 'I']
  | .shell => ['#', '-', '+', ' ', '0']

/-- The place after a percent sign, and what follows. -/
def readPlace (d : Dialect) (cs : List Char) : Directive × List Char :=
  let flags := cs.takeWhile (flagsOf d).contains
  let (width, rest) := readAmount (cs.drop flags.length)
  let (precision, rest) :=
    match rest with
    | '.' :: rest =>
      let (p, rest) := readAmount rest
      (some (p.getD (.number 0)), rest)
    | rest => (none, rest)
  let sizes := if d = .program then ['l', 'L', 'h', 'j', 't', 'z'] else []
  let rest := rest.dropWhile sizes.contains
  let after := rest.drop 1
  ({ flags, width, precision, conversion := rest.head?
     text := '%' :: cs.take (cs.length - after.length) }, after)

/-- The pieces of a format of at most `fuel` characters. -/
def pieces (d : Dialect) : Nat → List Char → List Piece
  | 0, _ => []
  | _, [] => []
  | fuel + 1, '%' :: '%' :: rest => .text ['%'] :: pieces d fuel rest
  | fuel + 1, '%' :: rest =>
    let (directive, rest) := readPlace d rest
    .place directive :: pieces d fuel rest
  | fuel + 1, '\\' :: rest =>
    match readEscape d .format rest with
    | .octets written rest => .text written :: pieces d fuel rest
    | .stop => [.ending none]
    | .wrong words => [.ending (some words)]
  | fuel + 1, c :: rest => .text [c] :: pieces d fuel rest

/-- What is written so far, and what is said about it. -/
structure Written where
  /-- What is written and the messages that are said, last one first. -/
  parts : List (Sum (List Char) (List Char)) := []
  arguments : List (List Char)
  /-- An argument is not what it should be. -/
  failed : Bool := false
  /-- All writing has ended with a status. -/
  ended : Option Nat := none

namespace Written

/-- Says something. -/
def tell (w : Written) (words : List Char) : Written :=
  { w with parts := .inr words :: w.parts }

def complain (w : Written) (words : List Char) : Written :=
  { w.tell words with failed := true }

/-- Ends all writing because something is wrong. -/
def refuse (d : Dialect) (w : Written) (words : List Char) : Written :=
  { w.tell words with ended := some (if d = .program then 1 else 2) }

def status (w : Written) : Nat :=
  w.ended.getD (if w.failed then 1 else 0)

/-- Ends all writing. -/
def finish (d : Dialect) (w : Written) : Option (List Char) → Written
  | none => { w with ended := some (if d = .program then 0 else w.status) }
  | some words => w.refuse d words

def write (w : Written) (octets : List Char) : Written :=
  { w with parts := .inl octets :: w.parts }

def output (w : Written) : List Char :=
  w.parts.reverse.flatMap fun p => p.elim id fun _ => []

def complaints (w : Written) : List (List Char) :=
  w.parts.reverse.filterMap fun p => p.elim (fun _ => none) some

/-- Takes the next argument; a missing one is empty. -/
def take (w : Written) : List Char × Written :=
  (w.arguments.headD [], { w with arguments := w.arguments.drop 1 })

end Written

/-! ## Arguments -/

/-- An argument as messages of programs show it. -/
def curled (text : List Char) : List Char :=
  Text.spread (Quoting.curled (Text.gather text))

/-- What is found about a number: what follows it, and whether it is out of range. -/
structure Finding where
  rest : List Char
  isFar : Bool := false

/-- Says what is wrong with a number. -/
def Written.check (d : Dialect) (w : Written) (text : List Char) (f : Finding) : Written :=
  let far := ": Numerical result out of range"
  match d with
  | .shell =>
    if f.rest.length = text.length && !text.isEmpty then
      w.complain (text ++ ": expected numeric value".toList)
    else if !f.rest.isEmpty then w.complain (text ++ ": not completely converted".toList)
    else if f.isFar then w.complain (text ++ far.toList)
    else w
  | .program =>
    if f.isFar then w.complain (curled text ++ far.toList)
    else if f.rest.length = text.length && !text.isEmpty then
      w.complain (curled text ++ ": expected a numeric value".toList)
    else if !f.rest.isEmpty then
      w.complain (curled text ++ ": value not completely converted".toList)
    else w

/-- The number of a character after a quotation mark, and what follows it if this is worth a
word. -/
def markedValue? (d : Dialect) : List Char → Option (Nat × List Char)
  | [] => none
  | mark :: rest =>
    if mark != '"' && mark != '\'' then none
    else
      match d with
      | .shell => some ((rest.headD (octetOf 0)).toNat, [])
      | .program =>
        match rest, Text.firstChar? (Text.charOctets rest) with
        | [], _ => none
        | _, some (c, rest) => some (c.toNat, Text.octetChars rest)
        | c :: rest, none => some (c.toNat, rest)

/-- Says that characters are passed over. -/
def Written.passOver (w : Written) (rest : List Char) : Written :=
  if rest.isEmpty then w
  else
    w.tell ("warning: ".toList ++ rest ++
      ": character(s) following character constant have been ignored".toList)

/-- The base of an integer that is written in the way of programs, and its digits. -/
def readBase : List Char → Nat × List Char
  | '0' :: x :: rest =>
    if (x = 'x' || x = 'X') && rest.head?.any isHex then (16, rest) else (8, '0' :: x :: rest)
  | cs => (10, cs)

/-- The integer at the beginning of a text, and what follows it. -/
def integerIn (cs : List Char) : Int × List Char :=
  let bare := cs.dropWhile fun c => c = ' ' || ('\t' ≤ c && c ≤ '\r')
  let (negative, rest) :=
    match bare with
    | '-' :: rest => (true, rest)
    | '+' :: rest => (false, rest)
    | rest => (false, rest)
  let (base, rest) := readBase rest
  let digits := rest.takeWhile fun c => (Text.hexValue? c).any (· < base)
  if digits.isEmpty then (0, cs)
  else
    let n : Int := Numerals.valueOf base digits
    (if negative then -n else n, rest.drop digits.length)

/-- The nearest integer of 64 bits, and whether it is another one; an unsigned one may be written as
a negative one. -/
def inRange (signed : Bool) (n : Int) : Int × Bool :=
  if signed then
    let m := max (-9223372036854775808) (min 9223372036854775807 n)
    (m, m != n)
  else
    let size : Int := 18446744073709551616
    if n ≤ -size || size ≤ n then (size - 1, true) else (if n < 0 then n + size else n, false)

def Written.takeInteger (d : Dialect) (signed : Bool) (w : Written) : Int × Written :=
  let (text, w) := w.take
  match markedValue? d text with
  | some (n, rest) => (n, w.passOver rest)
  | none =>
    let (n, rest) := integerIn text
    let (n, isFar) := inRange signed n
    (n, w.check d text { rest, isFar })

/-- How a dialect keeps numbers. -/
def Dialect.precision : Dialect → Numerals.Precision
  | .program => .extended
  | .shell => .double

/-- Takes a number that may have decimal places: whether it is negative, and its size. -/
def Written.takeNumber (d : Dialect) (w : Written) : (Bool × Numerals.Kept) × Written :=
  let (text, w) := w.take
  let keep (size : Numerals.Size) := d.precision.keep size
  match markedValue? d text with
  | some (n, rest) => ((false, (keep (.finite ⟨n, 1⟩)).1), w.passOver rest)
  | none =>
    match Numerals.leading? text with
    | some x =>
      let (kept, isFar) := keep x.size
      ((x.negative, kept), w.check d text { rest := x.rest, isFar })
    | none => ((false, (keep (.finite ⟨0, 1⟩)).1), w.check d text { rest := text })

def mostAmount : Int := 2147483647

/-- Takes an amount; `name` is its name. -/
def Written.takeAmount (d : Dialect) (name : String) (a : Option Amount) (w : Written) :
    Option Int × Written :=
  match a with
  | none => (none, w)
  | some (.number n) => (some n, w)
  | some .argument =>
    let text := w.arguments.headD []
    let (n, w) := w.takeInteger d true
    let isWide := mostAmount < n || (name = "field width" && n < -mostAmount - 1)
    if d = .program && isWide then
      (none, w.refuse d ("invalid ".toList ++ name.toList ++ ": ".toList ++ curled text))
    else (some n, w)

/-! ## Filling places -/

/-- A text in a field; zeros are put between a sign or a mark and the digits. -/
def inField (left zeros : Bool) (width : Nat) (start body : List Char) : List Char :=
  let free := width - (start.length + body.length)
  if left then start ++ body ++ List.replicate free ' '
  else if zeros then start ++ List.replicate free '0' ++ body
  else List.replicate free ' ' ++ start ++ body

def signOf (flags : List Char) (negative : Bool) : List Char :=
  if negative then ['-']
  else if flags.contains '+' then ['+']
  else if flags.contains ' ' then [' ']
  else []

/-- Whether a dialect has a conversion at a place. -/
def Directive.isKnown (d : Dialect) (p : Directive) (c : Char) : Bool :=
  let isInteger := ['d', 'i', 'u'].contains c
  let isFraction := ['f', 'F', 'g', 'G'].contains c
  let isOther := ['o', 'x', 'X', 'e', 'E', 'a', 'A'].contains c
  match d with
  | .shell => isInteger || isFraction || isOther || ['s', 'c', 'b'].contains c
  | .program =>
    if ['b', 'q'].contains c then p.text.length = 2
    else
      let grouped := p.flags.contains '\'' || p.flags.contains 'I'
      let marked := p.flags.contains '#'
      let bare := !grouped && !marked && !p.flags.contains '0'
      (isInteger && !marked) || isFraction || (isOther && !grouped) || (c = 's' && bare) ||
        (c = 'c' && bare && p.precision.isNone)

/-- The text of a number that has decimal places, without its sign, and its mark. -/
def numberText (d : Dialect) (c : Char) (kept : Bool) (precision : Option Nat)
    (x : Numerals.Kept) : List Char × List Char :=
  let isCapital := c.isUpper
  let cased (text : String) := (if isCapital then text.map Char.toUpper else text).toList
  match x with
  | .infinite => ([], cased "inf")
  | .nan => ([], cased "nan")
  | .finite m e =>
    let x := Fraction.scale 2 ⟨m, 1⟩ e
    let places := precision.getD 6
    if c = 'f' || c = 'F' then ([], Numerals.fixed kept places x)
    else if c = 'e' || c = 'E' then ([], Numerals.exponential kept isCapital places x)
    else if c = 'g' || c = 'G' then ([], Numerals.general kept isCapital places x)
    else
      (['0', if isCapital then 'X' else 'x'],
        Numerals.hexadecimal kept isCapital d.precision precision m e)

/-- The words for a place that cannot be filled. -/
def Directive.wrongWords (d : Dialect) (p : Directive) : List Char :=
  match d with
  | .program => p.text ++ ": invalid conversion specification".toList
  | .shell =>
    if p.conversion.isNone then "missing format character".toList
    else p.text ++ ": invalid directive".toList

/-- Fills a place by a conversion. -/
def Written.convert (d : Dialect) (w : Written) (p : Directive) (width precision : Option Int)
    (c : Char) : Written :=
  let left := p.flags.contains '-' || width.any (· < 0)
  let width := (width.getD 0).natAbs
  let precision := (precision.filter (0 ≤ ·)).map Int.toNat
  let zeros := p.flags.contains '0' && !left
  let marked := p.flags.contains '#'
  let put (w : Written) (zeros : Bool) (start body : List Char) : Written :=
    w.write (inField left zeros width start body)
  let cut (text : List Char) := (precision.map fun n => text.take n).getD text
  if c = 's' then
    let (text, w) := w.take
    put w false [] (cut text)
  else if c = 'q' then
    let (text, w) := w.take
    put w false [] (Text.spread (Quoting.asNeeded (Text.gather text)))
  else if c = 'b' then
    let (text, w) := w.take
    let r := resolve d .argument text.length text
    let w := put w false [] (cut r.octets)
    r.ending.elim w (w.finish d)
  else if c = 'c' then
    let (text, w) := w.take
    put w false [] [text.headD (octetOf 0)]
  else if c = 'd' || c = 'i' then
    let (n, w) := w.takeInteger d true
    let body := Numerals.digitsAtLeast 10 false (precision.getD 1) n.natAbs
    put w (zeros && precision.isNone) (signOf p.flags (n < 0)) body
  else if c = 'u' || c = 'o' || c = 'x' || c = 'X' then
    let (n, w) := w.takeInteger d false
    let base := if c = 'u' then 10 else if c = 'o' then 8 else 16
    let body := Numerals.digitsAtLeast base (c = 'X') (precision.getD 1) n.toNat
    let body := if marked && c = 'o' && body.head? != some '0' then '0' :: body else body
    let start := if marked && n != 0 && base = 16 then ['0', c] else []
    put w (zeros && precision.isNone) start body
  else
    let ((negative, x), w) := w.takeNumber d
    let (mark, body) := numberText d c marked precision x
    let isFinite := x matches .finite ..
    put w (zeros && isFinite) (signOf p.flags negative ++ mark) body

def Written.fill (d : Dialect) (w : Written) (p : Directive) : Written :=
  let (width, w) := w.takeAmount d "field width" p.width
  let (precision, w) := if w.ended.isSome then (none, w) else w.takeAmount d "precision" p.precision
  let isWide := width.any (mostAmount < ·) || precision.any (mostAmount < ·)
  if w.ended.isSome then w
  else
    match p.conversion with
    | none => w.refuse d (p.wrongWords d)
    | some c =>
      if !p.isKnown d c then w.refuse d (p.wrongWords d)
      else if isWide then
        if d = .program then w.take.2.complain "write error".toList
        else w.refuse d "xvsnprintf failed".toList
      else w.convert d p width precision c

/-- Writes the pieces of a format once. -/
def Written.once (d : Dialect) (w : Written) : List Piece → Written
  | [] => w
  | piece :: rest =>
    if w.ended.isSome then w
    else
      match piece with
      | .text octets => Written.once d (w.write octets) rest
      | .place p => Written.once d (w.fill d p) rest
      | .ending words => w.finish d words

/-- Writes the pieces of a format until no argument is left; there are at most `fuel` of them. -/
def Written.all (d : Dialect) (ps : List Piece) : Nat → Written → Written
  | 0, w => w
  | fuel + 1, w =>
    let n := w.arguments.length
    let w := w.once d ps
    if w.ended.isSome || w.arguments.isEmpty || w.arguments.length = n then w
    else Written.all d ps fuel w

/-- Writes arguments by a format. -/
def print (d : Dialect) (format : List Char) (arguments : List (List Char)) : Written :=
  Written.all d (pieces d format.length format) (arguments.length + 1) { arguments }

end Printing

namespace Filter

open Printing

/-- What a filter tells about itself if the only argument asks for it. -/
def asked (c : Call) (usage : List String) (run : Result) : Result :=
  if c.arguments = ["--help"] then c.closing (c.tell (Usage.textOf c.program usage))
  else if c.arguments = ["--version"] then c.closing (c.tell (c.program ++ "\n"))
  else run

/-- Writes its arguments on a line. -/
def echo : Filter := fun c =>
  let isSwitch (a : String) : Bool :=
    match a.toList with
    | '-' :: l :: ls => (l :: ls).all fun x => x = 'n' || x = 'e' || x = 'E'
    | _ => false
  let letters := (c.arguments.takeWhile isSwitch).flatMap fun a => a.toList.drop 1
  let text := joined ((c.arguments.dropWhile isSwitch).map Text.spread)
  let resolves := (letters.filter (· != 'n')).getLast? = some 'e'
  let r := if resolves then resolve .program .line text.length text else { octets := text }
  let ending := if letters.contains 'n' || r.ending.isSome then [] else ['\n']
  asked c Usage.echo <|
    c.closing { written := [(1, Text.charOctets (r.octets ++ ending))], rest := c.input }

/-- Writes its arguments by a format. -/
def printf : Filter := fun c =>
  let arguments := if c.arguments.head? = some "--" then c.arguments.drop 1 else c.arguments
  asked c Usage.printf <|
    match arguments with
    | [] => c.misuse "missing operand"
    | format :: rest =>
      let w := print .program (Text.spread format) (rest.map Text.spread)
      let say (words : List Char) : Nat × List UInt8 := (2, c.sayOctets (Text.charOctets words))
      let unused :=
        if w.ended.isSome then []
        else
          (w.arguments.take 1).map fun a =>
            say ("warning: ignoring excess arguments, starting with ".toList ++ curled a)
      let written := w.parts.reverse.map fun p =>
        p.elim (fun octets => (1, Text.charOctets octets)) say
      c.closing { status := w.status, written := written ++ unused, rest := c.input }

/-- Does nothing and ends with a status. -/
def quiet (status : Nat) (usage : List String) : Filter := fun c =>
  asked c usage { status, rest := c.input }

end Filter
end Formatter
end FlowDecl
