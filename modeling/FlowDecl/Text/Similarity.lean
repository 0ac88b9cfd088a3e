/-!
# Similar texts

How much of two texts is shared: their longest shared stretch, and then what is shared before it and
after it.  The share that this has of both texts decides which names are close enough to a misspelt
one to be proposed in its place.
-/

namespace FlowDecl
namespace Text

/-- The length of the longest common start of two texts. -/
def commonStart : List Char → List Char → Nat
  | a :: as, b :: bs => if a = b then commonStart as bs + 1 else 0
  | _, _ => 0

/-- A stretch that two texts share: where it starts in each of them, and its length. -/
structure Stretch where
  left : Nat := 0
  right : Nat := 0
  length : Nat := 0
  deriving DecidableEq, Repr

/-- All stretches that start at one place of the first text and are as long as they can be. -/
def stretchesAt (left : Nat) (as bs : List Char) : List Stretch :=
  (List.range bs.length).map fun right =>
    { left, right, length := commonStart (as.drop left) (bs.drop right) }

/-- The longest stretch that two texts share; of several the one that starts first in the first
text, and then the one that starts first in the second. -/
def longestStretch (as bs : List Char) : Stretch :=
  ((List.range as.length).flatMap fun left => stretchesAt left as bs).foldl
    (fun best s => if best.length < s.length then s else best) {}

/-- Counts what two texts share, in at most `fuel` rounds of looking for a stretch. -/
def sharedWithin : Nat → List Char → List Char → Nat
  | 0, _, _ => 0
  | fuel + 1, as, bs =>
    let s := longestStretch as bs
    if s.length = 0 then 0
    else
      sharedWithin fuel (as.take s.left) (bs.take s.right) + s.length +
        sharedWithin fuel (as.drop (s.left + s.length)) (bs.drop (s.right + s.length))

/-- How many characters of two texts are shared: those of the longest stretch, and those that are
shared before it and after it.  Each round takes characters off the first text. -/
def shared (as bs : List Char) : Nat :=
  sharedWithin as.length as bs

/-- A name that is compared with a misspelt one. -/
structure Candidate where
  name : String
  /-- How many characters it shares with the misspelt name. -/
  shared : Nat
  /-- How many characters both have together. -/
  total : Nat

namespace Candidate

/-- Compares a name with a misspelt one. -/
def ofName (misspelt name : String) : Candidate :=
  { name
    shared := Text.shared name.toList misspelt.toList
    total := name.length + misspelt.length }

/-- Whether at least six tenths of the characters are shared. -/
def isClose (c : Candidate) : Bool :=
  3 * c.total ≤ 10 * c.shared

/-- Whether a name comes before another one: it shares more, or it shares as much and is the later
one in the order of names. -/
def precedes (c d : Candidate) : Bool :=
  d.shared * c.total < c.shared * d.total ||
    (d.shared * c.total == c.shared * d.total && decide (d.name ≤ c.name))

end Candidate

/-- The names to propose in place of a misspelt one: the three closest ones of those that are close
enough, in the order of names. -/
def closeNames (misspelt : String) (names : List String) : List String :=
  let close := (names.map (Candidate.ofName misspelt)).filter Candidate.isClose
  (((close.mergeSort Candidate.precedes).take 3).map (·.name)).mergeSort fun a b => decide (a ≤ b)

end Text
end FlowDecl
