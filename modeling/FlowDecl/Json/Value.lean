import FlowDecl.Decimal.Binary64

/-!
# JSON values

A decoded JSON value.  Integers have any size and are kept apart from floating-point numbers, and
the members of an object keep their order: a member that is put again keeps its place and takes
the new value.

Two relations compare values.  `Value.same` is equality of value, where numbers of either sort
(and truth values, as one and zero) are equal if they have the same value, and objects do not
depend on the order of their members.  `Value.hashable` tells the values that can stand in a set
of names: all but lists and objects.
-/

namespace FlowDecl
namespace Json

open Decimal (Binary64)

inductive Value where
  | null
  | bool (b : Bool)
  | int (n : Int)
  | float (x : Binary64)
  | str (s : String)
  | arr (items : List Value)
  | obj (members : List (String × Value))
  deriving Inhabited

namespace Value

/-- The value of the first member with a name. -/
def lookup? (name : String) : List (String × Value) → Option Value
  | [] => none
  | (key, value) :: rest => if key = name then some value else lookup? name rest

/-- Puts a member: an earlier member of the name keeps its place and takes the value. -/
def put (members : List (String × Value)) (name : String) (value : Value) :
    List (String × Value) :=
  match members with
  | [] => [(name, value)]
  | (key, old) :: rest =>
    if key = name then (key, value) :: rest else (key, old) :: put rest name value

/-- The sort of a value, by the word that error messages use for it. -/
def sort : Value → String
  | .null => "NoneType"
  | .bool _ => "bool"
  | .int _ => "int"
  | .float _ => "float"
  | .str _ => "str"
  | .arr _ => "list"
  | .obj _ => "dict"

/-- Whether a value counts as given: null, false, zero and everything empty do not. -/
def isTruthy : Value → Bool
  | .null => false
  | .bool b => b
  | .int n => n != 0
  | .float x => !x.isZero
  | .str s => s != ""
  | .arr items => !items.isEmpty
  | .obj members => !members.isEmpty

def isNull : Value → Bool
  | .null => true
  | _ => false

/-- Whether a value can stand in a set of names. -/
def hashable : Value → Bool
  | .arr _ => false
  | .obj _ => false
  | _ => true

/-- The value of a scalar that counts as a number. -/
inductive Numeric where
  | int (n : Int)
  | float (x : Binary64)

/-- A truth value counts as one or zero. -/
def numeric? : Value → Option Numeric
  | .bool b => some (.int (if b then 1 else 0))
  | .int n => some (.int n)
  | .float x => some (.float x)
  | _ => none

/-- Equality of numbers of either sort. -/
def Numeric.same : Numeric → Numeric → Bool
  | .int a, .int b => a == b
  | .int a, .float y => y.sameInt a
  | .float x, .int b => x.sameInt b
  | .float x, .float y => x.same y

/-- Equality of values that are no containers. -/
def sameScalar (a b : Value) : Bool :=
  match a, b with
  | .null, .null => true
  | .str s, .str t => s == t
  | a, b =>
    match a.numeric?, b.numeric? with
    | some x, some y => x.same y
    | _, _ => false

/-- Whether two values are one and the same number that is not a number.  Such a number differs
from itself in value, but it is found again in a set or a list. -/
def bothNaN : Value → Value → Bool
  | .float .nan, .float .nan => true
  | _, _ => false

mutual

def same : Value → Value → Bool
  | .arr xs, .arr ys => sameItems xs ys
  | .obj xs, .obj ys => xs.length == ys.length && sameMembers xs ys
  | a, b => sameScalar a b

/-- Equality of lists, place by place. -/
def sameItems : List Value → List Value → Bool
  | [], [] => true
  | x :: xs, y :: ys => (bothNaN x y || same x y) && sameItems xs ys
  | _, _ => false

/-- Whether every member is found among others with an equal value. -/
def sameMembers : List (String × Value) → List (String × Value) → Bool
  | [], _ => true
  | (key, x) :: xs, ys =>
    (match lookup? key ys with
      | some y => bothNaN x y || same x y
      | none => false) && sameMembers xs ys

end

/-- Whether a value is found in a set of values. -/
def isIn (v : Value) (set : List Value) : Bool :=
  set.any fun w => bothNaN v w || same v w

end Value
end Json
end FlowDecl
