import PhpAudit.Category
import PhpAudit.Mapping
import PhpAudit.Number.Binary
import PhpAudit.Text.Utf8

/-!
Values as settings, rule options and rule answers carry them. Their kinds, when they count as
empty, which may serve as keys, and when two are equal: numbers compare by value whatever their
kind, everything else within its kind. Of any other object only that is known by which a value is
told from others and written. Its text is made when it is asked for, and that may fail.
-/

namespace PhpAudit

/-- Kinds of failures that are told apart. -/
inductive FailureFamily where
  | parsing
  | resources
  | time
  | configuration
  | access
  | types
  deriving DecidableEq, Repr

/-- What is said in place of a text that cannot be made. -/
structure Complaint where
  name : String
  families : List FailureFamily
  text : String

/-- An object of a kind of its own. -/
structure Thing where
  /-- Two objects are the same if they have the same mark. -/
  mark : Nat
  kind : String
  isEmpty : Bool
  /-- How it is written on its own, and as part of a value. -/
  text : Except Complaint String
  quoted : Except Complaint String

inductive Value where
  | null
  | bool (b : Bool)
  | int (n : Int)
  | float (x : Float)
  | text (s : String)
  | bytes (b : Bytes)
  | list (items : List Value)
  | tuple (items : List Value)
  | map (entries : List (String × Value))
  | severity (s : Severity)
  | category (c : Category)
  | object (thing : Thing)

instance : Inhabited Value := ⟨.null⟩

namespace Value

/-- The kind as messages name it. -/
def kindName : Value → String
  | .null => "NoneType"
  | .bool _ => "bool"
  | .int _ => "int"
  | .float _ => "float"
  | .text _ => "str"
  | .bytes _ => "bytes"
  | .list _ => "list"
  | .tuple _ => "tuple"
  | .map _ => "dict"
  | .severity _ => "Severity"
  | .category _ => "RuleCategory"
  | .object thing => thing.kind

def isFloatZero (x : Float) : Bool :=
  match Binary.ofFloat x with
  | .finite _ significand _ => significand == 0
  | _ => false

/-- Null, false, zeros and whatever holds nothing. -/
def isEmpty : Value → Bool
  | .null => true
  | .bool b => !b
  | .int n => n == 0
  | .float x => isFloatZero x
  | .text s => s.isEmpty
  | .bytes b => b.isEmpty
  | .list items => items.isEmpty
  | .tuple items => items.isEmpty
  | .map entries => entries.isEmpty
  | .severity _ => false
  | .category _ => false
  | .object thing => thing.isEmpty

/-- The value itself unless it counts as empty. -/
def orElse (v : Value) (fallback : Value) : Value := if v.isEmpty then fallback else v

/-- A number: an integer, with the two truth values as 1 and 0, or a double. -/
inductive Num where
  | int (n : Int)
  | float (x : Float)

def num? : Value → Option Num
  | .bool b => some (.int (if b then 1 else 0))
  | .int n => some (.int n)
  | .float x => some (.float x)
  | _ => none

namespace Num

/-- Exact comparison; none when one of the two is undefined. -/
def compare? : Num → Num → Option Ordering
  | .int a, .int b => some (compare a b)
  | .int a, .float y => Binary.compareInt? a (Binary.ofFloat y)
  | .float x, .int b => (Binary.compareInt? b (Binary.ofFloat x)).map Ordering.swap
  | .float x, .float y =>
      if x < y then some .lt else if y < x then some .gt else if x == y then some .eq else none

def equals (a b : Num) : Bool := compare? a b == some .eq

def le (a b : Num) : Bool :=
  match compare? a b with
  | some .lt | some .eq => true
  | _ => false

def lt (a b : Num) : Bool := compare? a b == some .lt

end Num

mutual

/-- The first part of a value that cannot serve as a key, if any. -/
def unkeyable? : Value → Option Value
  | .list items => some (.list items)
  | .map entries => some (.map entries)
  | .tuple items => unkeyableIn? items
  | _ => none

def unkeyableIn? : List Value → Option Value
  | [] => none
  | v :: rest => match unkeyable? v with
      | some bad => some bad
      | none => unkeyableIn? rest

end

mutual

def equals : Value → Value → Bool
  | .null, .null => true
  | .text s, .text t => s == t
  | .bytes a, .bytes b => a == b
  | .list xs, .list ys => equalsAll xs ys
  | .tuple xs, .tuple ys => equalsAll xs ys
  | .map xs, .map ys => xs.length == ys.length && equalsEntries xs ys
  | .severity a, .severity b => a == b
  | .category a, .category b => a == b
  | .object a, .object b => a.mark == b.mark
  | v, w => match v.num?, w.num? with
      | some a, some b => Num.equals a b
      | _, _ => false

def equalsAll : List Value → List Value → Bool
  | [], [] => true
  | v :: vs, w :: ws => equals v w && equalsAll vs ws
  | _, _ => false

def equalsEntries : List (String × Value) → List (String × Value) → Bool
  | [], _ => true
  | (k, v) :: rest, ys =>
      (match Mapping.get? ys k with
        | some w => equals v w
        | none => false) && equalsEntries rest ys

end

mutual

/-- Whether two values are written alike down to the bits of their doubles. -/
def identical : Value → Value → Bool
  | .null, .null => true
  | .bool a, .bool b => a == b
  | .int a, .int b => a == b
  | .float x, .float y => x.toBits == y.toBits
  | .text s, .text t => s == t
  | .bytes a, .bytes b => a == b
  | .list xs, .list ys => identicalAll xs ys
  | .tuple xs, .tuple ys => identicalAll xs ys
  | .map xs, .map ys => identicalEntries xs ys
  | .severity a, .severity b => a == b
  | .category a, .category b => a == b
  | .object a, .object b => a.mark == b.mark
  | _, _ => false

def identicalAll : List Value → List Value → Bool
  | [], [] => true
  | v :: vs, w :: ws => identical v w && identicalAll vs ws
  | _, _ => false

def identicalEntries : List (String × Value) → List (String × Value) → Bool
  | [], [] => true
  | (k, v) :: rest, (k', w) :: rest' => k == k' && identical v w && identicalEntries rest rest'
  | _, _ => false

end

end Value

end PhpAudit
