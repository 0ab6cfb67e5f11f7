import SubscriptionClient.Number.Exact
import SubscriptionClient.Number.Numeral
import SubscriptionClient.Number.Shortest
import SubscriptionClient.Time.DateTime

/-!
# Values

The dynamic values that requests carry and answers hold. A mapping keeps the order of its members;
its keys may be any scalar, and keys that are equal as scalars are one key.
-/

namespace SubscriptionClient

inductive Value where
  | null
  | bool (b : Bool)
  | int (n : Int)
  | float (x : Double)
  | text (t : Text)
  | bytes (bs : List UInt8)
  | decimal (d : Decimal)
  | dateTime (t : DateTime)
  | list (items : List Value)
  | map (members : List (Value × Value))
  deriving Inhabited

namespace Value

def isNull : Value → Bool
  | null => true
  | _ => false

/-- The exact number that a value is; truth values count as zero and one. -/
def number? : Value → Option Decimal
  | bool b => some (.ofBool b)
  | int n => some (.ofInt n)
  | float x => some (.ofDouble x)
  | decimal d => some d
  | _ => none

/-- Whether a value is a decimal that is no number and objects to being used. -/
def isSignaling : Value → Bool
  | decimal d => d.isSignaling
  | _ => false

/-- Lists, mappings and signaling decimals cannot be keys. -/
def isKey : Value → Bool
  | list _ | map _ => false
  | v => !v.isSignaling

/-- Equality of keys: numbers by value, date-times as moments, all else by form. -/
def sameKey : Value → Value → Bool
  | null, null => true
  | text t, text u => t == u
  | bytes a, bytes b => a == b
  | dateTime t, dateTime u => t.sameMoment u
  | v, w => match v.number?, w.number? with
    | some x, some y => x.eq y
    | _, _ => false

/-- Absence, zero and emptiness are false. -/
def toBool : Value → Bool
  | null => false
  | bool b => b
  | int n => n != 0
  | float (.finite _ m _) => m != 0
  | float _ => true
  | text t => !t.isEmpty
  | bytes bs => !bs.isEmpty
  | decimal (.finite _ c _) => c != 0
  | decimal _ => true
  | dateTime _ => true
  | list xs => !xs.isEmpty
  | map es => !es.isEmpty

/-! ## Mappings -/

def find? (key : Value) : List (Value × Value) → Option Value
  | [] => none
  | (k, v) :: es => if k.sameKey key then some v else find? key es

/-- The members of a mapping; other values have none. -/
def members : Value → List (Value × Value)
  | map es => es
  | _ => []

def member? (name : String) (es : List (Value × Value)) : Option Value :=
  find? (text name.toText) es

/-- Sets the value under a key. A key that is there keeps its place. -/
def put {α : Type} (key : Value) (a : α) : List (Value × α) → List (Value × α)
  | [] => [(key, a)]
  | (k, b) :: es => if k.sameKey key then (k, a) :: es else (k, b) :: put key a es

/-- The mapping of a list of members, of which later ones replace earlier ones. -/
def collect {α : Type} (es : List (Value × α)) : List (Value × α) :=
  es.foldl (fun acc e => put e.1 e.2 acc) []

def record (fields : List (String × Value)) : Value :=
  map (fields.map fun f => (text f.1.toText, f.2))

def ofOption {α : Type} (f : α → Value) : Option α → Value
  | none => null
  | some a => f a

def ofText? : Option Text → Value := ofOption text

end Value

end SubscriptionClient
