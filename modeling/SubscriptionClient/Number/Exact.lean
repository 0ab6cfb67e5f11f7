import SubscriptionClient.Number.Decimal

/-!
# Exact comparison of numbers

Every integer and every double is a decimal, so numbers of all kinds compare as decimals, by their
exact values. Infinities lie beyond every finite number and a NaN compares with nothing.
-/

namespace SubscriptionClient.Decimal

def ofInt (n : Int) : Decimal := finite (decide (n < 0)) n.natAbs 0

def ofBool (b : Bool) : Decimal := ofInt (if b then 1 else 0)

/-- The decimal that a double is: a negative power of two is one of five over one of ten. -/
def ofDouble : Double → Decimal
  | .nan => nan false false none
  | .infinite negative => infinite negative
  | .finite negative m e => match e with
    | .ofNat k => finite negative (m * 2 ^ k) 0
    | .negSucc k => finite negative (m * 5 ^ (k + 1)) (.negSucc k)

/-- The place before the leading digit of `c * 10 ^ e`. -/
def leadingPlace (c : Nat) (e : Int) : Int := e + (Nat.toDigits 10 c).length

/-- The order of `c * 10 ^ e` and `d * 10 ^ f`. The exponents are brought together only when the
leading digits stand at one place, so that no power is large. -/
def compareMagnitude (c : Nat) (e : Int) (d : Nat) (f : Int) : Ordering :=
  if e = f ∨ c = 0 ∨ d = 0 then compare c d
  else
    match compare (leadingPlace c e) (leadingPlace d f) with
    | .eq =>
      if e ≤ f then compare c (d * 10 ^ (f - e).toNat) else compare (c * 10 ^ (e - f).toNat) d
    | order => order

/-- The order of two numbers; a NaN has none. -/
def compare? : Decimal → Decimal → Option Ordering
  | finite s c e, finite t d f => some <|
    match s && c != 0, t && d != 0 with
    | false, false => compareMagnitude c e d f
    | true, true => compareMagnitude d f c e
    | true, false => .lt
    | false, true => .gt
  | infinite s, finite _ _ _ => some (if s then .lt else .gt)
  | finite _ _ _, infinite t => some (if t then .gt else .lt)
  | infinite s, infinite t => some (compare (!s) (!t))
  | _, _ => none

def lt (x y : Decimal) : Bool := x.compare? y == some .lt

def eq (x y : Decimal) : Bool := x.compare? y == some .eq

/-- Not comparable counts as not below and not equal. -/
def le (x y : Decimal) : Bool := x.lt y || x.eq y

end SubscriptionClient.Decimal
