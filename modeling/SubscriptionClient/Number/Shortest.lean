import SubscriptionClient.Number.Double
import SubscriptionClient.Text.Basic

/-!
# Shortest decimal form of a double

The digits are the fewest that read back as the same double, and of those the nearest to it. The
text is positional from `0.0001` up to below `10 ^ 16` and scientific elsewhere.
-/

namespace SubscriptionClient.Double

/-- A positive real as a quotient. -/
structure Quotient where
  num : Nat
  den : Nat

namespace Quotient

def le (x y : Quotient) : Bool := decide (x.num * y.den ≤ y.num * x.den)

/-- The distance of two quotients, times the product of their denominators. -/
def distance (x y : Quotient) : Nat :=
  ((x.num * y.den : Int) - (y.num * x.den : Int)).natAbs

def binary (k : Nat) : Int → Quotient
  | .ofNat e => ⟨k * 2 ^ e, 1⟩
  | .negSucc e => ⟨k, 2 ^ (e + 1)⟩

def decimal (k : Nat) : Int → Quotient
  | .ofNat e => ⟨k * 10 ^ e, 1⟩
  | .negSucc e => ⟨k, 10 ^ (e + 1)⟩

end Quotient

/-- The reals that round to `m * 2 ^ e`, with a flag for whether the ends belong to them. -/
structure Interval where
  low : Quotient
  high : Quotient
  closed : Bool

def interval (m : Nat) (e : Int) : Interval where
  low := if m = 2 ^ 52 ∧ -1074 < e then .binary (4 * m - 1) (e - 2) else .binary (2 * m - 1) (e - 1)
  high := .binary (2 * m + 1) (e - 1)
  closed := decide (m % 2 = 0)

def Interval.contains (i : Interval) (x : Quotient) : Bool :=
  if i.closed then i.low.le x && x.le i.high else !x.le i.low && !i.high.le x

/-- The two neighbours of `v` on the grid of multiples of `10 ^ k` that lie in the interval; of
two, the nearer, or the even one of two that are as near. -/
def candidate? (v : Quotient) (i : Interval) (k : Int) : Option Nat :=
  let unit := Quotient.decimal 1 k
  let lower := v.num * unit.den / (v.den * unit.num)
  let lowerHit := lower ≠ 0 && i.contains (.decimal lower k)
  let upperHit := i.contains (.decimal (lower + 1) k)
  match lowerHit, upperHit with
  | true, true =>
    let below := (Quotient.decimal lower k).distance v * (Quotient.decimal (lower + 1) k).den
    let above := (Quotient.decimal (lower + 1) k).distance v * (Quotient.decimal lower k).den
    if below < above ∨ (below = above ∧ lower % 2 = 0) then some lower else some (lower + 1)
  | true, false => some lower
  | false, true => some (lower + 1)
  | false, false => none

/-- The first grid, from coarse to fine, that has a candidate. -/
def search (v : Quotient) (i : Interval) : (fuel : Nat) → (k : Int) → Nat × Int
  | 0, k => (v.num * (Quotient.decimal 1 k).den / (v.den * (Quotient.decimal 1 k).num), k)
  | fuel + 1, k =>
    match candidate? v i k with
    | some d => (d, k)
    | none => search v i fuel (k - 1)

/-- The exponent of the coarsest grid on which `v` has a digit: `10 ^ k ≤ v < 10 ^ (k + 1)`. -/
def leadingExponent (v : Quotient) : Int :=
  let bits : Int := (Nat.log2 v.num : Int) - (Nat.log2 v.den : Int)
  let guess : Int := bits * 30103 / 100000
  if (Quotient.decimal 1 (guess + 1)).le v then guess + 1
  else if (Quotient.decimal 1 guess).le v then guess
  else guess - 1

/-- Shortest digits `d` and exponent `k` of `m * 2 ^ e = d * 10 ^ k` after rounding; `m` is
positive. -/
def shortestDigits (m : Nat) (e : Int) : Nat × Int :=
  let v := Quotient.binary m e
  let (d, k) := search v (interval m e) 17 (leadingExponent v)
  if d % 10 = 0 ∧ d ≠ 0 then (d / 10, k + 1) else (d, k)

/-- How the text of a number is laid out. -/
structure Layout where
  nan : Text
  infinity : Text
  /-- The least decimal exponent of the leading digit that is written positionally. -/
  least : Int
  /-- The greatest such exponent. -/
  most : Int
  /-- Digits of the exponent, at least. -/
  exponentWidth : Nat

/-- Fractions keep a point, exponents have a sign and at least two digits. -/
def literalLayout : Layout := ⟨"nan".toText, "inf".toText, -4, 15, 2⟩

/-- As in a literal, but with the names that JSON readers know. -/
def jsonLayout : Layout :=
  { literalLayout with nan := "NaN".toText, infinity := "Infinity".toText }

/-- The digits `d` (with exponent `k`) in positional form, with at least one digit on either side
of the point. -/
def positional (digits : Text) (k : Int) : Text :=
  match k with
  | .ofNat k => digits ++ List.replicate k (CodePoint.ofChar '0') ++ ".0".toText
  | .negSucc k =>
    let places := k + 1
    let padded :=
      List.replicate (places + 1 - digits.length) (CodePoint.ofChar '0') ++ digits
    padded.take (padded.length - places) ++ ".".toText ++ padded.drop (padded.length - places)

def scientific (layout : Layout) (digits : Text) (exponent : Int) : Text :=
  let mantissa := match digits with
    | [] => []
    | [d] => [d]
    | d :: rest => d :: (".".toText ++ rest)
  let sign := if exponent < 0 then "-".toText else "+".toText
  mantissa ++ "e".toText ++ sign ++ Text.ofNatPadded layout.exponentWidth exponent.natAbs

def text (layout : Layout) : Double → Text
  | nan => layout.nan
  | infinite negative => (if negative then "-".toText else []) ++ layout.infinity
  | finite negative m e =>
    (if negative then "-".toText else []) ++
      if m = 0 then "0.0".toText
      else
        let (d, k) := shortestDigits m e
        let digits := Text.ofNat d
        let exponent : Int := k + digits.length - 1
        if layout.least ≤ exponent ∧ exponent ≤ layout.most then positional digits k
        else scientific layout digits exponent

def literal : Double → Text := text literalLayout

end SubscriptionClient.Double
