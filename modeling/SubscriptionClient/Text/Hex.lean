import SubscriptionClient.Text.Basic

/-!
# Hexadecimal digits

Digits of both cases, the value of a digit, and bytes written as digit pairs.
-/

namespace SubscriptionClient.Hex

def lowerDigit (n : Nat) : CodePoint :=
  if n < 10 then Fin.ofNat _ (48 + n) else Fin.ofNat _ (87 + n % 16)

def upperDigit (n : Nat) : CodePoint :=
  if n < 10 then Fin.ofNat _ (48 + n) else Fin.ofNat _ (55 + n % 16)

def digitValue? (c : CodePoint) : Option Nat :=
  if 48 ≤ c.val ∧ c.val < 58 then some (c.val - 48)
  else if 65 ≤ c.val ∧ c.val < 71 then some (c.val - 55)
  else if 97 ≤ c.val ∧ c.val < 103 then some (c.val - 87)
  else none

def lowerPair (b : UInt8) : Text := [lowerDigit (b.toNat / 16), lowerDigit (b.toNat % 16)]

def upperPair (b : UInt8) : Text := [upperDigit (b.toNat / 16), upperDigit (b.toNat % 16)]

/-- Bytes as pairs of lower-case digits. -/
def encode (bs : List UInt8) : Text := bs.flatMap lowerPair

def isSpace (c : CodePoint) : Bool := c.val = 32 || (9 ≤ c.val && c.val ≤ 13)

/-- Bytes from pairs of digits, with blanks between the pairs. -/
def decode? : Text → Option (List UInt8)
  | [] => some []
  | [c] => if isSpace c then some [] else none
  | hi :: lo :: rest =>
    if isSpace hi then decode? (lo :: rest)
    else do
      let x ← digitValue? hi
      let y ← digitValue? lo
      return UInt8.ofNat (x * 16 + y) :: (← decode? rest)

/-- The last `width` lower-case digits of a number. -/
def ofNat : (width n : Nat) → Text
  | 0, _ => []
  | width + 1, n => ofNat width (n / 16) ++ [lowerDigit (n % 16)]

end SubscriptionClient.Hex
