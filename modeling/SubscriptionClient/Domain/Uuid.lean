import SubscriptionClient.Number.Numeral

/-!
# UUIDs

A UUID is a number of 128 bits. It is read leniently: prefixes, braces and hyphens do not count, and
the thirty-two characters left are a hexadecimal numeral.
-/

namespace SubscriptionClient

structure Uuid where
  value : Nat
  isLt : value < 2 ^ 128
  deriving DecidableEq

namespace Uuid

/-- The characters that are left to read as a number. -/
def significant (t : Text) : Text :=
  let bare := Text.remove "uuid:".toText (Text.remove "urn:".toText t)
  let isBrace := fun c => c == CodePoint.ofChar '\x7b' || c == CodePoint.ofChar '\x7d'
  (bare.trim isBrace).filter (· != CodePoint.ofChar '-')

def read? (t : Text) : Option Uuid :=
  let digits := significant t
  if digits.length = 32 then
    match Numeral.hexadecimal? digits with
    | some (.ofNat n) => if h : n < 2 ^ 128 then some ⟨n, h⟩ else none
    | _ => none
  else none

/-- Lower-case digits in five groups. -/
def text (u : Uuid) : Text :=
  let digits := Hex.ofNat 32 u.value
  List.intercalate "-".toText
    [digits.take 8, (digits.drop 8).take 4, (digits.drop 12).take 4, (digits.drop 16).take 4,
      digits.drop 20]

end Uuid

end SubscriptionClient
