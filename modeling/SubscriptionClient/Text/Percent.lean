import SubscriptionClient.Text.Hex
import SubscriptionClient.Text.Utf8

/-!
# Percent escapes

A text becomes a path segment by writing every byte of its UTF-8 form that is not unreserved as a
percent sign and two upper-case digits. `unescape?` reads such a segment back.
-/

namespace SubscriptionClient.Percent

/-- Letters, digits and the four marks that stand for themselves. -/
def isUnreserved (b : UInt8) : Bool :=
  let n := b.toNat
  decide ((65 ≤ n ∧ n ≤ 90) ∨ (97 ≤ n ∧ n ≤ 122) ∨ (48 ≤ n ∧ n ≤ 57) ∨
    n = 95 ∨ n = 46 ∨ n = 45 ∨ n = 126)

def pointOfByte (b : UInt8) : CodePoint :=
  ⟨b.toNat, Nat.lt_trans b.toNat_lt (by decide)⟩

def escapeByte (b : UInt8) : Text :=
  if isUnreserved b then [pointOfByte b] else CodePoint.ofChar '%' :: Hex.upperPair b

/-- Fails on a text with a surrogate, which has no UTF-8 form. -/
def escape? (t : Text) : Option Text :=
  (Utf8.encode? t).map (·.flatMap escapeByte)

/-- The bytes of a segment: escapes read as bytes, ASCII characters as themselves. -/
def unescapeBytes? : Text → Option (List UInt8)
  | [] => some []
  | c :: rest =>
    if c = CodePoint.ofChar '%' then
      match rest with
      | hi :: lo :: rest => do
        let x ← Hex.digitValue? hi
        let y ← Hex.digitValue? lo
        return UInt8.ofNat (x * 16 + y) :: (← unescapeBytes? rest)
      | _ => none
    else if c.val < 0x80 then (unescapeBytes? rest).map (UInt8.ofNat c.val :: ·)
    else none

def unescape? (t : Text) : Option Text := (unescapeBytes? t).bind Utf8.decode?

end SubscriptionClient.Percent
