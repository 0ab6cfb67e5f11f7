import SubscriptionClient.Text.Basic

/-!
# Base64

Three bytes become four characters of the standard alphabet; a shorter last group is padded.
-/

namespace SubscriptionClient.Base64

def symbol (n : Nat) : CodePoint :=
  if n < 26 then Fin.ofNat _ (65 + n)
  else if n < 52 then Fin.ofNat _ (71 + n)
  else if n < 62 then Fin.ofNat _ (n - 4)
  else if n = 62 then CodePoint.ofChar '+'
  else CodePoint.ofChar '/'

def pad : CodePoint := CodePoint.ofChar '='

def encode : List UInt8 → Text
  | [] => []
  | [a] => [symbol (a.toNat / 4), symbol (a.toNat % 4 * 16), pad, pad]
  | [a, b] =>
    [symbol (a.toNat / 4), symbol (a.toNat % 4 * 16 + b.toNat / 16),
      symbol (b.toNat % 16 * 4), pad]
  | a :: b :: c :: rest =>
    symbol (a.toNat / 4) :: symbol (a.toNat % 4 * 16 + b.toNat / 16) ::
      symbol (b.toNat % 16 * 4 + c.toNat / 64) :: symbol (c.toNat % 64) :: encode rest

end SubscriptionClient.Base64
