import SubscriptionClient.Text.Basic

/-!
# UTF-8

Bytes of a text without surrogates, and the strict reader of such bytes: no overlong forms, no
surrogates, nothing above the last code point.
-/

namespace SubscriptionClient.Utf8

/-- The bytes of one code point, one to four of them by its size. -/
def ofPoint (c : CodePoint) : List UInt8 :=
  let n := c.val
  if n < 0x80 then [UInt8.ofNat n]
  else if n < 0x800 then [UInt8.ofNat (0xC0 + n / 64), UInt8.ofNat (0x80 + n % 64)]
  else if n < 0x10000 then
    [UInt8.ofNat (0xE0 + n / 4096), UInt8.ofNat (0x80 + n / 64 % 64), UInt8.ofNat (0x80 + n % 64)]
  else
    [UInt8.ofNat (0xF0 + n / 262144), UInt8.ofNat (0x80 + n / 4096 % 64),
      UInt8.ofNat (0x80 + n / 64 % 64), UInt8.ofNat (0x80 + n % 64)]

/-- Fails when the text holds a surrogate. -/
def encode? (t : Text) : Option (List UInt8) :=
  if t.any CodePoint.isSurrogate then none else some (t.flatMap ofPoint)

/-- The six payload bits of a continuation byte. -/
def continuation? (b : UInt8) : Option Nat :=
  if 0x80 ≤ b.toNat ∧ b.toNat < 0xC0 then some (b.toNat - 0x80) else none

/-- The code point `n`, when it needs at least `least` and is no surrogate. -/
def point? (least n : Nat) : Option CodePoint :=
  if h : n < 0x110000 then
    if least ≤ n ∧ CodePoint.isSurrogate ⟨n, h⟩ = false then some ⟨n, h⟩ else none
  else none

/-- The first code point of a byte list, and the bytes after it. -/
def decodePoint? : List UInt8 → Option (CodePoint × List UInt8)
  | [] => none
  | b :: rest =>
    if b.toNat < 0x80 then (point? 0 b.toNat).map (·, rest)
    else if b.toNat < 0xC0 then none
    else if b.toNat < 0xE0 then
      match rest with
      | c₁ :: rest => do
        let x ← continuation? c₁
        let p ← point? 0x80 ((b.toNat - 0xC0) * 64 + x)
        return (p, rest)
      | _ => none
    else if b.toNat < 0xF0 then
      match rest with
      | c₁ :: c₂ :: rest => do
        let x ← continuation? c₁
        let y ← continuation? c₂
        let p ← point? 0x800 ((b.toNat - 0xE0) * 4096 + x * 64 + y)
        return (p, rest)
      | _ => none
    else
      match rest with
      | c₁ :: c₂ :: c₃ :: rest => do
        let x ← continuation? c₁
        let y ← continuation? c₂
        let z ← continuation? c₃
        let p ← point? 0x10000 ((b.toNat - 0xF0) * 262144 + x * 4096 + y * 64 + z)
        return (p, rest)
      | _ => none

theorem decodePoint?_length {bs rest : List UInt8} {p : CodePoint}
    (h : decodePoint? bs = some (p, rest)) : rest.length < bs.length := by
  unfold decodePoint? at h
  repeat' split at h
  all_goals
    simp_all [Option.bind_eq_some_iff, Option.map_eq_some_iff] <;> grind

def decode? (bs : List UInt8) : Option Text :=
  if bs = [] then some []
  else
    match h : decodePoint? bs with
    | none => none
    | some (p, rest) =>
      have := decodePoint?_length h
      (decode? rest).map (p :: ·)
  termination_by bs.length

end SubscriptionClient.Utf8
