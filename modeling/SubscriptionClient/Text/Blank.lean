import SubscriptionClient.Text.Basic

/-!
# Blank characters

The white-space characters of Unicode, and the wider class that also holds the four information
separators.
-/

namespace SubscriptionClient.CodePoint

def whiteSpaceRanges : List (Nat × Nat) :=
  [(0x9, 0xd), (0x20, 0x20), (0x85, 0x85), (0xa0, 0xa0), (0x1680, 0x1680), (0x2000, 0x200a),
    (0x2028, 0x2029), (0x202f, 0x202f), (0x205f, 0x205f), (0x3000, 0x3000)]

def isWhiteSpace (c : CodePoint) : Bool := c.within whiteSpaceRanges

/-- White space or an information separator. -/
def isBlank (c : CodePoint) : Bool := c.isWhiteSpace || c.within [(0x1c, 0x1f)]

theorem isBlank_of_isWhiteSpace {c : CodePoint} (h : c.isWhiteSpace = true) : c.isBlank = true := by
  simp [isBlank, h]

end SubscriptionClient.CodePoint

namespace SubscriptionClient.Text

def strip (t : Text) : Text := t.trim CodePoint.isBlank

end SubscriptionClient.Text
