/-! # Ranges of code points

A character class of the Unicode standard is kept as the closed ranges of code
points that make it up, in increasing order.
-/

namespace PageTemplates.Text

/-- Closed ranges of code points, in increasing order. -/
abbrev Ranges := List (Nat × Nat)

namespace Ranges

/-- Whether some range holds `code`. Ranges are in increasing order, so the search
ends at the first range that begins after `code`. -/
def contains : Ranges → Nat → Bool
  | [], _ => false
  | (low, high) :: rest, code =>
      if code < low then false
      else if code ≤ high then true
      else contains rest code

example : contains [(0x30, 0x39), (0x41, 0x5A)] 0x39 = true := rfl

example : contains [(0x30, 0x39), (0x41, 0x5A)] 0x3A = false := rfl

end Ranges

end PageTemplates.Text
