set_option autoImplicit false
set_option relaxedAutoImplicit false

namespace StreamRelay.Text

/-- Closed ranges of code points, ascending and apart. -/
abbrev Ranges := List (Nat × Nat)

def Ranges.covers (ranges : Ranges) (n : Nat) : Bool :=
  ranges.any fun range => range.1 ≤ n && n ≤ range.2

end StreamRelay.Text
