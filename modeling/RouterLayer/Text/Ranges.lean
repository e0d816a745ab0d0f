import RouterLayer.Text.Basic

set_option autoImplicit false

namespace RouterLayer.Text

def inRanges (table : List (Nat × Nat)) (c : CodePoint) : Bool :=
  table.any fun r => r.1 ≤ c.code && c.code ≤ r.2

end RouterLayer.Text
