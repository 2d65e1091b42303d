namespace ApiPages.Text

-- A code point is in the set when one of the ranges holds it.
def inRanges (ranges : List (Nat × Nat)) (code : Nat) : Bool :=
  ranges.any fun (first, last) => first ≤ code && code ≤ last

end ApiPages.Text
