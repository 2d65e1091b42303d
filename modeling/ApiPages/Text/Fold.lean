import ApiPages.Text.Lower

namespace ApiPages.Text

-- Lower-case letters that differ although their capitals are the same.
def caseTwins : List (List Nat) := [
  [0x69, 0x131], [0x73, 0x17f], [0xb5, 0x3bc], [0x345, 0x3b9, 0x1fbe], [0x390, 0x1fd3],
  [0x3b0, 0x1fe3], [0x3b2, 0x3d0], [0x3b5, 0x3f5], [0x3b8, 0x3d1], [0x3ba, 0x3f0], [0x3c0, 0x3d6],
  [0x3c1, 0x3f1], [0x3c2, 0x3c3], [0x3c6, 0x3d5], [0x432, 0x1c80], [0x434, 0x1c81], [0x43e, 0x1c82],
  [0x441, 0x1c83], [0x442, 0x1c84, 0x1c85], [0x44a, 0x1c86], [0x463, 0x1c87], [0x1c88, 0xa64b],
  [0x1e61, 0x1e9b], [0xfb05, 0xfb06]]

-- The code point that a run lowers to this one.
def CaseRun.upper? (run : CaseRun) (code : Nat) : Option Nat :=
  let upper := run.first + (code - run.target)
  if run.target ≤ code ∧ run.lower? upper = some code then some upper else none

-- The lower-case form of a code point as one code point; the dotted capital I loses its dot.
def lowerCode (code : Nat) : Nat :=
  if code = 0x130 then 0x69 else (caseRuns.findSome? (·.lower? code)).getD code

def upperCodes (code : Nat) : List Nat :=
  (if code = 0x69 then [0x130] else []) ++ caseRuns.filterMap (·.upper? code)

-- The code points that differ from this one in case alone, with the code point itself.
def caseVariants (code : Nat) : List Nat :=
  let lower := lowerCode code
  let twins := (caseTwins.find? (·.contains lower)).getD [lower]
  twins ++ twins.flatMap upperCodes

end ApiPages.Text
