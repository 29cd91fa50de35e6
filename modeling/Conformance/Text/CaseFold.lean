import Conformance.Text.CodePoint
import Conformance.Text.LowerCase

/-!
# Letter case that does not count

Two characters are variants of each other when they differ in letter case only. Besides the pairs of
a capital and its small letter there are small letters that share one capital.
-/

namespace Conformance.Text

/-- The small letters that share a capital. -/
def sharedCapitals : List (List Nat) :=
  [[0x0069, 0x0131], [0x0073, 0x017f], [0x00b5, 0x03bc], [0x0345, 0x03b9, 0x1fbe],
   [0x0390, 0x1fd3], [0x03b0, 0x1fe3], [0x03b2, 0x03d0], [0x03b5, 0x03f5], [0x03b8, 0x03d1],
   [0x03ba, 0x03f0], [0x03c0, 0x03d6], [0x03c1, 0x03f1], [0x03c2, 0x03c3], [0x03c6, 0x03d5],
   [0x0432, 0x1c80], [0x0434, 0x1c81], [0x043e, 0x1c82], [0x0441, 0x1c83],
   [0x0442, 0x1c84, 0x1c85], [0x044a, 0x1c86], [0x0463, 0x1c87], [0x1c88, 0xa64b],
   [0x1e61, 0x1e9b], [0xfb05, 0xfb06]]

def smallLetter (c : Char) : Char := if c == 'İ' then 'i' else lowerChar c

/-- The code points whose small letter is the given one, itself apart. -/
def capitalsOf (n : Nat) : List Nat :=
  let found := caseRuns.filterMap fun run =>
    let capital : Int := n - run.shift
    if run.first ≤ capital && capital ≤ run.last &&
        (capital.toNat - run.first) % run.step == 0 then some capital.toNat
    else none
  if n == 0x69 then 0x130 :: found else found

/-- The code points that differ from a character in letter case only, its own among them. -/
def caseVariants (c : Char) : List Nat :=
  let small := codeOf (smallLetter c)
  let smalls := (sharedCapitals.find? (·.contains small)).getD [small]
  smalls ++ smalls.flatMap capitalsOf

def asciiVariants (c : Char) : List Nat :=
  if c.isAlpha then [c.toLower.toNat, c.toUpper.toNat] else [codeOf c]

end Conformance.Text
