import ReadNotify.Text.Combining
import ReadNotify.Text.Unseen
/-!
# Characters That Show

Which characters a quoted text leaves as they are. A character is shown by an
escape instead when nobody could see it, and so is a mark that would attach
itself to the character before it, since it would otherwise land on the
opening quote.

## Main definitions

* `inRanges`: Whether a table of ranges holds a code point.
* `isShown`: The characters that are neither unseen nor combining.
-/

namespace ReadNotify

/-- Whether one of the ranges holds a code point. -/
def inRanges (ranges : List (Nat × Nat)) (code : Nat) : Bool :=
  ranges.any fun r => r.1 ≤ code && code ≤ r.2

/-- Whether a character is written as itself inside quotes, quotes and the
    backslash aside. -/
def isShown (c : Char) : Bool :=
  if c.toNat < 128 then 32 ≤ c.toNat && c.toNat < 127
  else
    !inRanges glyphlessRanges c.toNat && !inRanges fillerRanges c.toNat &&
      !inRanges combiningRanges c.toNat

end ReadNotify
