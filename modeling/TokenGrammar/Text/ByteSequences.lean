/-!
# Sequences of byte ranges

The characters of a range are encoded as texts of one to four bytes. A range falls apart into
stretches in which every byte runs over a range of its own, whatever the other bytes are; each
stretch is given by its ranges of bytes, from the first byte to the last.
-/

namespace TokenGrammar.Text

abbrev ByteRange := Nat × Nat

def bytesOf (c : Char) : List Nat := (String.utf8EncodeChar c).map (·.toNat)

/-- The largest code points with one, two and three bytes. -/
def lastOfLength : List Nat := [0x7f, 0x7ff, 0xffff]

/-- The code points that agree in all but the last one, two or three bytes: how many there are. -/
def blockSizes : List Nat := [0x40, 0x1000, 0x40000]

/-- The last code point of the part that is split off a range, if the range has no fixed length or
begins or ends within a block that it leaves. -/
def splitPoint? (first last : Nat) : Option Nat :=
  match lastOfLength.find? fun limit => first ≤ limit && limit < last with
  | some limit => some limit
  | none =>
      if last ≤ 0x7f then none
      else blockSizes.findSome? fun size =>
        if first / size = last / size then none
        else if first % size ≠ 0 then some (first / size * size + size - 1)
        else if last % size ≠ size - 1 then some (last / size * size - 1)
        else none

/-- The stretches of a range of code points, in order. Surrogates are left out. -/
def byteSequences (first last : Nat) : List (List ByteRange) :=
  if last < first then []
  else if first < 0xe000 ∧ 0xd7ff < last then
    byteSequences first 0xd7ff ++ byteSequences 0xe000 last
  else
    match splitPoint? first last with
    | some point =>
        if first ≤ point ∧ point < last then
          byteSequences first point ++ byteSequences (point + 1) last
        else []
    | none => [(bytesOf (Char.ofNat first)).zip (bytesOf (Char.ofNat last))]
termination_by last + 1 - first

end TokenGrammar.Text
