/-!
Texts by their bytes in UTF-8: where the bytes of one text stand in another, and the parts of a text
between positions that are counted in bytes. A position in the middle of a character is no place to
cut a text.
-/

namespace StudyFlow.Text

def bytes (s : String) : List UInt8 := s.toUTF8.data.toList

theorem bytes_eq (s : String) : bytes s = s.toList.flatMap String.utf8EncodeChar := by
  have hencode : s.toUTF8 = (s.toList.flatMap String.utf8EncodeChar).toByteArray :=
    String.utf8Encode_toList.symm
  rw [bytes, hencode, List.data_toByteArray]

/--
Where a reader going from left to right meets the bytes of a pattern. The counters say how many
bytes of the last occurrence are still to be passed over, and at which position the reader is.
-/
def offsetsFrom (pattern : List UInt8) : Nat → Nat → List UInt8 → List Nat
  | _, _, [] => []
  | 0, here, b :: bs =>
    if pattern.isPrefixOf (b :: bs) then
      here :: offsetsFrom pattern (pattern.length - 1) (here + 1) bs
    else offsetsFrom pattern 0 (here + 1) bs
  | n + 1, here, _ :: bs => offsetsFrom pattern n (here + 1) bs

/-- The byte positions at which a pattern stands in a text. Occurrences do not overlap. -/
def offsets (text pattern : String) : List Nat := offsetsFrom (bytes pattern) 0 0 (bytes text)

/-- The part of a text between two byte positions. There is none if one of them is beyond the text
or in the middle of a character, or if they are not in order. -/
def slice? (text : String) (start stop : Nat) : Option String := do
  let first ← text.pos? ⟨start⟩
  let last ← text.pos? ⟨stop⟩
  if first ≤ last then some (text.extract first last) else none

/-- The text from a byte position on, with `by_` in the place of the `width` bytes at each of the
given positions. There is none if some part that is to be kept cannot be cut out. -/
def splice? (text by_ : String) (width : Nat) : Nat → List Nat → Option String
  | last, [] => slice? text last text.utf8ByteSize
  | last, start :: starts => do
    let kept ← slice? text last start
    let rest ← splice? text by_ width (start + width) starts
    return kept ++ by_ ++ rest

end StudyFlow.Text
