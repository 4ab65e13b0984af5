import ApiOutline.Text.Run

/-!
# White space

The white space of the Unicode standard, and texts without it at their ends.
-/

namespace ApiOutline.Text

/-- The code points with the property `White_Space`. -/
def blankRuns : List Run :=
  [⟨0x9, 0xd, 1⟩, ⟨0x20, 0x20, 1⟩, ⟨0x85, 0x85, 1⟩, ⟨0xa0, 0xa0, 1⟩, ⟨0x1680, 0x1680, 1⟩,
   ⟨0x2000, 0x200a, 1⟩, ⟨0x2028, 0x2029, 1⟩, ⟨0x202f, 0x202f, 1⟩, ⟨0x205f, 0x205f, 1⟩,
   ⟨0x3000, 0x3000, 1⟩]

/-- Whether `c` is white space. -/
def isBlank (c : Char) : Bool :=
  memRuns blankRuns c

/-- `s` without the white space at its two ends. -/
def trimChars (s : List Char) : List Char :=
  ((s.dropWhile isBlank).reverse.dropWhile isBlank).reverse

/-- `s` without the white space at its two ends. -/
def trim (s : String) : String :=
  String.ofList (trimChars s.toList)

end ApiOutline.Text
