/-!
# Stretches of texts

A text is cut at every place where a character stands.  The stretches between these places are its
parts; there is always one more of them than of such places, and a part may be empty.
-/

namespace ApiOutline.Text

/-- The stretches of a text between the places where `d` stands. -/
def splitOn (d : Char) : List Char → List (List Char)
  | [] => [[]]
  | c :: rest =>
    if c = d then [] :: splitOn d rest
    else
      match splitOn d rest with
      | [] => [[c]]
      | part :: parts => (c :: part) :: parts

theorem splitOn_ne_nil (d : Char) (text : List Char) : splitOn d text ≠ [] := by
  cases text with
  | nil => simp [splitOn]
  | cons c rest =>
    rw [splitOn]
    split
    · simp
    · split <;> simp

end ApiOutline.Text
