import ApiOutline.Text.Letter
import ApiOutline.Text.Case

/-!
# Words

A text is cut into words, and words are put together again in camel case.

Letters and numerals are kept and everything else separates.  Between two neighbours a word also
ends where `edge` holds: before a capital that follows a small letter or a numeral, before the last
capital of a run of capitals when a small letter comes next, and between a letter and a numeral.

* `words`: the words of a text, in order.
* `camelCase`: the first word in lower case, the others capitalized, with nothing between them.
-/

namespace ApiOutline.Naming

open Text

/-- Whether `c` belongs to a word; every other character separates words. -/
def isWordChar (c : Char) : Bool :=
  isLetter c || isNumeral c

/-- Whether a word ends between the neighbours `a` and `b`, when `next` follows `b`. -/
def edge (a b : Char) (next : Option Char) : Bool :=
  ((isLower a || isNumeral a) && isUpper b)
    || (isUpper a && isUpper b && next.any isLower)
    || (isNumeral a != isNumeral b)

/-- Whether a word that has reached `a` goes on with the text `rest`. -/
def continues (a : Char) : List Char → Bool
  | [] => false
  | b :: rest => isWordChar b && !edge a b (rest.head?.filter isWordChar)

/-- Puts `c` in front of the first of the words `ws`. -/
def extend (c : Char) : List (List Char) → List (List Char)
  | [] => [[c]]
  | w :: ws => (c :: w) :: ws

/-- The words of a text, in order. -/
def words : List Char → List (List Char)
  | [] => []
  | c :: rest =>
    if !isWordChar c then words rest
    else if continues c rest then extend c (words rest)
    else [c] :: words rest

/-- Words in camel case: the first in lower case, the others capitalized. -/
def joinCamel : List (List Char) → List Char
  | [] => []
  | w :: ws => lowercase w ++ ws.flatMap fun w => capitalize (lowercase w)

/-- The text `s` in camel case. -/
def camelCase (s : String) : String :=
  String.ofList (joinCamel (words s.toList))

/-- The text `s` with its first character in upper case. -/
def capitalizeFirst (s : String) : String :=
  String.ofList (capitalize s.toList)

/-! ## Equations -/

@[simp] theorem words_nil : words [] = [] := rfl

theorem words_cons (c : Char) (rest : List Char) :
    words (c :: rest) =
      if !isWordChar c then words rest
      else if continues c rest then extend c (words rest)
      else [c] :: words rest := rfl

end ApiOutline.Naming
