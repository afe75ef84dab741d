/-
  Blanks, words and lines.

  `isBlank` is the class of white space characters, `isLineEnd` the class of
  characters that end a line. `trim` removes blanks at both ends, `words` cuts a
  text into its runs of other characters, and `lines` cuts it at line ends, a
  carriage return with the line feed after it counting as one.
-/

namespace PacketFilter.Text

/-- White space: the ASCII blanks and separators, and the spaces and
separators beyond ASCII. -/
def isBlank (c : Char) : Bool :=
  let n := c.toNat
  (0x09 ≤ n && n ≤ 0x0d) || (0x1c ≤ n && n ≤ 0x20) || n == 0x85 || n == 0xa0 || n == 0x1680 ||
    (0x2000 ≤ n && n ≤ 0x200a) || n == 0x2028 || n == 0x2029 || n == 0x202f || n == 0x205f ||
    n == 0x3000

/-- Characters that end a line. -/
def isLineEnd (c : Char) : Bool :=
  let n := c.toNat
  (0x0a ≤ n && n ≤ 0x0d) || (0x1c ≤ n && n ≤ 0x1e) || n == 0x85 || n == 0x2028 || n == 0x2029

/-- The text without the characters of a class at its end. -/
def trimEndWhere (p : Char → Bool) (cs : List Char) : List Char :=
  (cs.reverse.dropWhile p).reverse

/-- The text without the characters of a class at either end. -/
def trimWhere (p : Char → Bool) (cs : List Char) : List Char :=
  trimEndWhere p (cs.dropWhile p)

/-- The text without blanks at either end. -/
def trim (cs : List Char) : List Char := trimWhere isBlank cs

/-- Puts a character in front of the first part. -/
def consHead (c : Char) : List (List Char) → List (List Char)
  | [] => [[c]]
  | part :: parts => (c :: part) :: parts

/-- The parts of a text between characters of a class; there is always at least
one. -/
def splitWhere (p : Char → Bool) : List Char → List (List Char)
  | [] => [[]]
  | c :: rest => if p c then [] :: splitWhere p rest else consHead c (splitWhere p rest)

/-- The parts of a text between occurrences of `mark`. -/
def splitAt (mark : Char) (cs : List Char) : List (List Char) := splitWhere (· == mark) cs

/-- The longest runs of characters that are not blank. -/
def words (cs : List Char) : List (List Char) :=
  (splitWhere isBlank cs).filter (fun word => !word.isEmpty)

/-- The lines of a text, without their ends. A line end at the very end opens no
further line. -/
def lines : List Char → List (List Char)
  | [] => []
  | '\r' :: '\n' :: rest => [] :: lines rest
  | c :: rest => if isLineEnd c then [] :: lines rest else consHead c (lines rest)

end PacketFilter.Text
