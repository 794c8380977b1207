/-!
# Blank characters

The characters that count as white space throughout the library, `isBlank`, and the three things
done with them: trimming both ends of a text, `trim`, dropping them from it, `dropBlanks`, and
cutting it into words, `words`.
-/

namespace SealedPage.Text

/-- The white space characters of Unicode, with the four information separators. -/
def isBlank (c : Char) : Bool :=
  let n := c.toNat
  (0x09 ≤ n && n ≤ 0x0D) || (0x1C ≤ n && n ≤ 0x20) || n == 0x85 || n == 0xA0 || n == 0x1680 ||
  (0x2000 ≤ n && n ≤ 0x200A) || n == 0x2028 || n == 0x2029 || n == 0x202F || n == 0x205F ||
  n == 0x3000

/-- The text without the blanks at its two ends. -/
def trim (s : List Char) : List Char :=
  ((s.dropWhile isBlank).reverse.dropWhile isBlank).reverse

/-- The text without any blank. -/
def dropBlanks (s : List Char) : List Char :=
  s.filter fun c => !isBlank c

/-- A word being read, put in front of the words already read unless it is empty. -/
def closeWord (word : List Char) (done : List (List Char)) : List (List Char) :=
  if word.isEmpty then done else word.reverse :: done

/-- The words of a text, given the letters of the current word and the words before it, both in
reverse. -/
def wordsFrom (word : List Char) (done : List (List Char)) : List Char → List (List Char)
  | [] => (closeWord word done).reverse
  | c :: cs =>
    if isBlank c then wordsFrom [] (closeWord word done) cs else wordsFrom (c :: word) done cs

/-- The maximal runs of characters that are not blank, in order. -/
def words (s : List Char) : List (List Char) :=
  wordsFrom [] [] s

end SealedPage.Text
