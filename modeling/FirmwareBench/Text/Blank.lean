set_option autoImplicit false

/-!
# Blanks and words

The blank characters are those with the Unicode property White_Space. A text falls into its words,
the maximal runs of characters that are not blank; joining the words by one space each is the
normal form of the text.

## Main definitions

* `isBlank`: the class of blank characters.
* `words`: the words of a text, in order.
* `collapse`: the words of a text joined by single spaces.
* `trim`: a text without the blanks at its two ends.
-/

namespace FirmwareBench.Text

/-- The characters with the Unicode property White_Space. -/
def isBlank (c : Char) : Bool :=
  let n := c.toNat
  (9 ≤ n && n ≤ 13) || n == 0x20 || n == 0x85 || n == 0xA0 || n == 0x1680 ||
    (0x2000 ≤ n && n ≤ 0x200A) || n == 0x2028 || n == 0x2029 || n == 0x202F || n == 0x205F ||
    n == 0x3000

/-- A finished word put in front of later words; an empty run is no word. -/
def consWord (word : List Char) (later : List (List Char)) : List (List Char) :=
  if word.isEmpty then later else word :: later

/-- The run of non-blanks at the front of a text, and the words after that run. -/
def leadingWord : List Char → List Char × List (List Char)
  | [] => ([], [])
  | c :: rest =>
    let (word, later) := leadingWord rest
    if isBlank c then ([], consWord word later) else (c :: word, later)

/-- The maximal runs of non-blank characters of a text, in order. -/
def words (text : List Char) : List (List Char) :=
  consWord (leadingWord text).1 (leadingWord text).2

/-- The words of a text joined by one space each. -/
def collapse (text : List Char) : List Char :=
  [' '].intercalate (words text)

/-- A text without the blanks at its two ends. -/
def trim (text : List Char) : List Char :=
  ((text.dropWhile isBlank).reverse.dropWhile isBlank).reverse

/-! ## Small laws -/

@[simp] theorem words_nil : words [] = [] := rfl

theorem words_cons_of_isBlank {c : Char} {text : List Char} (h : isBlank c = true) :
    words (c :: text) = words text := by
  simp [words, leadingWord, h, consWord]

end FirmwareBench.Text
