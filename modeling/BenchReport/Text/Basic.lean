/-!
# Texts

White space and other sets of characters, and what can be done with any text: trimming it,
splitting it, cutting it by bytes, and filling it up with blanks.

## Main definitions

* `inRanges` — a character lies in one of some ranges of code points.
* `isBlank`, `trim` — white space, and a text without it at its ends.
* `split separator text` — the stretches of a text between separators, at least one.
* `byteSize` — the size of a text.
* `dropBytes?`, `takeBytes?`, `slice?` — what stands behind, before and between places.
* `padRight`, `padLeft` — blanks after and before a text.
-/

namespace BenchReport.Text

/-! ### White space

A property of characters is a list of closed ranges of code points, in ascending order. -/

/-- The character lies in one of the closed ranges. -/
def inRanges (ranges : List (Nat × Nat)) (c : Char) : Bool :=
  ranges.any fun range => range.1 ≤ c.toNat && c.toNat ≤ range.2

/-- The code points with the property White_Space, as closed ranges in ascending order. -/
def blankRanges : List (Nat × Nat) :=
  [(0x09, 0x0D), (0x20, 0x20), (0x85, 0x85), (0xA0, 0xA0), (0x1680, 0x1680),
   (0x2000, 0x200A), (0x2028, 0x2029), (0x202F, 0x202F), (0x205F, 0x205F), (0x3000, 0x3000)]

/-- The character is white space. -/
def isBlank (c : Char) : Bool := inRanges blankRanges c

/-- The text without the white space at its ends. -/
def trim (text : List Char) : List Char :=
  ((text.dropWhile isBlank).reverse.dropWhile isBlank).reverse

/-! ### Splitting -/

/-- The stretches of a text between separators; neighbouring separators have an empty
stretch between them. -/
def split (separator : Char) : List Char → List (List Char)
  | [] => [[]]
  | c :: rest =>
      if c = separator then [] :: split separator rest
      else
        match split separator rest with
        | [] => [[c]]
        | first :: others => (c :: first) :: others

theorem split_ne_nil (separator : Char) (text : List Char) : split separator text ≠ [] := by
  cases text with
  | nil => simp [split]
  | cons c rest =>
    simp only [split]
    split
    · simp
    · split <;> simp

/-! ### Cutting

Places in a text are counted in bytes of its encoded form. -/

/-- The size of a text in bytes. -/
def byteSize (text : List Char) : Nat := text.foldr (fun c size => c.utf8Size + size) 0

/-- What stands behind a place; none when the place is inside a character or too far. -/
def dropBytes? : Nat → List Char → Option (List Char)
  | 0, text => some text
  | _ + 1, [] => none
  | n + 1, c :: rest =>
      if c.utf8Size ≤ n + 1 then dropBytes? (n + 1 - c.utf8Size) rest else none

/-- What stands before a place; none when the place is inside a character or too far. -/
def takeBytes? : Nat → List Char → Option (List Char)
  | 0, _ => some []
  | _ + 1, [] => none
  | n + 1, c :: rest =>
      if c.utf8Size ≤ n + 1 then (takeBytes? (n + 1 - c.utf8Size) rest).map (c :: ·) else none

/-- What stands between two places. -/
def slice? (text : List Char) (start stop : Nat) : Option (List Char) :=
  (dropBytes? start text).bind (takeBytes? (stop - start))

/-! ### Filling up

Widths count characters; a longer text stays as it is. -/

/-- Blanks that fill a text up to a width. -/
def filling (width : Nat) (text : String) : String :=
  String.ofList (List.replicate (width - text.length) ' ')

/-- A text with blanks after it up to a width. -/
def padRight (width : Nat) (text : String) : String := text ++ filling width text

/-- A text with blanks before it up to a width. -/
def padLeft (width : Nat) (text : String) : String := filling width text ++ text

end BenchReport.Text
