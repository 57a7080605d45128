/-!
# Markup

A page is a list of pieces.  Markup, and words of a fixed kind such as names of classes and
numbers, are written as they are; texts are written with every character that markup gives a
meaning replaced.  So a text cannot open or close a tag, nor end the value of an attribute.

## Main definitions

* `Markup.escapeChar`, `Markup.escape` — text without characters that mean something.
* `Markup.Piece`, `Markup.render` — the pieces of a page and the page.
-/

namespace BenchReport.Markup

/-- A character as text of a page: the five characters that have a meaning are named. -/
def escapeChar : Char → List Char
  | '&' => ['&', 'a', 'm', 'p', ';']
  | '<' => ['&', 'l', 't', ';']
  | '>' => ['&', 'g', 't', ';']
  | '"' => ['&', 'q', 'u', 'o', 't', ';']
  | '\'' => ['&', '#', '3', '9', ';']
  | c => [c]

/-- A text as text of a page. -/
def escape (text : List Char) : List Char := text.flatMap escapeChar

@[simp] theorem escape_nil : escape [] = [] := rfl

@[simp] theorem escape_append (s t : List Char) : escape (s ++ t) = escape s ++ escape t :=
  List.flatMap_append

/-- A text as text of a page. -/
def escapeText (text : String) : String := String.ofList (escape text.toList)

/-- A piece of a page. -/
inductive Piece where
  /-- Markup, written as it is. -/
  | markup (source : String)
  /-- A word of a fixed kind, written as it is. -/
  | word (content : String)
  /-- Text, written so that it means nothing else. -/
  | text (content : String)

/-- The characters of a piece. -/
def Piece.chars : Piece → List Char
  | .markup source => source.toList
  | .word content => content.toList
  | .text content => escape content.toList

/-- The characters of a list of pieces. -/
def render (pieces : List Piece) : List Char := pieces.flatMap Piece.chars

@[simp] theorem render_nil : render [] = [] := rfl

@[simp] theorem render_append (p q : List Piece) : render (p ++ q) = render p ++ render q :=
  List.flatMap_append

end BenchReport.Markup
