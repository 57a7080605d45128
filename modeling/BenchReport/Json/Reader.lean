import BenchReport.Json.Token

/-!
# Reading JSON texts

A text is read token by token.  The reader keeps the containers that are still open and
what may come next, so each token is one step.

## Main definitions

* `Json.Frame`, `Json.Progress` — an open container, and how far a text has been read.
* `Json.Progress.step` — what one token does.
* `Json.parse?` — the value of a text.
-/

namespace BenchReport.Json

/-- A container that is still open around the value being read. -/
inductive Frame where
  /-- The items so far, the last one first. -/
  | array (items : List Json)
  /-- The fields so far, and the key of the value being read. -/
  | object (fields : List (String × Json)) (key : String)

/-- How far a text has been read, with the containers open around that place, the
innermost first. -/
inductive Progress where
  /-- A value must follow. -/
  | value (stack : List Frame)
  /-- An array has been opened: its first item or its end must follow. -/
  | firstItem (stack : List Frame)
  /-- An object has been opened: its first key or its end must follow. -/
  | firstKey (stack : List Frame)
  /-- A field is complete and another is announced: its key must follow. -/
  | nextKey (fields : List (String × Json)) (stack : List Frame)
  /-- A key has been read: the colon must follow. -/
  | afterKey (fields : List (String × Json)) (key : String) (stack : List Frame)
  /-- A value is complete. -/
  | complete (value : Json) (stack : List Frame)

/-- How many containers may be open at once. -/
def maxDepth : Nat := 127

namespace Progress

/-- Begins a value inside the open containers. -/
def begin? (stack : List Frame) : Token → Option Progress
  | .scalar s => some (.complete (.scalar s) stack)
  | .beginArray => if stack.length < maxDepth then some (.firstItem stack) else none
  | .beginObject => if stack.length < maxDepth then some (.firstKey stack) else none
  | _ => none

/-- Takes one token; none when it may not stand here. -/
def step : Progress → Token → Option Progress
  | .value stack, t => begin? stack t
  | .firstItem stack, .endArray => some (.complete (.array []) stack)
  | .firstItem stack, t => begin? (.array [] :: stack) t
  | .firstKey stack, .endObject => some (.complete (.object []) stack)
  | .firstKey stack, .scalar (.string key) => some (.afterKey [] key stack)
  | .nextKey fields stack, .scalar (.string key) => some (.afterKey fields key stack)
  | .afterKey fields key stack, .colon => some (.value (.object fields key :: stack))
  | .complete v (.array items :: stack), .comma => some (.value (.array (v :: items) :: stack))
  | .complete v (.array items :: stack), .endArray =>
      some (.complete (.array (v :: items).reverse) stack)
  | .complete v (.object fields key :: stack), .comma =>
      some (.nextKey (putField key v fields) stack)
  | .complete v (.object fields key :: stack), .endObject =>
      some (.complete (.object (putField key v fields)) stack)
  | _, _ => none

/-- The value, when the text may end here. -/
def result? : Progress → Option Json
  | .complete v [] => some v
  | _ => none

end Progress

/-- The value of a sequence of tokens. -/
def ofTokens? (tokens : List Token) : Option Json :=
  (tokens.foldlM Progress.step (.value [])).bind Progress.result?

/-- The value of a text; none when the text is not one JSON value, is nested too deeply,
or holds a number that is too large. -/
def parseChars? (text : List Char) : Option Json := (Token.scan? text).bind ofTokens?

/-- The value of a text. -/
def parse? (text : String) : Option Json := parseChars? text.toList

end BenchReport.Json
