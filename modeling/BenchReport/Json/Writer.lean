import BenchReport.Json.Token

/-!
# Writing JSON texts

A value has one sequence of tokens.  The compact form is these tokens without anything
between them; the pretty form puts every item and field on a line of its own.

## Main definitions

* `Json.tokens` — the tokens of a value.
* `Json.compact`, `Json.pretty` — the two texts.
-/

namespace BenchReport.Json

mutual

/-- The tokens of a value. -/
def tokens : Json → List Token
  | .scalar s => [.scalar s]
  | .array items => .beginArray :: (itemTokens items ++ [.endArray])
  | .object fields => .beginObject :: (fieldTokens fields ++ [.endObject])

/-- The tokens of the items of an array. -/
def itemTokens : List Json → List Token
  | [] => []
  | [v] => v.tokens
  | v :: w :: rest => v.tokens ++ .comma :: itemTokens (w :: rest)

/-- The tokens of the fields of an object. -/
def fieldTokens : List (String × Json) → List Token
  | [] => []
  | [(k, v)] => .scalar (.string k) :: .colon :: v.tokens
  | (k, v) :: f :: rest =>
      .scalar (.string k) :: .colon :: (v.tokens ++ .comma :: fieldTokens (f :: rest))

end

/-- The text without any white space. -/
def compactChars (v : Json) : List Char := v.tokens.flatMap Token.chars

/-- The text without any white space. -/
def compact (v : Json) : String := String.ofList v.compactChars

/-- The start of a line that is indented by a number of steps of two spaces. -/
def newLine (depth : Nat) : List Char := '\n' :: List.replicate (2 * depth) ' '

mutual

/-- The text with every item and field on a line of its own, inside `depth` containers. -/
def prettyChars (depth : Nat) : Json → List Char
  | .scalar s => (Token.scalar s).chars
  | .array [] => ['[', ']']
  | .array (v :: rest) =>
      '[' :: (prettyItems (depth + 1) (v :: rest) ++ newLine depth ++ [']'])
  | .object [] => ['\x7b', '\x7d']
  | .object (f :: rest) =>
      '\x7b' :: (prettyFields (depth + 1) (f :: rest) ++ newLine depth ++ ['\x7d'])

/-- The lines of the items of an array. -/
def prettyItems (depth : Nat) : List Json → List Char
  | [] => []
  | [v] => newLine depth ++ prettyChars depth v
  | v :: w :: rest => newLine depth ++ prettyChars depth v ++ ',' :: prettyItems depth (w :: rest)

/-- The lines of the fields of an object. -/
def prettyFields (depth : Nat) : List (String × Json) → List Char
  | [] => []
  | [(k, v)] => newLine depth ++ Token.quote k ++ ':' :: ' ' :: prettyChars depth v
  | (k, v) :: f :: rest =>
      newLine depth ++ Token.quote k ++ ':' :: ' ' :: prettyChars depth v ++
        ',' :: prettyFields depth (f :: rest)

end

/-- The text with every item and field on a line of its own. -/
def pretty (v : Json) : String := String.ofList (v.prettyChars 0)

end BenchReport.Json
