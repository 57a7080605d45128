/-!
# Regular expressions

Values of fields can be compared with regular expressions.  Here they are trees: nothing
is matched, but whether a text is a regular expression that can be used depends on how
deeply it is nested and on the flags in force at each of its parts.

## Main definitions

* `Flag`, `FlagChange` — how characters are compared, and what a pattern changes of it.
* `CharSet` — what stands in brackets.
* `Pattern` — the trees.
* `CharSet.depth`, `Pattern.depth` — how deeply they are nested.
-/

namespace BenchReport

/-- A way of reading a pattern that can be in force or not. -/
inductive Flag where
  /-- Capital and small letters are the same. -/
  | ignoreCase
  /-- Lines have ends of their own. -/
  | multiLine
  /-- The dot stands for the end of a line too. -/
  | dotAll
  /-- Repetitions are short unless they are marked. -/
  | swapGreed
  /-- Characters are code points and not bytes. -/
  | unicode
  /-- A line may end in two characters. -/
  | crlf
  /-- White space and comments mean nothing. -/
  | verbose
  deriving DecidableEq

/-- The letter of a flag. -/
def Flag.ofChar? : Char → Option Flag
  | 'i' => some .ignoreCase
  | 'm' => some .multiLine
  | 's' => some .dotAll
  | 'U' => some .swapGreed
  | 'u' => some .unicode
  | 'R' => some .crlf
  | 'x' => some .verbose
  | _ => none

/-- Flags that come into force, or go out of it. -/
abbrev FlagChange := List (Flag × Bool)

/-- A character that stands for itself. -/
structure Literal where
  /-- The character. -/
  char : Char
  /-- It is written with two hexadecimal digits, which may mean a byte. -/
  fromByte : Bool
  deriving DecidableEq

/-- What stands in brackets. -/
inductive CharSet where
  /-- No character. -/
  | nothing
  /-- One character. -/
  | literal (l : Literal)
  /-- The characters from one to another. -/
  | range (first last : Literal)
  /-- Some of the first 128 code points, which have a name, or all others. -/
  | named (negated : Bool)
  /-- Digits, blanks or parts of words, which have a letter, or all others. -/
  | shorthand (negated : Bool)
  /-- Brackets. -/
  | bracketed (negated : Bool) (inside : CharSet)
  /-- Several sets together. -/
  | union (sets : List CharSet)
  /-- What two sets have in common, or not in common. -/
  | operation (left right : CharSet)

/-- A regular expression. -/
inductive Pattern where
  /-- The empty text. -/
  | empty
  /-- The empty text; some flags change up to the end of the group around. -/
  | flags (change : FlagChange)
  /-- A character. -/
  | literal (l : Literal)
  /-- Any character. -/
  | dot
  /-- An end of a line or of the text. -/
  | anchor
  /-- The end of a word, or another place. -/
  | wordBoundary
  /-- A character of a set. -/
  | set (s : CharSet)
  /-- A repetition. -/
  | repetition (p : Pattern)
  /-- A group in which some flags change. -/
  | group (change : FlagChange) (p : Pattern)
  /-- One after the other. -/
  | concat (ps : List Pattern)
  /-- One of several. -/
  | alternation (ps : List Pattern)

namespace CharSet

/-- Several sets as one. -/
def ofList : List CharSet → CharSet
  | [] => nothing
  | [s] => s
  | sets => union sets

mutual

/-- How deeply a set is nested. -/
def depth : CharSet → Nat
  | nothing | literal _ | range .. | named _ | shorthand _ => 0
  | bracketed _ inside => inside.depth + 1
  | union sets => depthOfAll sets + 1
  | operation left right => max left.depth right.depth + 1

/-- How deeply the deepest set is nested. -/
def depthOfAll : List CharSet → Nat
  | [] => 0
  | s :: rest => max s.depth (depthOfAll rest)

end

end CharSet

namespace Pattern

/-- Several patterns one after the other. -/
def ofList : List Pattern → Pattern
  | [] => empty
  | [p] => p
  | ps => concat ps

mutual

/-- How deeply a pattern is nested. -/
def depth : Pattern → Nat
  | empty | flags _ | literal _ | dot | anchor | wordBoundary => 0
  | set s => s.depth
  | repetition p => p.depth + 1
  | group _ p => p.depth + 1
  | concat ps => depthOfAll ps + 1
  | alternation ps => depthOfAll ps + 1

/-- How deeply the deepest pattern is nested. -/
def depthOfAll : List Pattern → Nat
  | [] => 0
  | p :: rest => max p.depth (depthOfAll rest)

end

end Pattern

end BenchReport
