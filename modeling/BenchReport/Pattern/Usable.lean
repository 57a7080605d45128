import BenchReport.Pattern.Reader

/-!
# Usable regular expressions

Patterns are matched without tables of characters and against encoded text.  So a pattern
over code points cannot fold letters nor use digits, blanks and words, and a pattern over
bytes cannot mean a byte beyond the first 128 code points.

## Main definitions

* `Pattern.Mode` — the flags that matter.
* `CharSet.usable`, `Pattern.check` — a set and a pattern that can be used.
* `Pattern.isUsable` — the text is a pattern that can be used.
-/

namespace BenchReport

/-- The flags that decide what can be used. -/
structure Pattern.Mode where
  /-- Capital and small letters are the same. -/
  ignoreCase : Bool
  /-- Characters are code points and not bytes. -/
  unicode : Bool
  deriving DecidableEq

namespace Pattern.Mode

/-- The flags at the beginning of a pattern. -/
def initial : Mode := ⟨false, true⟩

/-- The flags after a change. -/
def after (m : Mode) (change : FlagChange) : Mode where
  ignoreCase := (change.lookup .ignoreCase).getD m.ignoreCase
  unicode := (change.lookup .unicode).getD m.unicode

end Pattern.Mode

/-- The character is among the first 128 code points. -/
def Literal.isAscii (l : Literal) : Bool := l.char.toNat < 0x80

/-- A character outside of brackets can be used: over bytes it must not be a byte beyond
the first 128 code points. -/
def Literal.usable (m : Pattern.Mode) (l : Literal) : Bool :=
  if m.unicode then !m.ignoreCase else l.isAscii || !l.fromByte

namespace CharSet

/-- A character in brackets can be used. -/
def usableLiteral (m : Pattern.Mode) (l : Literal) : Bool :=
  if m.unicode then !m.ignoreCase else l.isAscii

mutual

/-- A set can be used. -/
def usable (m : Pattern.Mode) : CharSet → Bool
  | nothing => true
  | literal l => usableLiteral m l
  | range first last => usableLiteral m first && usableLiteral m last
  | named negated => if m.unicode then !m.ignoreCase else !negated
  | shorthand negated => !m.unicode && !negated
  | bracketed negated inside => (m.unicode || !negated) && inside.usable m
  | union sets => allUsable m sets
  | operation left right => left.usable m && right.usable m

/-- All sets can be used. -/
def allUsable (m : Pattern.Mode) : List CharSet → Bool
  | [] => true
  | s :: rest => s.usable m && allUsable m rest

end

end CharSet

namespace Pattern

mutual

/-- The flags behind a pattern, if it can be used.  Changes of flags end with the group in
which they stand. -/
def check (m : Mode) : Pattern → Option Mode
  | empty => some m
  | flags change => some (m.after change)
  | literal l => if l.usable m then some m else none
  | dot => if m.unicode then some m else none
  | anchor => some m
  | wordBoundary => if m.unicode then none else some m
  | set s => if s.usable m then some m else none
  | repetition p => p.check m
  | group change p => (p.check (m.after change)).map fun _ => m
  | concat ps => checkAll m ps
  | alternation ps => checkAll m ps

/-- The flags behind patterns one after the other, if they can be used. -/
def checkAll (m : Mode) : List Pattern → Option Mode
  | [] => some m
  | p :: rest => (p.check m).bind fun m => checkAll m rest

end

/-- How deeply a pattern may be nested. -/
def maxDepth : Nat := 250

/-- The pattern can be used. -/
def isSupported (p : Pattern) : Bool := p.depth ≤ maxDepth && (p.check .initial).isSome

/-- The text is a pattern that can be used. -/
def isUsable (text : List Char) : Bool := (parse? text).any isSupported

end Pattern

end BenchReport
