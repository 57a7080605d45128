import BenchReport.Json.Token
import BenchReport.Pattern.Basic
import BenchReport.Text.Alphanumeric
import BenchReport.Text.Basic

/-!
# Reading regular expressions

A pattern is read from left to right with the groups that are still open; brackets are
read as a whole.  Every step takes at least one character, so the length of the text
bounds the number of steps.

Counted repetitions are not read: the texts that patterns come from end before a closing
brace.

## Main definitions

* `Pattern.readEscape?` — what a backslash introduces.
* `CharSet.read?` — what stands in brackets.
* `Pattern.Progress`, `Pattern.Progress.step?` — how far a text was read, and one step.
* `Pattern.parse?` — the pattern of a text.
-/

namespace BenchReport

namespace Pattern

/-! ### White space and comments -/

/-- The text behind white space and comments; a comment reaches to the end of its line. -/
def skipSpace (comment : Bool) : List Char → List Char
  | [] => []
  | c :: rest =>
      if comment then skipSpace (c != '\n') rest
      else if c = '#' then skipSpace true rest
      else if Text.isBlank c then skipSpace false rest
      else c :: rest

/-- The text behind what means nothing. -/
def next (verbose : Bool) (text : List Char) : List Char :=
  if verbose then skipSpace false text else text

/-- The character that is looked at to tell what a hyphen means: the one behind white
space, and behind one number sign at most. -/
def glimpse? (verbose : Bool) (text : List Char) : Option Char :=
  if !verbose then text.head?
  else
    match text.dropWhile Text.isBlank with
    | '#' :: rest => (rest.dropWhile Text.isBlank).head?
    | text => text.head?

/-! ### Escapes -/

/-- A character that stands for itself behind a backslash: no letter, no digit and no angle
bracket. -/
def escapesItself (c : Char) : Bool :=
  c.toNat < 0x80 && !c.isAlphanum && c != '<' && c != '>'

/-- The control character of a letter. -/
def control? : Char → Option Char
  | 'a' => some '\x07'
  | 'f' => some '\x0c'
  | 'n' => some '\n'
  | 'r' => some '\r'
  | 't' => some '\t'
  | 'v' => some '\x0b'
  | _ => none

/-- How many hexadecimal digits follow a letter. -/
def hexDigits? : Char → Option Nat
  | 'x' => some 2
  | 'u' => some 4
  | 'U' => some 8
  | _ => none

/-- Reads some hexadecimal digits as a number. -/
def readHex? (verbose : Bool) : Nat → Nat → List Char → Option (Nat × List Char)
  | 0, n, text => some (n, text)
  | count + 1, n, text =>
      match next verbose text with
      | [] => none
      | c :: rest => do readHex? verbose count (n * 16 + (← Token.hexValue? c)) rest

/-- Reads a character by its number. -/
def readNumbered? (verbose : Bool) (digits : Nat) (text : List Char) :
    Option (Pattern × List Char) := do
  let (n, rest) ← readHex? verbose digits 0 text
  if n.isValidChar then some (.literal ⟨Char.ofNat n, digits == 2⟩, rest) else none

/-- What a letter behind a backslash stands for, when it is no character. -/
def ofLetter? : Char → Option Pattern
  | 'd' | 's' | 'w' => some (.set (.shorthand false))
  | 'D' | 'S' | 'W' => some (.set (.shorthand true))
  | 'A' | 'z' => some .anchor
  | 'b' | 'B' | '<' | '>' => some .wordBoundary
  | _ => none

/-- Reads what follows a backslash. -/
def readEscape? (verbose : Bool) : List Char → Option (Pattern × List Char)
  | [] => none
  | c :: rest =>
      match hexDigits? c with
      | some digits => readNumbered? verbose digits rest
      | none =>
          if escapesItself c then some (.literal ⟨c, false⟩, rest)
          else
            match control? c with
            | some control => some (.literal ⟨control, false⟩, rest)
            | none => (ofLetter? c).map fun p => (p, rest)

end Pattern

/-! ### Brackets -/

namespace CharSet

open Pattern

/-- The names of sets of the first 128 code points. -/
def names : List String :=
  ["alnum", "alpha", "ascii", "blank", "cntrl", "digit", "graph", "lower", "print", "punct",
   "space", "upper", "word", "xdigit"]

/-- Reads a named set up to its closing bracket, behind the opening one. -/
def readNamed? : List Char → Option (CharSet × List Char)
  | ':' :: text =>
      let (negated, text) := match text with
        | '^' :: rest => (true, rest)
        | _ => (false, text)
      match text.dropWhile (· != ':') with
      | ':' :: ']' :: rest =>
          if String.ofList (text.takeWhile (· != ':')) ∈ names then some (named negated, rest)
          else none
      | _ => none
  | _ => none

/-- Reads a character, or an escape. -/
def readItem? (verbose : Bool) : List Char → Option (Pattern × List Char)
  | [] => none
  | '\\' :: rest => readEscape? verbose rest
  | c :: rest => some (.literal ⟨c, false⟩, rest)

/-- The set of an item; an end of a line or word is none. -/
def ofItem? : Pattern → Option CharSet
  | .literal l => some (literal l)
  | .set s => some s
  | _ => none

/-- The range from one item to another; it does not run backwards. -/
def rangeOf? : Pattern → Pattern → Option CharSet
  | .literal first, .literal last =>
      if first.char ≤ last.char then some (range first last) else none
  | _, _ => none

/-- A hyphen with this character behind it makes no range. -/
def endsRange (c : Option Char) : Bool := c == some ']' || c == some '-'

/-- Reads an item, or a range from an item to another. -/
def readMember? (verbose : Bool) (text : List Char) : Option (CharSet × List Char) := do
  let (first, rest) ← readItem? verbose text
  match next verbose rest with
  | '-' :: behind =>
      if endsRange (glimpse? verbose behind) then return (← ofItem? first, '-' :: behind)
      else
        let (last, rest) ← readItem? verbose (next verbose behind)
        return (← rangeOf? first last, rest)
  | rest => return (← ofItem? first, rest)

/-- What was read of a pair of brackets. -/
structure Progress where
  /-- All others are meant. -/
  negated : Bool
  /-- What stands before the last sign of an operation. -/
  left : Option CharSet
  /-- What stands behind it, the last one first. -/
  members : List CharSet
  /-- Nothing but hyphens was read. -/
  atStart : Bool

namespace Progress

/-- Brackets of which nothing was read. -/
def start (negated : Bool) : Progress := ⟨negated, none, [], true⟩

/-- One more member. -/
def push (p : Progress) (s : CharSet) : Progress :=
  { p with members := s :: p.members, atStart := false }

/-- What was read as one set. -/
def inside (p : Progress) : CharSet :=
  match p.left with
  | none => .ofList p.members.reverse
  | some left => .operation left (.ofList p.members.reverse)

/-- The sign of an operation. -/
def operate (p : Progress) : Progress := ⟨p.negated, some p.inside, [], false⟩

/-- A hyphen at the start. -/
def hyphen (p : Progress) : Progress :=
  { p with members := .literal ⟨'-', false⟩ :: p.members }

end Progress

/-- Begins to read brackets, behind the opening one. -/
def opened (verbose : Bool) (text : List Char) : Progress × List Char :=
  match next verbose text with
  | '^' :: rest => (.start true, rest)
  | rest => (.start false, rest)

/-- Reads brackets up to the closing one, in a number of steps at most.  A closing bracket
that stands first is a member. -/
def readBrackets? (verbose : Bool) : Nat → Progress → List Char → Option (CharSet × List Char)
  | 0, _, _ => none
  | steps + 1, p, text =>
      match next verbose text with
      | [] => none
      | c :: rest =>
          if p.atStart && c == '-' then readBrackets? verbose steps p.hyphen rest
          else if p.atStart && p.members.isEmpty && c == ']' then
            readBrackets? verbose steps (p.push (.literal ⟨c, false⟩)) rest
          else if c = ']' then some (.bracketed p.negated p.inside, rest)
          else if c = '[' then
            match readNamed? rest with
            | some (s, rest) => readBrackets? verbose steps (p.push s) rest
            | none =>
                let (inner, rest) := opened verbose rest
                match readBrackets? verbose steps inner rest with
                | some (s, rest) => readBrackets? verbose steps (p.push s) rest
                | none => none
          else if c ∈ ['&', '-', '~'] && rest.head? == some c then
            readBrackets? verbose steps p.operate rest.tail
          else
            match readMember? verbose (c :: rest) with
            | some (s, rest) => readBrackets? verbose steps (p.push s) rest
            | none => none

/-- Reads brackets up to the closing one, behind the opening one. -/
def read? (verbose : Bool) (text : List Char) : Option (CharSet × List Char) :=
  let (p, rest) := opened verbose text
  readBrackets? verbose (text.length + 1) p rest

end CharSet

namespace Pattern

/-! ### Groups -/

/-- Reads the letters of flags up to a colon or a closing bracket, which is told.  A flag is
named once, and a hyphen stands once and before a flag. -/
def readFlags? (change : FlagChange) (enable dangling : Bool) :
    List Char → Option (FlagChange × Char × List Char)
  | [] => none
  | c :: rest =>
      if c = ':' ∨ c = ')' then if dangling then none else some (change, c, rest)
      else if c = '-' then if enable then readFlags? change false true rest else none
      else
        match Flag.ofChar? c with
        | none => none
        | some f =>
            if (change.lookup f).isSome then none
            else readFlags? (change ++ [(f, enable)]) enable false rest

/-- A character that the name of a group can begin with. -/
def opensName (c : Char) : Bool := c == '_' || Text.isAlphabetic c

/-- A character of the name of a group. -/
def inName (c : Char) : Bool := c ∈ ['_', '.', '[', ']'] || Text.isAlphanumeric c

/-- Reads the name of a group and the angle bracket behind it. -/
def readName? (text : List Char) : Option (String × List Char) :=
  match text.takeWhile (· != '>'), text.dropWhile (· != '>') with
  | first :: others, _ :: rest =>
      if opensName first && others.all inName then some (String.ofList (first :: others), rest)
      else none
  | _, _ => none

/-- What an opening parenthesis introduces. -/
inductive Opening where
  /-- A group, which may have a name. -/
  | group (name : Option String) (change : FlagChange)
  /-- A change of flags. -/
  | flags (change : FlagChange)

/-- A group with a name. -/
def namedGroup? (text : List Char) : Option (Opening × List Char) :=
  (readName? text).map fun (name, rest) => (.group (some name) [], rest)

/-- Reads what follows an opening parenthesis, up to what stands in the group. -/
def readOpening? (text : List Char) : Option (Opening × List Char) :=
  match text with
  | '?' :: 'P' :: '<' :: rest => namedGroup? rest
  | '?' :: '<' :: rest => namedGroup? rest
  | '?' :: rest =>
      match readFlags? [] true false rest with
      | some (change, ':', rest) => some (.group none change, rest)
      | some (change, _, rest) => if change.isEmpty then none else some (.flags change, rest)
      | none => none
  | rest => some (.group none [], rest)

/-! ### Patterns -/

/-- A group that is still open, with what stands before it. -/
structure OpenGroup where
  /-- The flags that it changes. -/
  change : FlagChange
  /-- The branches before it in the group around. -/
  branches : List Pattern
  /-- What stands before it in its branch, the last one first. -/
  items : List Pattern
  /-- White space means nothing around it. -/
  verbose : Bool

/-- How far a text was read. -/
structure Progress where
  /-- The open groups, the innermost first. -/
  groups : List OpenGroup
  /-- The finished branches of the innermost group, the last one first. -/
  branches : List Pattern
  /-- What was read of the last branch, the last one first. -/
  items : List Pattern
  /-- White space means nothing. -/
  verbose : Bool
  /-- The names of groups. -/
  names : List String

namespace Progress

/-- Nothing was read. -/
def start : Progress := ⟨[], [], [], false, []⟩

/-- One more part. -/
def push (p : Progress) (part : Pattern) : Progress := { p with items := part :: p.items }

/-- The branches of the innermost group as one pattern. -/
def body (p : Progress) : Pattern :=
  let last := Pattern.ofList p.items.reverse
  if p.branches.isEmpty then last else .alternation (last :: p.branches).reverse

/-- Begins another branch. -/
def branch (p : Progress) : Progress :=
  { p with branches := .ofList p.items.reverse :: p.branches, items := [] }

/-- Opens a group, or changes flags.  The name of a group is new. -/
def begin? (p : Progress) : Opening → Option Progress
  | .flags change =>
      some { p with
        items := .flags change :: p.items
        verbose := (change.lookup .verbose).getD p.verbose }
  | .group name change =>
      if name.any (p.names.contains ·) then none
      else some {
        groups := ⟨change, p.branches, p.items, p.verbose⟩ :: p.groups
        branches := []
        items := []
        verbose := (change.lookup .verbose).getD p.verbose
        names := name.toList ++ p.names }

/-- Closes the innermost group. -/
def close? (p : Progress) : Option Progress :=
  match p.groups with
  | [] => none
  | g :: around =>
      some { p with
        groups := around
        branches := g.branches
        items := .group g.change p.body :: g.items
        verbose := g.verbose }

/-- Repeats the last part, which must not be a change of flags. -/
def repeat? (p : Progress) : Option Progress :=
  match p.items with
  | [] => none
  | .flags _ :: _ => none
  | part :: before => some { p with items := .repetition part :: before }

/-- The sign that makes a repetition short belongs to it. -/
def skipShort : List Char → List Char
  | '?' :: rest => rest
  | text => text

/-- Reads what begins with a character. -/
def step? (p : Progress) (c : Char) (rest : List Char) : Option (Progress × List Char) :=
  match c with
  | '(' => do
      let (opening, rest) ← readOpening? (next p.verbose rest)
      return (← p.begin? opening, rest)
  | ')' => p.close?.map fun p => (p, rest)
  | '|' => some (p.branch, rest)
  | '[' => (CharSet.read? p.verbose rest).map fun (s, rest) => (p.push (.set s), rest)
  | '*' | '+' | '?' => p.repeat?.map fun p => (p, skipShort rest)
  | '\x7b' => none
  | '\\' => (readEscape? p.verbose rest).map fun (part, rest) => (p.push part, rest)
  | '.' => some (p.push .dot, rest)
  | '^' | '$' => some (p.push .anchor, rest)
  | c => some (p.push (.literal ⟨c, false⟩), rest)

/-- Reads a text to its end, in a number of steps at most. -/
def readAll? : Nat → Progress → List Char → Option Pattern
  | 0, _, _ => none
  | steps + 1, p, text =>
      match next p.verbose text with
      | [] => if p.groups.isEmpty then some p.body else none
      | c :: rest =>
          match p.step? c rest with
          | some (p, rest) => readAll? steps p rest
          | none => none

end Progress

/-- The pattern of a text. -/
def parse? (text : List Char) : Option Pattern := Progress.start.readAll? (text.length + 1) text

end Pattern

end BenchReport
