import BenchReport.Json.Value

/-!
# JSON tokens

A JSON text is a sequence of tokens with white space between them.  Writing turns every
token into characters; scanning finds the tokens again.

## Main definitions

* `Token` — the six signs and the values without parts.
* `Token.chars` — the written form.
* `Token.scan?` — the tokens of a text.
-/

namespace BenchReport

/-- A token of a JSON text. -/
inductive Token where
  /-- An opening bracket. -/
  | beginArray
  /-- A closing bracket. -/
  | endArray
  /-- An opening brace. -/
  | beginObject
  /-- A closing brace. -/
  | endObject
  /-- The sign between a key and its value. -/
  | colon
  /-- The sign between two items or fields. -/
  | comma
  /-- A value without parts. -/
  | scalar (value : JsonScalar)
  deriving DecidableEq

namespace Token

/-! ### Text in quotes -/

/-- The hexadecimal digit of a number below sixteen, in lower case. -/
def hexDigit (n : Nat) : Char := Nat.digitChar n

/-- The value of a hexadecimal digit of either case. -/
def hexValue? (c : Char) : Option Nat :=
  if '0' ≤ c ∧ c ≤ '9' then some (c.toNat - '0'.toNat)
  else if 'a' ≤ c ∧ c ≤ 'f' then some (c.toNat - 'a'.toNat + 10)
  else if 'A' ≤ c ∧ c ≤ 'F' then some (c.toNat - 'A'.toNat + 10)
  else none

/-- A character between quotes: the quote, the backslash and the control characters are
escaped, all others stand for themselves. -/
def escapeChar (c : Char) : List Char :=
  if c = '"' then ['\\', '"']
  else if c = '\\' then ['\\', '\\']
  else if c = '\x08' then ['\\', 'b']
  else if c = '\x0c' then ['\\', 'f']
  else if c = '\n' then ['\\', 'n']
  else if c = '\r' then ['\\', 'r']
  else if c = '\t' then ['\\', 't']
  else if c.toNat < 0x20 then
    ['\\', 'u', '0', '0', hexDigit (c.toNat / 16), hexDigit (c.toNat % 16)]
  else [c]

/-- A text in quotes. -/
def quote (text : String) : List Char := '"' :: (text.toList.flatMap escapeChar ++ ['"'])

/-- Reads four hexadecimal digits. -/
def readUnit? : List Char → Option (Nat × List Char)
  | a :: b :: c :: d :: rest => do
      let a ← hexValue? a
      let b ← hexValue? b
      let c ← hexValue? c
      let d ← hexValue? d
      some (((a * 16 + b) * 16 + c) * 16 + d, rest)
  | _ => none

/-- Reads what follows the mark of a numbered escape: one unit, or two that together stand
for a character beyond the first plane.  A unit that lacks its partner is refused. -/
def readNumbered? (text : List Char) : Option (Char × List Char) :=
  match readUnit? text with
  | none => none
  | some (unit, rest) =>
    if 0xD800 ≤ unit ∧ unit < 0xDC00 then
      match rest with
      | '\\' :: 'u' :: rest =>
        match readUnit? rest with
        | none => none
        | some (low, rest) =>
          if 0xDC00 ≤ low ∧ low < 0xE000 then
            some (Char.ofNat (0x10000 + (unit - 0xD800) * 0x400 + (low - 0xDC00)), rest)
          else none
      | _ => none
    else if 0xDC00 ≤ unit ∧ unit < 0xE000 then none
    else some (Char.ofNat unit, rest)

/-- Reads one character between quotes: an escape, or a character that may stand for
itself. -/
def readChar? : List Char → Option (Char × List Char)
  | '\\' :: 'u' :: rest => readNumbered? rest
  | '\\' :: c :: rest =>
    match c with
    | '"' => some ('"', rest)
    | '\\' => some ('\\', rest)
    | '/' => some ('/', rest)
    | 'b' => some ('\x08', rest)
    | 'f' => some ('\x0c', rest)
    | 'n' => some ('\n', rest)
    | 'r' => some ('\r', rest)
    | 't' => some ('\t', rest)
    | _ => none
  | c :: rest => if c = '\\' ∨ c.toNat < 0x20 then none else some (c, rest)
  | [] => none

theorem readUnit?_length {text rest : List Char} {unit : Nat}
    (h : readUnit? text = some (unit, rest)) : rest.length < text.length := by
  unfold readUnit? at h
  split at h
  · simp only [Option.bind_eq_bind, Option.bind_eq_some_iff, Option.some.injEq,
      Prod.mk.injEq] at h
    obtain ⟨_, _, _, _, _, _, _, _, _, rfl⟩ := h
    simp only [List.length_cons]
    omega
  · simp at h

theorem readNumbered?_length {text rest : List Char} {c : Char}
    (h : readNumbered? text = some (c, rest)) : rest.length < text.length := by
  unfold readNumbered? at h
  split at h
  · simp at h
  · rename_i unit rest₁ h₁
    have l₁ := readUnit?_length h₁
    split at h
    · split at h
      · split at h
        · simp at h
        · rename_i h₂
          have l₂ := readUnit?_length h₂
          split at h
          · simp only [Option.some.injEq, Prod.mk.injEq] at h
            obtain ⟨_, rfl⟩ := h
            simp only [List.length_cons] at l₁
            omega
          · simp at h
      · simp at h
    · split at h
      · simp at h
      · simp only [Option.some.injEq, Prod.mk.injEq] at h
        obtain ⟨_, rfl⟩ := h
        exact l₁

/-- A character that is read takes at least one character of the text. -/
theorem readChar?_length {text rest : List Char} {c : Char}
    (h : readChar? text = some (c, rest)) : rest.length < text.length := by
  unfold readChar? at h
  split at h
  · have := readNumbered?_length h
    simp only [List.length_cons]
    omega
  · split at h <;> simp at h <;> obtain ⟨_, rfl⟩ := h <;>
      simp only [List.length_cons] <;> omega
  · split at h
    · simp at h
    · simp only [Option.some.injEq, Prod.mk.injEq] at h
      obtain ⟨_, rfl⟩ := h
      simp
  · simp at h

/-- Reads characters up to the closing quote and past it. -/
def readQuoted? (text : List Char) : Option (List Char × List Char) :=
  match text with
  | '"' :: rest => some ([], rest)
  | text =>
    match h : readChar? text with
    | none => none
    | some (c, rest) =>
      have := readChar?_length h
      (readQuoted? rest).map fun (cs, rest) => (c :: cs, rest)
termination_by text.length

/-! ### Numbers -/

/-- The digits before the point are there and have no superfluous zero in front. -/
def wholeIsPlain : List Char → Bool
  | [] => false
  | [_] => true
  | c :: _ => c != '0'

/-- Reads a number: digits before the point, and digits behind it when there is one. -/
def readNumber? (negative : Bool) (text : List Char) : Option (JsonNumber × List Char) :=
  match Numeral.read? text with
  | none => none
  | some (n, rest) =>
    if wholeIsPlain n.whole && n.fraction != some [] then
      (JsonNumber.ofNumeral? negative n).map fun x => (x, rest)
    else none

/-! ### All tokens -/

/-- The written form. -/
def chars : Token → List Char
  | .beginArray => ['[']
  | .endArray => [']']
  | .beginObject => ['\x7b']
  | .endObject => ['\x7d']
  | .colon => [':']
  | .comma => [',']
  | .scalar .null => ['n', 'u', 'l', 'l']
  | .scalar (.bool true) => ['t', 'r', 'u', 'e']
  | .scalar (.bool false) => ['f', 'a', 'l', 's', 'e']
  | .scalar (.number x) => x.chars
  | .scalar (.string s) => quote s

/-- The four characters that may stand between tokens. -/
def isSpace (c : Char) : Bool := c = ' ' || c = '\t' || c = '\n' || c = '\r'

/-- Reads the token that begins with `c` and goes on with `rest`. -/
def next? (c : Char) (rest : List Char) : Option (Token × List Char) :=
  match c, rest with
  | '[', rest => some (.beginArray, rest)
  | ']', rest => some (.endArray, rest)
  | '\x7b', rest => some (.beginObject, rest)
  | '\x7d', rest => some (.endObject, rest)
  | ':', rest => some (.colon, rest)
  | ',', rest => some (.comma, rest)
  | '"', rest =>
      (readQuoted? rest).map fun (cs, rest) => (.scalar (.string (String.ofList cs)), rest)
  | 'n', 'u' :: 'l' :: 'l' :: rest => some (.scalar .null, rest)
  | 't', 'r' :: 'u' :: 'e' :: rest => some (.scalar (.bool true), rest)
  | 'f', 'a' :: 'l' :: 's' :: 'e' :: rest => some (.scalar (.bool false), rest)
  | '-', rest => (readNumber? true rest).map fun (x, rest) => (.scalar (.number x), rest)
  | c, rest =>
      if c.isDigit then
        (readNumber? false (c :: rest)).map fun (x, rest) => (.scalar (.number x), rest)
      else none

theorem readQuoted?_length {text rest cs : List Char}
    (h : readQuoted? text = some (cs, rest)) : rest.length < text.length := by
  fun_induction readQuoted? text generalizing cs rest with
  | case1 r =>
    simp only [Option.some.injEq, Prod.mk.injEq] at h
    obtain ⟨_, rfl⟩ := h
    simp
  | case2 => simp at h
  | case3 text _ c r hc hlt ih =>
    obtain ⟨⟨cs', r'⟩, hq, he⟩ := Option.map_eq_some_iff.1 h
    simp only [Prod.mk.injEq] at he
    obtain ⟨_, rfl⟩ := he
    have := ih hq
    omega

theorem readDigits_length (text : List Char) :
    (Text.readDigits text).1.length + (Text.readDigits text).2.length = text.length := by
  rw [← List.length_append, Text.readDigits_append]

theorem readFraction_length (text : List Char) :
    (Numeral.readFraction text).2.length ≤ text.length := by
  unfold Numeral.readFraction
  split
  · rename_i rest
    have := readDigits_length rest
    simp only [List.length_cons]
    omega
  · simp

theorem readSign_length (text : List Char) :
    (Numeral.readSign text).2.length ≤ text.length := by
  unfold Numeral.readSign
  split <;> simp

theorem readExponentDigits_length {text rest : List Char} {e : Int}
    (h : Numeral.readExponentDigits text = some (e, rest)) : rest.length ≤ text.length := by
  simp only [Numeral.readExponentDigits] at h
  split at h
  · simp at h
  · simp only [Option.some.injEq, Prod.mk.injEq] at h
    obtain ⟨_, rfl⟩ := h
    have h₁ := readSign_length text
    have h₂ := readDigits_length (Numeral.readSign text).2
    omega

theorem readExponent_length {text rest : List Char} {e : Option Int}
    (h : Numeral.readExponent text = some (e, rest)) : rest.length ≤ text.length := by
  unfold Numeral.readExponent at h
  split at h
  · obtain ⟨⟨e', r'⟩, hd, he⟩ := Option.map_eq_some_iff.1 h
    simp only [Prod.mk.injEq] at he
    obtain ⟨_, rfl⟩ := he
    have := readExponentDigits_length hd
    simp only [List.length_cons]
    omega
  · obtain ⟨⟨e', r'⟩, hd, he⟩ := Option.map_eq_some_iff.1 h
    simp only [Prod.mk.injEq] at he
    obtain ⟨_, rfl⟩ := he
    have := readExponentDigits_length hd
    simp only [List.length_cons]
    omega
  · simp only [Option.some.injEq, Prod.mk.injEq] at h
    simp [h.2]

/-- A numeral leaves what follows its digits. -/
theorem read?_length {text rest : List Char} {n : Numeral}
    (h : Numeral.read? text = some (n, rest)) : n.whole.length + rest.length ≤ text.length := by
  obtain ⟨⟨e, r⟩, hx, he⟩ := Option.map_eq_some_iff.1 h
  simp only [Prod.mk.injEq] at he
  obtain ⟨rfl, rfl⟩ := he
  have h₁ := readDigits_length text
  have h₂ := readFraction_length (Text.readDigits text).2
  have h₃ : r.length ≤ (Numeral.readFraction (Text.readDigits text).2).2.length :=
    readExponent_length hx
  show (Text.readDigits text).1.length + r.length ≤ text.length
  omega

theorem readNumber?_length {negative : Bool} {text rest : List Char} {x : JsonNumber}
    (h : readNumber? negative text = some (x, rest)) : rest.length < text.length := by
  unfold readNumber? at h
  split at h
  · simp at h
  · rename_i n r hn
    split at h
    · rename_i hp
      obtain ⟨y, _, he⟩ := Option.map_eq_some_iff.1 h
      simp only [Prod.mk.injEq] at he
      obtain ⟨_, rfl⟩ := he
      have := read?_length hn
      have : 0 < n.whole.length := by
        simp only [Bool.and_eq_true] at hp
        cases hw : n.whole with
        | nil => simp [hw, wholeIsPlain] at hp
        | cons => simp
      omega
    · simp at h

/-- A token that is read leaves no more than what followed its first character. -/
theorem next?_length {c : Char} {rest rest' : List Char} {t : Token}
    (h : next? c rest = some (t, rest')) : rest'.length ≤ rest.length := by
  unfold next? at h
  split at h
  case h_7 =>
    obtain ⟨⟨cs, r⟩, hq, he⟩ := Option.map_eq_some_iff.1 h
    simp only [Prod.mk.injEq] at he
    obtain ⟨_, rfl⟩ := he
    have := readQuoted?_length hq
    omega
  case h_11 =>
    obtain ⟨⟨x, r⟩, hn, he⟩ := Option.map_eq_some_iff.1 h
    simp only [Prod.mk.injEq] at he
    obtain ⟨_, rfl⟩ := he
    have := readNumber?_length hn
    omega
  case h_12 =>
    split at h
    · obtain ⟨⟨x, r⟩, hn, he⟩ := Option.map_eq_some_iff.1 h
      simp only [Prod.mk.injEq] at he
      obtain ⟨_, rfl⟩ := he
      have := readNumber?_length hn
      simp only [List.length_cons] at this
      omega
    · simp at h
  all_goals
    simp only [Option.some.injEq, Prod.mk.injEq] at h
    obtain ⟨_, rfl⟩ := h
    simp only [List.length_cons, Nat.le_refl]
    try omega

/-- The tokens of a text; none when some part of it is no token. -/
def scan? (text : List Char) : Option (List Token) :=
  match text with
  | [] => some []
  | c :: rest =>
    if isSpace c then scan? rest
    else
      match h : next? c rest with
      | none => none
      | some (t, rest') =>
        have := next?_length h
        (scan? rest').map (t :: ·)
termination_by text.length
decreasing_by all_goals simp only [List.length_cons]; omega

end Token

end BenchReport
