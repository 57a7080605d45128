import BenchReport.Proofs.Json.RoundTrip

/-!
# The form with lines is read back

In the form that puts every item and field on a line of its own, white space stands between the
tokens: before every item, field and end of a container that is not empty, and behind every colon.
So it is made of the same tokens as the compact form.

## Main results

* `Json.spells_prettyChars` — **the form with lines is made of the tokens of the value.**
* `Json.parse?_pretty` — **it is read back.**
-/

namespace BenchReport.Json

open Token

theorem spells_newLine {text : List Char} {ts : List Token} (h : Spells text ts) (depth : Nat) :
    Spells (newLine depth ++ text) ts := by
  have hblanks : ∀ k, Spells (List.replicate k ' ' ++ text) ts := by
    intro k
    induction k with
    | zero => exact h
    | succ k ih => exact .space rfl ih
  exact .space rfl (hblanks (2 * depth))

theorem ends_newLine (depth : Nat) (text : List Char) : Numeral.Ends (newLine depth ++ text) := by
  rintro _ ⟨⟩
  decide

mutual

-- on the value; the parts are joined from behind, and before each of them there may be a new line

/-- **The form with lines is made of the tokens of the value.** -/
theorem spells_prettyChars {text : List Char} {ts : List Token} (h : Spells text ts)
    (hend : Numeral.Ends text) (depth : Nat) : ∀ v : Json,
    Spells (prettyChars depth v ++ text) (v.tokens ++ ts)
  | .scalar s => by
    simpa [prettyChars, tokens] using Spells.token (t := .scalar s) (fun _ => hend) h
  | .array [] => by
    have hclose := h.sign (t := .endArray) rfl
    simpa [prettyChars, tokens, itemTokens, Token.chars] using hclose.sign (t := .beginArray) rfl
  | .array (v :: rest) => by
    have hclose := spells_newLine (h.sign (t := .endArray) rfl) depth
    have hitems := spells_prettyItems hclose (ends_newLine depth _) (depth + 1) (v :: rest)
    simpa [prettyChars, tokens, Token.chars] using hitems.sign (t := .beginArray) rfl
  | .object [] => by
    have hclose := h.sign (t := .endObject) rfl
    simpa [prettyChars, tokens, fieldTokens, Token.chars] using hclose.sign (t := .beginObject) rfl
  | .object (f :: rest) => by
    have hclose := spells_newLine (h.sign (t := .endObject) rfl) depth
    have hfields := spells_prettyFields hclose (ends_newLine depth _) (depth + 1) (f :: rest)
    simpa [prettyChars, tokens, Token.chars] using hfields.sign (t := .beginObject) rfl

theorem spells_prettyItems {text : List Char} {ts : List Token} (h : Spells text ts)
    (hend : Numeral.Ends text) (depth : Nat) : ∀ items : List Json,
    Spells (prettyItems depth items ++ text) (itemTokens items ++ ts)
  | [] => h
  | [v] => by
    have hv := spells_newLine (spells_prettyChars h hend depth v) depth
    simpa [prettyItems, itemTokens, Token.chars] using hv
  | v :: w :: rest => by
    have hrest := spells_prettyItems h hend depth (w :: rest)
    have hv := spells_prettyChars (hrest.sign (t := .comma) rfl) (ends_chars_append _ (.inl rfl))
      depth v
    simpa [prettyItems, itemTokens, Token.chars] using spells_newLine hv depth

theorem spells_prettyFields {text : List Char} {ts : List Token} (h : Spells text ts)
    (hend : Numeral.Ends text) (depth : Nat) : ∀ fields : List (String × Json),
    Spells (prettyFields depth fields ++ text) (fieldTokens fields ++ ts)
  | [] => h
  | [(k, v)] => by
    have hv := Spells.space (c := ' ') rfl (spells_prettyChars h hend depth v)
    have hkey := (hv.sign (t := .colon) rfl).sign (t := .scalar (.string k)) rfl
    simpa [prettyFields, fieldTokens, Token.chars] using spells_newLine hkey depth
  | (k, v) :: f :: rest => by
    have hrest := spells_prettyFields h hend depth (f :: rest)
    have hv := spells_prettyChars (hrest.sign (t := .comma) rfl) (ends_chars_append _ (.inl rfl))
      depth v
    have hcolon := (Spells.space (c := ' ') rfl hv).sign (t := .colon) rfl
    have hkey := hcolon.sign (t := .scalar (.string k)) rfl
    simpa [prettyFields, fieldTokens, Token.chars] using spells_newLine hkey depth

end

theorem spells_pretty (v : Json) : Spells v.pretty.toList v.tokens := by
  have hspells := spells_prettyChars .nil (fun _ h => nomatch h) 0 v
  rw [List.append_nil, List.append_nil] at hspells
  rwa [pretty, String.toList_ofList]

/-- **The form with lines is read back**, with its fields in order and its numbers as they are
read. -/
theorem parse?_pretty {v : Json} (hlegible : v.Legible) (hdepth : v.depth ≤ maxDepth) :
    parse? v.pretty = some v.settled :=
  parseChars?_of_spells v.spells_pretty hlegible hdepth

end BenchReport.Json
