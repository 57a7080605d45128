import BenchReport.Json.Reader
import BenchReport.Json.Writer
import BenchReport.Proofs.Json.Token

/-!
# Written values are read back

Scanning finds the tokens of a written value again, and reading puts the value together from
them.  What is read has the fields of every object in the order of their keys, and the numbers
that reading makes of the written ones; all else is as it was.

## Main definitions

* `Token.Spells` — a text is made of tokens, with white space between some of them.
* `Json.depth` — how many containers stand around the innermost value.
* `Json.settled` — a value as it is read when it was written.

## Main results

* `Token.scan?_of_spells` — the tokens that make up a text are found again.
* `Json.spells_tokens` — the compact form is made of the tokens of the value.
* `Json.reads_tokens` — a value is put together from its tokens.
* `Json.parseChars?_of_spells`, `Json.parseChars?_compactChars` — **a written value is read back.**
-/

namespace BenchReport

namespace Token

/-! ### Finding the tokens -/

/-- The text is made of these tokens, with white space before or between some of them.  A
number is followed by something that does not go on with it. -/
inductive Spells : List Char → List Token → Prop where
  /-- No token. -/
  | nil : Spells [] []
  /-- White space in front. -/
  | space {c : Char} {text : List Char} {ts : List Token} :
      isSpace c → Spells text ts → Spells (c :: text) ts
  /-- A token in front. -/
  | token {t : Token} {text : List Char} {ts : List Token} :
      (t.isNumber → Numeral.Ends text) → Spells text ts → Spells (t.chars ++ text) (t :: ts)

theorem Spells.sign {t : Token} {text : List Char} {ts : List Token}
    (ht : t.isNumber = false) (h : Spells text ts) : Spells (t.chars ++ text) (t :: ts) :=
  .token (fun hnumber => absurd hnumber (ht ▸ Bool.false_ne_true)) h

/-- **The tokens that make up a text are found again**, numbers up to rounding. -/
theorem scan?_of_spells {text : List Char} {ts : List Token} (h : Spells text ts)
    (hlegible : ∀ t ∈ ts, t.Legible) : scan? text = some (ts.map reread) := by
  induction h with
  | nil => rw [scan?]; rfl
  | space hc _ ih =>
    rw [scan?, if_pos hc]
    exact ih hlegible
  | @token t text ts hend _ ih =>
    obtain ⟨c, rest, hchars, hspace, hread⟩ := next?_chars (hlegible t List.mem_cons_self)
    rw [hchars, List.cons_append, scan?_cons_of_next? hspace (hread text hend),
      ih fun u hu => hlegible u (List.mem_cons_of_mem t hu)]
    rfl

end Token

namespace Json

open Token

/-! ### The compact form -/

theorem ends_chars_append {t : Token} (text : List Char)
    (ht : t = .comma ∨ t = .endArray ∨ t = .endObject) : Numeral.Ends (t.chars ++ text) := by
  rcases ht with rfl | rfl | rfl <;> exact fun c hc => by cases hc; decide

mutual

-- on the value; what follows is a text of tokens again, so the parts are joined from behind

/-- **The compact form is made of the tokens of the value.** -/
theorem spells_tokens {text : List Char} {ts : List Token} (h : Spells text ts)
    (hend : Numeral.Ends text) : ∀ v : Json,
    Spells (v.tokens.flatMap Token.chars ++ text) (v.tokens ++ ts)
  | .scalar s => by
    simpa [tokens] using Spells.token (t := .scalar s) (fun _ => hend) h
  | .array items => by
    have hitems := spells_itemTokens (h.sign (t := .endArray) rfl)
      (ends_chars_append text (.inr (.inl rfl))) items
    simpa [tokens] using hitems.sign (t := .beginArray) rfl
  | .object fields => by
    have hfields := spells_fieldTokens (h.sign (t := .endObject) rfl)
      (ends_chars_append text (.inr (.inr rfl))) fields
    simpa [tokens] using hfields.sign (t := .beginObject) rfl

theorem spells_itemTokens {text : List Char} {ts : List Token} (h : Spells text ts)
    (hend : Numeral.Ends text) : ∀ items : List Json,
    Spells ((itemTokens items).flatMap Token.chars ++ text) (itemTokens items ++ ts)
  | [] => h
  | [v] => by
    simpa [itemTokens] using spells_tokens h hend v
  | v :: w :: rest => by
    have hrest := spells_itemTokens h hend (w :: rest)
    have hv := spells_tokens (hrest.sign (t := .comma) rfl) (ends_chars_append _ (.inl rfl)) v
    simpa [itemTokens] using hv

theorem spells_fieldTokens {text : List Char} {ts : List Token} (h : Spells text ts)
    (hend : Numeral.Ends text) : ∀ fields : List (String × Json),
    Spells ((fieldTokens fields).flatMap Token.chars ++ text) (fieldTokens fields ++ ts)
  | [] => h
  | [(k, v)] => by
    have hv := spells_tokens h hend v
    have hcolon := hv.sign (t := .colon) rfl
    simpa [fieldTokens] using hcolon.sign (t := .scalar (.string k)) rfl
  | (k, v) :: f :: rest => by
    have hrest := spells_fieldTokens h hend (f :: rest)
    have hv := spells_tokens (hrest.sign (t := .comma) rfl) (ends_chars_append _ (.inl rfl)) v
    have hcolon := hv.sign (t := .colon) rfl
    simpa [fieldTokens] using hcolon.sign (t := .scalar (.string k)) rfl

end

/-! ### Putting a value together -/

mutual

/-- How many containers stand around the innermost value. -/
def depth : Json → Nat
  | .scalar _ => 0
  | .array items => itemsDepth items + 1
  | .object fields => fieldsDepth fields + 1

/-- The greatest depth of the items of an array. -/
def itemsDepth : List Json → Nat
  | [] => 0
  | v :: rest => max v.depth (itemsDepth rest)

/-- The greatest depth of the fields of an object. -/
def fieldsDepth : List (String × Json) → Nat
  | [] => 0
  | (_, v) :: rest => max v.depth (fieldsDepth rest)

end

/-- A value without parts as it is read when it was written. -/
def settledScalar : JsonScalar → JsonScalar
  | .number x => .number x.reread
  | s => s

mutual

/-- A value as it is read when it was written. -/
def settled : Json → Json
  | .scalar s => .scalar (settledScalar s)
  | .array items => .array (settledItems items)
  | .object fields => .object (putFields fields [])

/-- The items of an array as they are read. -/
def settledItems : List Json → List Json
  | [] => []
  | v :: rest => v.settled :: settledItems rest

/-- Puts fields, as they are read, into those that stand there already. -/
def putFields : List (String × Json) → List (String × Json) → List (String × Json)
  | [], done => done
  | (k, v) :: rest, done => putFields rest (putField k v.settled done)

end

theorem reread_scalar (s : JsonScalar) :
    (Token.scalar s).reread = .scalar (settledScalar s) := by
  cases s <;> rfl

namespace Progress

/-- The tokens lead from one place of a text to another. -/
def Reads (p : Progress) (ts : List Token) (q : Progress) : Prop :=
  ts.foldlM step p = some q

/-- A value may begin here, inside the open containers. -/
def Awaits (p : Progress) (stack : List Frame) : Prop :=
  ∀ t, t ≠ .endArray → p.step t = begin? stack t

/-- A key may stand here, after the fields of the innermost container. -/
def AwaitsKey (p : Progress) (fields : List (String × Json)) (stack : List Frame) : Prop :=
  ∀ key, p.step (.scalar (.string key)) = some (.afterKey fields key stack)

theorem Reads.nil (p : Progress) : Reads p [] p := rfl

theorem Reads.cons {p q r : Progress} {t : Token} {ts : List Token}
    (ht : p.step t = some q) (hts : Reads q ts r) : Reads p (t :: ts) r := by
  rw [Reads, List.foldlM_cons, ht]
  exact hts

theorem Reads.append {p q r : Progress} {ts us : List Token}
    (hts : Reads p ts q) (hus : Reads q us r) : Reads p (ts ++ us) r := by
  rw [Reads, List.foldlM_append, hts]
  exact hus

theorem awaits_value (stack : List Frame) : Awaits (.value stack) stack :=
  fun _ _ => rfl

theorem awaits_firstItem (stack : List Frame) :
    Awaits (.firstItem stack) (.array [] :: stack) := by
  intro t ht
  cases t with
  | endArray => exact absurd rfl ht
  | _ => rfl

theorem awaitsKey_firstKey (stack : List Frame) : AwaitsKey (.firstKey stack) [] stack :=
  fun _ => rfl

theorem awaitsKey_nextKey (fields : List (String × Json)) (stack : List Frame) :
    AwaitsKey (.nextKey fields stack) fields stack :=
  fun _ => rfl

theorem Awaits.beginArray {p : Progress} {stack : List Frame} (hp : p.Awaits stack)
    (h : stack.length < maxDepth) : p.step .beginArray = some (.firstItem stack) :=
  (hp _ Token.noConfusion).trans (if_pos h)

theorem Awaits.beginObject {p : Progress} {stack : List Frame} (hp : p.Awaits stack)
    (h : stack.length < maxDepth) : p.step .beginObject = some (.firstKey stack) :=
  (hp _ Token.noConfusion).trans (if_pos h)

/-- A key and its colon lead to the value that stands under the key. -/
theorem Reads.field {p q : Progress} {fields : List (String × Json)} {stack : List Frame}
    {ts : List Token} (hp : p.AwaitsKey fields stack) (key : String)
    (hts : Reads (.value (.object fields key :: stack)) ts q) :
    Reads p (.scalar (.string key) :: .colon :: ts) q :=
  .cons (hp key) (.cons rfl hts)

end Progress

open Progress

mutual

-- on the value, for every stack of open containers: an open container is a frame more

/-- **A value is put together from its tokens.** -/
theorem reads_tokens {p : Progress} {stack : List Frame} (hp : p.Awaits stack) :
    ∀ v : Json, stack.length + v.depth ≤ maxDepth →
      p.Reads (v.tokens.map reread) (.complete v.settled stack)
  | .scalar s, _ => by
    rw [tokens, List.map_singleton, reread_scalar]
    exact .cons (hp _ Token.noConfusion) (.nil _)
  | .array [], hdepth => .cons (hp.beginArray hdepth) (.cons rfl (.nil _))
  | .array (v :: rest), hdepth => by
    rw [depth] at hdepth
    refine .cons (hp.beginArray (by omega)) ?_
    exact reads_itemTokens (awaits_firstItem stack) (v :: rest) (List.cons_ne_nil v rest) hdepth
  | .object [], hdepth => .cons (hp.beginObject hdepth) (.cons rfl (.nil _))
  | .object (f :: rest), hdepth => by
    rw [depth] at hdepth
    refine .cons (hp.beginObject (by omega)) ?_
    exact reads_fieldTokens (awaitsKey_firstKey stack) (f :: rest) (List.cons_ne_nil f rest) hdepth

/-- The items of an array, and its end, are put after those that have been read. -/
theorem reads_itemTokens {p : Progress} {stack : List Frame} {done : List Json}
    (hp : p.Awaits (.array done :: stack)) : ∀ items : List Json, items ≠ [] →
      stack.length + (itemsDepth items + 1) ≤ maxDepth →
      p.Reads ((itemTokens items ++ [Token.endArray]).map reread)
        (.complete (.array (done.reverse ++ settledItems items)) stack)
  | [v], _, hdepth => by
    rw [itemsDepth] at hdepth
    have hv : p.Reads (v.tokens.map reread) (.complete v.settled (.array done :: stack)) :=
      reads_tokens hp v (by rw [List.length_cons]; omega)
    rw [itemTokens, List.map_append, settledItems, settledItems, ← List.reverse_cons]
    exact hv.append (.cons rfl (.nil _))
  | v :: w :: rest, _, hdepth => by
    rw [itemsDepth] at hdepth
    have hv : p.Reads (v.tokens.map reread) (.complete v.settled (.array done :: stack)) :=
      reads_tokens hp v (by rw [List.length_cons]; omega)
    have hrest := reads_itemTokens (awaits_value (.array (v.settled :: done) :: stack)) (w :: rest)
      (List.cons_ne_nil w rest) (by omega)
    rw [List.reverse_cons, List.append_assoc, List.singleton_append] at hrest
    rw [itemTokens, List.append_assoc, List.map_append, settledItems]
    exact hv.append (.cons rfl hrest)

/-- The fields of an object, and its end, are put into those that have been read. -/
theorem reads_fieldTokens {p : Progress} {stack : List Frame} {done : List (String × Json)}
    (hp : p.AwaitsKey done stack) : ∀ fields : List (String × Json), fields ≠ [] →
      stack.length + (fieldsDepth fields + 1) ≤ maxDepth →
      p.Reads ((fieldTokens fields ++ [Token.endObject]).map reread)
        (.complete (.object (putFields fields done)) stack)
  | [(k, v)], _, hdepth => by
    rw [fieldsDepth] at hdepth
    have hv := reads_tokens (awaits_value (.object done k :: stack)) v
      (by rw [List.length_cons]; omega)
    rw [fieldTokens, List.map_append, putFields, putFields]
    exact (Reads.field hp k hv).append (.cons rfl (.nil _))
  | (k, v) :: f :: rest, _, hdepth => by
    rw [fieldsDepth] at hdepth
    have hv := reads_tokens (awaits_value (.object done k :: stack)) v
      (by rw [List.length_cons]; omega)
    have hrest := reads_fieldTokens (awaitsKey_nextKey (putField k v.settled done) stack)
      (f :: rest) (List.cons_ne_nil f rest) (by omega)
    have hboth := Reads.field hp k (hv.append (.cons (t := .comma) rfl hrest))
    rw [putFields]
    simpa [fieldTokens, reread] using hboth

end

/-! ### Reading what was written -/

/-- Every number in the value has a written form that can be read. -/
def Legible (v : Json) : Prop := ∀ t ∈ v.tokens, t.Legible

theorem legible_scalar {s : JsonScalar} (h : (Token.scalar s).Legible) :
    (Json.scalar s).Legible := by
  intro t ht
  rw [tokens, List.mem_singleton] at ht
  exact ht ▸ h

theorem legible_ofString (s : String) : (ofString s).Legible := legible_scalar trivial

/-- A number that is not finite has `null` in its place. -/
theorem legible_ofBinary64 (x : Binary64) : (ofBinary64 x).Legible := by
  rw [ofBinary64]
  split
  · rename_i hfinite
    exact legible_scalar hfinite
  · exact legible_scalar trivial

theorem legible_itemTokens : ∀ {items : List Json}, (∀ v ∈ items, v.Legible) →
    ∀ t ∈ itemTokens items, t.Legible
  | [], _ => fun _ ht => absurd ht List.not_mem_nil
  | [v], h => h v List.mem_cons_self
  | v :: w :: rest, h => by
    obtain ⟨hv, hrest⟩ := List.forall_mem_cons.1 h
    rw [itemTokens, List.forall_mem_append, List.forall_mem_cons]
    exact ⟨hv, True.intro, legible_itemTokens hrest⟩

theorem legible_fieldTokens : ∀ {fields : List (String × Json)}, (∀ f ∈ fields, f.2.Legible) →
    ∀ t ∈ fieldTokens fields, t.Legible
  | [], _ => fun _ ht => absurd ht List.not_mem_nil
  | [(k, v)], h => by
    rw [fieldTokens, List.forall_mem_cons, List.forall_mem_cons]
    exact ⟨True.intro, True.intro, h (k, v) List.mem_cons_self⟩
  | (k, v) :: f :: rest, h => by
    obtain ⟨hv, hrest⟩ := List.forall_mem_cons.1 h
    rw [fieldTokens, List.forall_mem_cons, List.forall_mem_cons, List.forall_mem_append,
      List.forall_mem_cons]
    exact ⟨True.intro, True.intro, hv, True.intro, legible_fieldTokens hrest⟩

theorem legible_array {items : List Json} (h : ∀ v ∈ items, v.Legible) :
    (array items).Legible := by
  rw [Legible, tokens, List.forall_mem_cons, List.forall_mem_append, List.forall_mem_singleton]
  exact ⟨True.intro, legible_itemTokens h, True.intro⟩

theorem legible_object {fields : List (String × Json)} (h : ∀ f ∈ fields, f.2.Legible) :
    (object fields).Legible := by
  rw [Legible, tokens, List.forall_mem_cons, List.forall_mem_append, List.forall_mem_singleton]
  exact ⟨True.intro, legible_fieldTokens h, True.intro⟩

theorem itemsDepth_le {d : Nat} : ∀ {items : List Json}, (∀ v ∈ items, v.depth ≤ d) →
    itemsDepth items ≤ d
  | [], _ => Nat.zero_le d
  | _ :: _, h => by
    obtain ⟨hv, hrest⟩ := List.forall_mem_cons.1 h
    exact Nat.max_le.2 ⟨hv, itemsDepth_le hrest⟩

theorem fieldsDepth_le {d : Nat} : ∀ {fields : List (String × Json)},
    (∀ f ∈ fields, f.2.depth ≤ d) → fieldsDepth fields ≤ d
  | [], _ => Nat.zero_le d
  | _ :: _, h => by
    obtain ⟨hv, hrest⟩ := List.forall_mem_cons.1 h
    exact Nat.max_le.2 ⟨hv, fieldsDepth_le hrest⟩

theorem depth_array_le {d : Nat} {items : List Json} (h : ∀ v ∈ items, v.depth ≤ d) :
    (array items).depth ≤ d + 1 := Nat.succ_le_succ (itemsDepth_le h)

theorem depth_object_le {d : Nat} {fields : List (String × Json)}
    (h : ∀ f ∈ fields, f.2.depth ≤ d) : (object fields).depth ≤ d + 1 :=
  Nat.succ_le_succ (fieldsDepth_le h)

/-- **A written value is read back**, with its fields in order and its numbers as they are
read. -/
theorem parseChars?_of_spells {text : List Char} {v : Json} (h : Spells text v.tokens)
    (hlegible : v.Legible) (hdepth : v.depth ≤ maxDepth) : parseChars? text = some v.settled := by
  have hreads : (v.tokens.map reread).foldlM step (.value []) = some (.complete v.settled []) :=
    reads_tokens (awaits_value []) v (by rwa [List.length_nil, Nat.zero_add])
  rw [parseChars?, scan?_of_spells h hlegible, Option.bind_some, ofTokens?, hreads]
  rfl

/-- The compact form is read back. -/
theorem parseChars?_compactChars {v : Json} (hlegible : v.Legible) (hdepth : v.depth ≤ maxDepth) :
    parseChars? v.compactChars = some v.settled := by
  have hspells := spells_tokens .nil (fun _ h => nomatch h) v
  rw [List.append_nil, List.append_nil] at hspells
  exact parseChars?_of_spells hspells hlegible hdepth

end Json

end BenchReport
