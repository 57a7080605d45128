import BenchReport.Proofs.Decimal.Correct
import BenchReport.Proofs.Decimal.Exact
import BenchReport.Proofs.Decimal.Grammar
import BenchReport.Proofs.Json.Reading
import BenchReport.Proofs.Report.Presence
import BenchReport.Proofs.Text.Trim

/-!
# Fields that are read as numbers

A field is read as a finite number in three cases: it is a number, it is `true`, or it is a text
that is a decimal numeral but for the white space around it, and the nearest binary64 number is
finite.  What it is read as is said here without reading: the number nearest to the exact value.

## Main definitions

* `Json.Denotes` — the value of a field stands for a finite number.
* `Json.IsNoNumber` — values of fields that stand for none.

## Main results

* `Json.readsAs_iff_denotes` — a value is read as the number that it stands for.
* `Json.IsNoNumber.not_denotes` — what stands for no number.
* `Record.figure_extracts` — **a field is read exactly when it stands for a finite number.**
-/

namespace BenchReport

namespace Numeral

variable {text : List Char} {negative s : Bool} {n : Numeral} {m : Magnitude}

/-- The number of a numeral has its sign, and the magnitude nearest to its exact value. -/
theorem toBinary64_eq_finite_iff : n.toBinary64 negative = .finite s m ↔
    s = negative ∧ Binary64.IsNearest (n.value * Binary64.one) m.units :=
  Binary64.ofDecimal_eq_finite_iff ⟨n.significand, n.power⟩

/-- No part of a numeral is white space. -/
theorem IsWritten.bare (h : IsWritten text negative n) : Text.Bare Text.isBlank text := by
  have hchar : ∀ c ∈ text, Text.isBlank c = false := by
    intro c hc
    have hsigns : ['+', '-', '.', 'e', 'E'].all (!Text.isBlank ·) = true := by decide
    refine (h.forall_mem c hc).elim Text.isBlank_eq_false_of_isDigit fun hsign => ?_
    simpa only [Bool.not_eq_true'] using List.all_eq_true.1 hsigns c hsign
  exact Text.bare_of_forall hchar

end Numeral

/-! ### What the value of a field stands for -/

namespace Json

open Binary64 (IsNearest one limit)

/-- The value of a field stands for a finite number: an integer for the nearest one, any other
number for itself, `true` for one, and a text for the number nearest to the numeral in it, which has
the sign of the numeral also when it is zero. -/
inductive Denotes : Json → Binary64 → Prop where
  | integer {k : Int} {m : Magnitude} : IsNearest (k.natAbs * one) m.units →
      Denotes (.scalar (.number (.integer k))) (.finite (k < 0) m)
  | real {x : Binary64} : x.isFinite → Denotes (.scalar (.number (.real x))) x
  | yes : Denotes (.scalar (.bool true)) 1
  | text {text : String} {core : List Char} {negative : Bool} {n : Numeral} {m : Magnitude} :
      Text.Wraps text.toList core → Numeral.IsWritten core negative n →
      IsNearest (n.value * one) m.units → Denotes (.scalar (.string text)) (.finite negative m)

/-- The value of a field stands for no finite number. -/
inductive IsNoNumber : Json → Prop where
  | null : IsNoNumber (.scalar .null)
  | no : IsNoNumber (.scalar (.bool false))
  | array (items : List Json) : IsNoNumber (.array items)
  | object (fields : List (String × Json)) : IsNoNumber (.object fields)
  /-- A name of an infinity or of a NaN, in any case, with a sign or without. -/
  | name {text : String} {sign name : List Char} {negative : Bool} :
      Text.Wraps text.toList (sign ++ name) → Numeral.IsSign sign negative →
      name.map Char.toLower ∈ ["inf".toList, "infinity".toList, "nan".toList] →
      IsNoNumber (.scalar (.string text))
  /-- A text without digits, such as the empty one. -/
  | digitless {text : String} : (∀ c ∈ text.toList, c.isDigit = false) →
      IsNoNumber (.scalar (.string text))
  /-- A text whose last sign is neither a digit nor a point, such as an exponent without digits. -/
  | unfinished {text : String} {core : List Char} {c : Char} : Text.Wraps text.toList core →
      Text.Bare Text.isBlank core → core.getLast? = some c → c.isDigit = false → c ≠ '.' →
      IsNoNumber (.scalar (.string text))
  /-- A text that is no numeral for another reason. -/
  | other {text : String} {core : List Char} : Text.Wraps text.toList core →
      Text.Bare Text.isBlank core → (∀ negative n, ¬ Numeral.IsWritten core negative n) →
      IsNoNumber (.scalar (.string text))
  /-- A numeral whose nearest number would be beyond the finite ones. -/
  | tooLarge {text : String} {core : List Char} {negative : Bool} {n : Numeral} {u : Nat} :
      Text.Wraps text.toList core → Numeral.IsWritten core negative n →
      IsNearest (n.value * one) u → limit ≤ u → IsNoNumber (.scalar (.string text))

variable {value : Json} {v : Binary64}

/-- A value is read as the number that it stands for. -/
theorem readsAs_iff_denotes : value.ReadsAs v ↔ value.Denotes v := by
  constructor
  · rintro (⟨x, hx⟩ | ⟨text, v, hv, hfinite⟩ | _)
    · cases x with
      | integer k =>
        obtain ⟨s, m, hm⟩ := Binary64.exists_eq_finite hx
        obtain ⟨rfl, hnearest⟩ := Binary64.ofInt_eq_finite_iff.1 hm
        rw [hm]
        exact .integer hnearest
      | real x => exact .real hx
    · obtain ⟨negative, n, hwritten, rfl⟩ := Numeral.parse?_eq_some_iff.1 hv
      obtain ⟨s, m, hm⟩ := Binary64.exists_eq_finite hfinite
      obtain ⟨rfl, hnearest⟩ := Numeral.toBinary64_eq_finite_iff.1 hm
      rw [hm]
      exact .text (Text.wraps_trim _) hwritten hnearest
    · exact .yes
  · rintro (@⟨k, m, hnearest⟩ | hx | _ | @⟨text, core, negative, n, m, hwraps, hwritten, hnearest⟩)
    · have hm : (JsonNumber.integer k).toBinary64 = .finite (k < 0) m :=
        Binary64.ofInt_eq_finite_iff.2 ⟨rfl, hnearest⟩
      rw [← hm]
      exact .number _ (by rw [hm]; rfl)
    · exact .number _ hx
    · exact .yes
    · have hm : n.toBinary64 negative = .finite negative m :=
        Numeral.toBinary64_eq_finite_iff.2 ⟨rfl, hnearest⟩
      rw [← hwraps.trim_eq hwritten.bare] at hwritten
      exact .text _ _ (Numeral.parse?_eq_some_iff.2 ⟨_, _, hwritten, hm.symm⟩) rfl

/-- The names of infinities and NaN hold no digits. -/
theorem isDigit_eq_false_of_name {name : List Char}
    (h : name.map Char.toLower ∈ ["inf".toList, "infinity".toList, "nan".toList]) :
    ∀ c ∈ name, c.isDigit = false := by
  have hnames : ["inf".toList, "infinity".toList, "nan".toList].all
      (·.all (!Char.isDigit ·)) = true := by decide
  intro c hc
  by_contra hdigit
  rw [Bool.not_eq_false] at hdigit
  -- a digit has no other case
  have hlower : c.toLower = c := by
    refine dif_neg fun hupper => ?_
    have hhigh : c.toNat ≤ 57 := (Char.isDigit_iff_toNat.1 hdigit).2
    have hlow : 65 ≤ c.toNat := hupper.1
    omega
  have hdigitless := List.all_eq_true.1 (List.all_eq_true.1 hnames _ h) _ (List.mem_map_of_mem hc)
  rw [hlower, hdigit] at hdigitless
  cases hdigitless

/-- What stands for no number stands for none. -/
theorem IsNoNumber.not_denotes (h : value.IsNoNumber) : ¬ value.Denotes v := by
  have hdigitless : ∀ {text : String}, (∀ c ∈ text.toList, c.isDigit = false) →
      ¬ (Json.scalar (.string text)).Denotes v := by
    rintro text hnone (_ | _ | _ | ⟨hwraps, hwritten, -⟩)
    obtain ⟨c, hc, hdigit⟩ := hwritten.exists_isDigit
    exact Bool.false_ne_true ((hnone c (hwraps.mem hc)).symm.trans hdigit)
  cases h with
  | null => nofun
  | no => nofun
  | array => nofun
  | object => nofun
  | name hwraps hsign hname =>
    refine hdigitless fun c hc => ?_
    rcases hwraps.of_mem hc with hblank | hmem
    · by_contra hdigit
      rw [Text.isBlank_eq_false_of_isDigit (by simpa using hdigit)] at hblank
      exact Bool.false_ne_true hblank
    · rcases List.mem_append.1 hmem with hmem | hmem
      · exact hsign.isDigit_eq_false c hmem
      · exact isDigit_eq_false_of_name hname c hmem
  | digitless hnone => exact hdigitless hnone
  | unfinished hwraps hbare hlast hdigit hpoint =>
    rintro (_ | _ | _ | ⟨hwraps', hwritten, -⟩)
    rw [← hwraps.trim_eq hbare, hwraps'.trim_eq hwritten.bare] at hlast
    exact (hwritten.of_getLast? hlast).elim (by simp [hdigit]) hpoint
  | other hwraps hbare hnone =>
    rintro (_ | _ | _ | ⟨hwraps', hwritten, -⟩)
    rw [← hwraps'.trim_eq hwritten.bare, hwraps.trim_eq hbare] at hwritten
    exact hnone _ _ hwritten
  | tooLarge hwraps hwritten hnearest hlimit =>
    rintro (_ | _ | _ | @⟨text, core, negative, n, m, hwraps', hwritten', hnearest'⟩)
    -- both numerals are read off the same text, so they become the same number
    rw [← hwraps'.trim_eq hwritten'.bare, hwraps.trim_eq hwritten.bare] at hwritten'
    have hsame := (Numeral.parse?_eq_some_iff.2 ⟨_, _, hwritten, rfl⟩).symm.trans
      (Numeral.parse?_eq_some_iff.2 ⟨_, _, hwritten', rfl⟩)
    rw [Numeral.toBinary64_eq_finite_iff.2 ⟨rfl, hnearest'⟩, Option.some.injEq,
      Numeral.toBinary64_eq_finite_iff] at hsame
    exact Nat.not_lt.2 hlimit (hnearest.unique hsame.2 ▸ m.lt_limit)

end Json

namespace Record

/-- **A field is read exactly when it stands for a finite number.**  What is read is that number.
Every number of a JSON text is read, so every one in a record of a result file, and a numeral of at
most half a unit is read as the zero with its sign; `null`, `false`, lists, objects, names of
infinities and NaN, numerals that are too large and texts that are no numerals are not read.  Where
nothing is read, the default stands. -/
theorem figure_extracts (r : Record) (field : String) (default : Binary64) :
    (∀ v, r.figure? field = some v ↔ ∃ value, r.get? field = some value ∧ value.Denotes v) ∧
    (∀ v, r.figure? field = some v → v.isFinite) ∧
    (∀ x : JsonNumber, r.get? field = some (.scalar (.number x)) → x.Legible →
      r.figure? field = some x.toBinary64) ∧
    (∀ path content items, itemsOfContent path content = .ok items → r ∈ ofItems items →
      ∀ x : JsonNumber, r.get? field = some (.scalar (.number x)) →
        r.figure? field = some x.toBinary64) ∧
    (∀ text core negative n, r.get? field = some (.scalar (.string text)) →
      Text.Wraps text.toList core → Numeral.IsWritten core negative n →
      2 * (n.value * Binary64.one) ≤ 1 → r.figure? field = some (.zero negative)) ∧
    (∀ value, r.get? field = some value → value.IsNoNumber → r.figure? field = none) ∧
    (∀ v, r.figure? field = some v → r.figureD field default = v) ∧
    (r.figure? field = none → r.figureD field default = default) := by
  have hiff : ∀ v, r.figure? field = some v ↔ ∃ value, r.get? field = some value ∧
      value.Denotes v := by
    intro v
    simp only [figure?_eq_some_iff, Json.readsAs_iff_denotes]
  have hnumber : ∀ x : JsonNumber, r.get? field = some (.scalar (.number x)) → x.Legible →
      r.figure? field = some x.toBinary64 := fun x hx hlegible =>
    (figure?_eq_some_iff r field _).2 ⟨_, hx, .number x (JsonNumber.isFinite_toBinary64 hlegible)⟩
  refine ⟨hiff, fun v hv => ?_, hnumber, fun path content items hitems hr x hx => ?_,
    fun text core negative n htext hwraps hwritten hsmall => ?_, fun value hvalue hno => ?_,
    fun v hv => ?_, fun hnone => ?_⟩
  · exact (Option.filter_eq_some_iff.1 hv).2
  · have hlegible := legible_of_mem_ofItems hitems hr hx
    exact hnumber x hx (hlegible _ List.mem_cons_self)
  · have hnonneg : 0 ≤ n.value * Binary64.one := Binary64.value_nonneg ⟨n.significand, n.power⟩
    obtain ⟨m, hm, hunits⟩ := Binary64.exists_zero_eq_finite negative
    rw [hm]
    refine (hiff _).2 ⟨_, htext, .text hwraps hwritten ?_⟩
    rw [hunits]
    exact Binary64.isNearest_zero hnonneg hsmall
  · refine Option.eq_none_iff_forall_ne_some.2 fun v hv => ?_
    obtain ⟨value', hvalue', hdenotes⟩ := (hiff v).1 hv
    obtain rfl : value = value' := Option.some.inj (hvalue.symm.trans hvalue')
    exact hno.not_denotes hdenotes
  · rw [figureD, hv, Option.getD_some]
  · rw [figureD, hnone, Option.getD_none]

end Record

end BenchReport
