import BenchReport.Proofs.Binary64.Value
import BenchReport.Proofs.Record.Numbers
import Mathlib.Logic.Equiv.Fin.Rotate
import Mathlib.Order.Bounds.Defs
import Mathlib.Order.Fin.Basic
import Mathlib.Order.Hom.Basic
import Mathlib.Tactic.FinCases

/-!
# The search for a record

A record matches a search when it is of the scenario and satisfies the condition.  The search finds
the matching record with the least place in the list, and the empty record when nothing matches; no
matching record is empty, so the one is never taken for the other.  A list can therefore be searched
part by part, and records of other scenarios may stand anywhere or be missing.  A search for a
number finds numbers only, and compares their values.

## Main definitions

* `Record.BelongsTo`, `Record.Matches` — a record is of a scenario, and is one that is searched for.
* `Record.places` — where the matching records of a list stand.

## Main results

* `Record.findWhere_cases` — the first match is found, or nothing matches.
* `Record.findWhere_append` — **a list is searched part by part.**
* `Record.findWhere_of_places` — **only the order of the records of the scenario counts.**
* `Record.hasNumber_iff_of_isFinite` — which fields have a certain number.
* `Record.findWhere_first_match` — **the search finds the first match and nothing else.**
-/

namespace BenchReport

namespace Record

/-- The record is of a scenario: the text in its `test` field is the name. -/
def BelongsTo (r : Record) (name : String) : Prop :=
  r.get? "test" = some (.scalar (.string name))

/-- The record is of the scenario and satisfies the condition. -/
def Matches (r : Record) (name : String) (accepts : Record → Bool) : Prop :=
  r.BelongsTo name ∧ accepts r = true

/-- Where the matching records of a list stand. -/
def places (records : List Record) (name : String) (accepts : Record → Bool) : Set Nat :=
  {i | ∃ h : i < records.length, records[i].Matches name accepts}

variable {r s : Record} {records others : List Record} {name field : String}
  {accepts : Record → Bool} {v w : Binary64}

theorem matches_iff :
    (r.scenario? == some name && accepts r) = true ↔ r.Matches name accepts := by
  rw [Matches, BelongsTo, Bool.and_eq_true, beq_iff_eq, scenario?_eq_some_iff]

/-- A matching record has a field, the one that names the scenario. -/
theorem Matches.isEmpty_eq_false (h : r.Matches name accepts) : r.isEmpty = false := by
  obtain ⟨fields⟩ := r
  cases fields with
  | nil => cases h.1
  | cons field rest => rfl

theorem isEmpty_empty : empty.isEmpty = true := rfl

/-! ### The first match -/

variable (records name accepts) in
/-- **The first match is found, or there is none.** -/
theorem findWhere_cases :
    (∃ i, ∃ hi : i < records.length, IsLeast (places records name accepts) i ∧
      findWhere records name accepts = records[i]) ∨
    (∀ r ∈ records, ¬ r.Matches name accepts) ∧ findWhere records name accepts = empty := by
  rw [findWhere]
  cases hfind : records.find? fun r => r.scenario? == some name && accepts r with
  | none =>
    rw [List.find?_eq_none] at hfind
    exact .inr ⟨fun r hr hmatch => hfind r hr (matches_iff.2 hmatch), rfl⟩
  | some found =>
    obtain ⟨hmatch, i, hi, rfl, hbefore⟩ := List.find?_eq_some_iff_getElem.1 hfind
    refine .inl ⟨i, hi, ⟨⟨hi, matches_iff.1 hmatch⟩, ?_⟩, rfl⟩
    rintro j ⟨hj, hmatch'⟩
    -- nothing in front of the record that is found matches
    by_contra hlt
    have hother := hbefore j (Nat.lt_of_not_le hlt)
    rw [matches_iff.2 hmatch'] at hother
    cases hother

theorem findWhere_eq_of_isLeast {i : Nat} (hi : i < records.length)
    (h : IsLeast (places records name accepts) i) :
    findWhere records name accepts = records[i] := by
  rcases findWhere_cases records name accepts with ⟨j, hj, hleast, hfound⟩ | ⟨hnone, -⟩
  · obtain rfl := hleast.unique h
    exact hfound
  · exact absurd h.1.2 (hnone _ (List.getElem_mem hi))

theorem findWhere_eq_empty (h : ∀ r ∈ records, ¬ r.Matches name accepts) :
    findWhere records name accepts = empty := by
  rcases findWhere_cases records name accepts with ⟨i, hi, hleast, -⟩ | ⟨-, hempty⟩
  · exact absurd hleast.1.2 (h _ (List.getElem_mem hi))
  · exact hempty

/-- **Nothing is found exactly when nothing matches.** -/
theorem isEmpty_findWhere_iff : (findWhere records name accepts).isEmpty = true ↔
    ∀ r ∈ records, ¬ r.Matches name accepts := by
  refine ⟨fun hempty => ?_, fun hnone => by rw [findWhere_eq_empty hnone, isEmpty_empty]⟩
  rcases findWhere_cases records name accepts with ⟨i, hi, hleast, hfound⟩ | ⟨hnone, -⟩
  · obtain ⟨_, hmatch⟩ := hleast.1
    rw [hfound, hmatch.isEmpty_eq_false] at hempty
    cases hempty
  · exact hnone

/-- What is found stands at the least of the places. -/
theorem exists_isLeast_of_findWhere (h : (findWhere records name accepts).isEmpty = false) :
    ∃ i, IsLeast (places records name accepts) i ∧
      records[i]? = some (findWhere records name accepts) := by
  rcases findWhere_cases records name accepts with ⟨i, hi, hleast, hfound⟩ | ⟨-, hempty⟩
  · exact ⟨i, hleast, by rw [hfound, List.getElem?_eq_getElem hi]⟩
  · rw [hempty, isEmpty_empty] at h
    cases h

/-- What is found matches. -/
theorem matches_findWhere (h : (findWhere records name accepts).isEmpty = false) :
    (findWhere records name accepts).Matches name accepts := by
  obtain ⟨i, ⟨⟨hi, hmatch⟩, -⟩, hfound⟩ := exists_isLeast_of_findWhere h
  rw [List.getElem?_eq_getElem hi, Option.some.injEq] at hfound
  exact hfound ▸ hmatch

/-! ### Lists in parts, and lists in another order -/

variable (records others name accepts) in
/-- **A list is searched part by part.** -/
theorem findWhere_append : findWhere (records ++ others) name accepts =
    if (findWhere records name accepts).isEmpty then findWhere others name accepts
    else findWhere records name accepts := by
  cases hfind : records.find? fun r => r.scenario? == some name && accepts r with
  | none =>
    have hempty : findWhere records name accepts = empty := by rw [findWhere, hfind]; rfl
    rw [hempty, isEmpty_empty, if_pos rfl, findWhere, List.find?_append, hfind, Option.none_or]
    rfl
  | some found =>
    have hfound : findWhere records name accepts = found := by rw [findWhere, hfind]; rfl
    have hmatch : found.Matches name accepts := by
      rw [← matches_iff]
      exact List.find?_some (p := fun r => r.scenario? == some name && accepts r) hfind
    rw [hfound, hmatch.isEmpty_eq_false, if_neg Bool.false_ne_true, findWhere, List.find?_append,
      hfind, Option.some_or]
    rfl

/-- **Only the order of the records of the scenario counts.**  When `place` says where the records
stand in another list, in which what else there is belongs to other scenarios, the first match goes
to the first match. -/
theorem findWhere_of_places {place : Fin records.length → Fin others.length}
    (hsame : ∀ i, others[place i] = records[i])
    (horder : StrictMonoOn place {i | records[i].BelongsTo name})
    (hothers : ∀ j, others[j].BelongsTo name → j ∈ Set.range place) :
    findWhere others name accepts = findWhere records name accepts := by
  -- every match in the other list stands where one of this list has gone
  have hfrom : ∀ j : Fin others.length, others[j].Matches name accepts →
      ∃ i, place i = j ∧ records[i].Matches name accepts := by
    intro j hmatch
    obtain ⟨i, rfl⟩ := hothers j hmatch.1
    exact ⟨i, rfl, hsame i ▸ hmatch⟩
  rcases findWhere_cases records name accepts with ⟨i, hi, hleast, hfound⟩ | ⟨hnone, hempty⟩
  · obtain ⟨⟨_, hmatch⟩, hlower⟩ := hleast
    have hplace : others[place ⟨i, hi⟩] = records[i] := hsame ⟨i, hi⟩
    rw [hfound, ← hplace]
    refine findWhere_eq_of_isLeast (place ⟨i, hi⟩).isLt ⟨⟨(place ⟨i, hi⟩).isLt, ?_⟩, ?_⟩
    · exact hplace ▸ hmatch
    · rintro j ⟨hj, hmatch'⟩
      obtain ⟨k, hk, hmatchk⟩ := hfrom ⟨j, hj⟩ hmatch'
      have hle : place ⟨i, hi⟩ ≤ place k :=
        horder.monotoneOn hmatch.1 hmatchk.1 (hlower ⟨k.isLt, hmatchk⟩)
      rw [hk] at hle
      exact hle
  · rw [hempty]
    refine findWhere_eq_empty fun r hr hmatch => ?_
    obtain ⟨j, hj, rfl⟩ := List.getElem_of_mem hr
    obtain ⟨i, -, hmatchi⟩ := hfrom ⟨j, hj⟩ hmatch
    exact hnone _ (List.getElem_mem i.isLt) hmatchi

/-! ### Searches for a number -/

/-- A field is one number at most. -/
theorem same_of_hasNumber (hv : r.hasNumber field v = true) (hw : r.hasNumber field w = true) :
    v ≤ w ∧ w ≤ v := by
  obtain ⟨x, hx, hxv⟩ := (r.hasNumber_iff field v).1 hv
  obtain ⟨y, hy, hyw⟩ := (r.hasNumber_iff field w).1 hw
  obtain rfl : x = y := by simpa using hx.symm.trans hy
  rw [Binary64.sameNumber_iff] at hxv hyw
  exact ⟨Binary64.le_trans hxv.2 hyw.1, Binary64.le_trans hyw.2 hxv.1⟩

theorem hasNumber_nan (r : Record) (field : String) : r.hasNumber field .nan = false := by
  rw [Bool.eq_false_iff]
  intro h
  obtain ⟨x, -, hsame⟩ := (r.hasNumber_iff field .nan).1 h
  rw [Binary64.sameNumber_nan] at hsame
  cases hsame

/-- **A field has a finite number when it is a number of that value**, and no other kind of value
has one. -/
theorem hasNumber_iff_of_isFinite (hv : v.isFinite) : r.hasNumber field v = true ↔
    ∃ x u, r.get? field = some (.scalar (.number x)) ∧ (Json.scalar (.number x)).Denotes u ∧
      u.toRat = v.toRat := by
  constructor
  · intro h
    obtain ⟨x, hx, hsame⟩ := (r.hasNumber_iff field v).1 h
    obtain ⟨hfinite, hrat⟩ := (Binary64.sameNumber_iff_toRat_eq hv).1 hsame
    exact ⟨x, _, hx, Json.readsAs_iff_denotes.1 (.number x hfinite), hrat⟩
  · rintro ⟨x, u, hx, hu, hrat⟩
    obtain ⟨hread, hfinite⟩ := (readsAs_iff _ u).1 (Json.readsAs_iff_denotes.2 hu)
    obtain rfl : x.toBinary64 = u := Option.some.inj hread
    have hsame : x.toBinary64.sameNumber v = true :=
      (Binary64.sameNumber_iff_toRat_eq hv).2 ⟨hfinite, hrat⟩
    exact (r.hasNumber_iff field v).2 ⟨x, hx, hsame⟩

/-- **An integer has the numbers that a number of its value has.** -/
theorem hasNumber_integer_eq {k : Int} {x : Binary64}
    (hr : r.get? field = some (.scalar (.number (.integer k))))
    (hs : s.get? field = some (.scalar (.number (.real x)))) (hx : x.isFinite)
    (hvalue : x.toRat = k) (v : Binary64) : r.hasNumber field v = s.hasNumber field v := by
  rw [hasNumber, hasNumber, hr, hs]
  exact Binary64.sameNumber_ofInt_of_toRat hx hvalue v

/-- **No record is found in the searches for two numbers that are not the same.** -/
theorem isEmpty_of_findVariant_eq (hne : ¬ (v ≤ w ∧ w ≤ v))
    (hfound : findVariant records name field v = findVariant records name field w) :
    (findVariant records name field v).isEmpty = true := by
  by_contra hempty
  rw [Bool.not_eq_true] at hempty
  have hempty' : (findVariant records name field w).isEmpty = false := hfound ▸ hempty
  have hv : (findVariant records name field v).Matches name (·.hasNumber field v) :=
    matches_findWhere hempty
  have hw : (findVariant records name field w).Matches name (·.hasNumber field w) :=
    matches_findWhere hempty'
  -- the record that both searches find would have both numbers
  rw [hfound] at hv
  exact hne (same_of_hasNumber hv.2 hw.2)

theorem findVariant_nan (records : List Record) (name field : String) :
    findVariant records name field .nan = empty := by
  refine findWhere_eq_empty fun r _ hmatch => ?_
  rw [Matches, hasNumber_nan] at hmatch
  exact Bool.false_ne_true hmatch.2

/-- **The search finds the first match and nothing else.**

A list in two parts is searched part by part.  Nothing is found exactly when no record is of the
scenario and satisfies the condition; otherwise what is found stands at the least of the places
where such a record stands, and is not empty, because no such record is.  So another order of the
list makes no difference when the records of the scenario keep theirs, and neither do records of
other scenarios that are put in or left out.

No place of the list counts in the searches for two numbers that are not the same, and no record is
found in both.  Only numbers are found, by their value, so that the integer and any other form of a
number count alike; and nothing is found for a NaN. -/
theorem findWhere_first_match (records : List Record) (name : String) :
    (∀ accepts others, findWhere (records ++ others) name accepts =
      if (findWhere records name accepts).isEmpty then findWhere others name accepts
      else findWhere records name accepts) ∧
    (∀ accepts,
      ((findWhere records name accepts).isEmpty = true ↔
        ∀ r ∈ records, ¬ r.Matches name accepts) ∧
      (∀ r : Record, r.Matches name accepts → r.isEmpty = false) ∧
      ((findWhere records name accepts).isEmpty = false →
        ∃ i, IsLeast (places records name accepts) i ∧
          records[i]? = some (findWhere records name accepts))) ∧
    (∀ others (place : Fin records.length ≃ Fin others.length),
      (∀ i, others[place i] = records[i]) →
      StrictMonoOn place {i | records[i].BelongsTo name} →
      ∀ accepts, findWhere others name accepts = findWhere records name accepts) ∧
    (∀ others (place : Fin records.length ↪o Fin others.length),
      (∀ i, others[place i] = records[i]) →
      (∀ j, j ∉ Set.range place → ¬ others[j].BelongsTo name) →
      ∀ accepts, findWhere others name accepts = findWhere records name accepts) ∧
    ∀ field,
      (∀ v w, ¬ (v ≤ w ∧ w ≤ v) →
        (∀ i ∈ places records name (·.hasNumber field v),
          i ∉ places records name (·.hasNumber field w)) ∧
        (findVariant records name field v = findVariant records name field w →
          (findVariant records name field v).isEmpty = true)) ∧
      (∀ (r : Record) v, r.hasNumber field v = true →
        ∃ x, r.get? field = some (.scalar (.number x))) ∧
      (∀ (r : Record) v, v.isFinite → (r.hasNumber field v = true ↔
        ∃ x u, r.get? field = some (.scalar (.number x)) ∧
          (Json.scalar (.number x)).Denotes u ∧ u.toRat = v.toRat)) ∧
      (∀ (r s : Record) (k : Int) x, r.get? field = some (.scalar (.number (.integer k))) →
        s.get? field = some (.scalar (.number (.real x))) → x.isFinite → x.toRat = k →
        ∀ v, r.hasNumber field v = s.hasNumber field v) ∧
      findVariant records name field .nan = empty := by
  refine ⟨fun accepts others => findWhere_append records others name accepts,
    fun accepts => ⟨isEmpty_findWhere_iff, fun r => Matches.isEmpty_eq_false,
      exists_isLeast_of_findWhere⟩,
    ?_, ?_, fun field => ⟨fun v w hne => ⟨fun i hv hw => ?_, fun hfound => ?_⟩, fun r v h => ?_,
      fun r v => hasNumber_iff_of_isFinite, fun r s k x => hasNumber_integer_eq, ?_⟩⟩
  · intro others place hsame horder accepts
    exact findWhere_of_places hsame horder fun j _ => place.surjective j
  · intro others place hsame hothers accepts
    refine findWhere_of_places hsame (place.strictMono.strictMonoOn _) fun j hj => ?_
    by_contra hrange
    exact hothers j hrange hj
  · obtain ⟨_, -, hv⟩ := hv
    obtain ⟨_, -, hw⟩ := hw
    exact hne (same_of_hasNumber hv hw)
  · exact isEmpty_of_findVariant_eq hne hfound
  · obtain ⟨x, hx, -⟩ := (r.hasNumber_iff field v).1 h
    exact ⟨x, hx⟩
  · exact findVariant_nan records name field

/-- A record of another scenario than the sized ones. -/
def rateRecord : Record := ⟨[("test", .ofString "server_connection_rate")]⟩

theorem not_belongsTo_rateRecord : ¬ rateRecord.BelongsTo smallRun.scenario := by
  rw [BelongsTo, ← scenario?_eq_some_iff]
  decide

/-- The first run of one size is found wherever a record of another scenario stands, and also
without it; it stands at no place of a run of the other size.  The size is the same number as an
integer and in another form. -/
theorem findWhere_first_match_sizedRecords :
    findVariant (sizedRecords ++ [rateRecord]) smallRun.scenario "message_size_bytes" 64 =
      findVariant (rateRecord :: sizedRecords) smallRun.scenario "message_size_bytes" 64 ∧
    findVariant (rateRecord :: sizedRecords) smallRun.scenario "message_size_bytes" 64 =
      findVariant sizedRecords smallRun.scenario "message_size_bytes" 64 ∧
    (∃ i, sizedRecords[i]? =
        some (findVariant sizedRecords smallRun.scenario "message_size_bytes" 64) ∧
      i ∉ places sizedRecords smallRun.scenario (·.hasNumber "message_size_bytes" 1024)) ∧
    ∀ v, (sizedRecord (.integer 64) "messages_per_sec" 7).hasNumber "message_size_bytes" v =
      (sizedRecord (.real 64) "throughput_mb_sec" 5).hasNumber "message_size_bytes" v := by
  obtain ⟨-, -, hmoved, -, -⟩ :=
    findWhere_first_match (rateRecord :: sizedRecords) smallRun.scenario
  obtain ⟨-, hfound, -, hadded, hnumbers⟩ := findWhere_first_match sizedRecords smallRun.scenario
  obtain ⟨hapart, -, -, halike, -⟩ := hnumbers "message_size_bytes"
  refine ⟨hmoved (sizedRecords ++ [rateRecord]) (finRotate 4).symm ?_ ?_ _,
    hadded (rateRecord :: sizedRecords) (Fin.succOrderEmb 3) (fun i => rfl) ?_ _, ?_,
    halike _ _ 64 64 rfl rfl ?_ ?_⟩
  · intro i
    fin_cases i <;> rfl
  · intro i hi j hj hij
    have hfirst : i ≠ 0 := by
      rintro rfl
      exact not_belongsTo_rateRecord hi
    have hrest : ∀ i j : Fin 4, i ≠ 0 → i < j → (finRotate 4).symm i < (finRotate 4).symm j := by
      decide
    exact hrest i j hfirst hij
  · intro j hj
    cases j using Fin.cases with
    | zero => exact not_belongsTo_rateRecord
    | succ i => exact absurd ⟨i, rfl⟩ hj
  · have hsmall : (findVariant sizedRecords smallRun.scenario "message_size_bytes" 64).isEmpty =
        false := by decide +kernel
    have hne : ¬ ((64 : Binary64) ≤ 1024 ∧ (1024 : Binary64) ≤ 64) := by decide +kernel
    obtain ⟨i, hleast, hplace⟩ := (hfound (·.hasNumber "message_size_bytes" 64)).2.2 hsmall
    exact ⟨i, hplace, (hapart 64 1024 hne).1 i hleast.1⟩
  · exact Binary64.isFinite_ofNat_of_le (by decide)
  · exact_mod_cast Binary64.toRat_ofNat (show 64 ≤ 2 ^ 53 by decide)

end Record

end BenchReport
