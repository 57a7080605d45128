import BenchReport.Proofs.Settings.Usable
import BenchReport.Proofs.Text.Digits
import BenchReport.Proofs.Text.Trim

/-!
# The size limit of the environment

The environment may hold a text that asks for a size limit.  Which texts ask for one is said here
without reading: but for white space at the ends a text is the digits of the limit, with any number
of zeros in front of them and a plus sign or none in front of all, and the limit is positive and
fits sixty-four bits.  Any other text leaves settings as they are.

## Main definitions

* `Settings.AsksForSize` — a text asks for a size limit.

## Main results

* `Settings.readSize?_append`, `Settings.exists_of_readSize?` — which texts are read, and as what.
* `Settings.sizeOverride?_eq_some_iff` — a limit is read from a text that asks for it.
* `Settings.environment_sets_size` — **the environment sets the limit that it asks for**, and
  nothing else.
-/

namespace BenchReport.Settings

/-- The text asks for a size limit of so many bytes. -/
structure AsksForSize (text : String) (bytes : Nat) : Prop where
  pos : 0 < bytes
  fits : bytes < 2 ^ 64
  written : ∃ sign zeros, (sign = [] ∨ sign = ['+']) ∧
    Text.Wraps text.toList (sign ++ (List.replicate zeros '0' ++ Text.digits bytes))

/-! ### Reading a natural number -/

variable {sign ds text : List Char} {n : Nat}

/-- Digits are read, with a plus sign or without, when their number is below the bound. -/
theorem readSize?_append (hsign : sign = [] ∨ sign = ['+']) (hne : ds ≠ [])
    (hds : ∀ c ∈ ds, c.isDigit) (hfits : Text.digitsValue ds < sizeBound) :
    readSize? (sign ++ ds) = some (Text.digitsValue ds) := by
  -- a digit is no plus sign, so without one the text itself is left
  have hrest : ∀ rest, ds ≠ '+' :: rest := by
    rintro rest rfl
    exact absurd (hds '+' List.mem_cons_self) (by decide)
  have hall : ds.all Char.isDigit = true := List.all_eq_true.2 hds
  rcases hsign with rfl | rfl
  · rw [List.nil_append, readSize?]
    · simp [hne, hall, hfits]
    · exact hrest
  · rw [List.singleton_append, readSize?]
    simp [hne, hall, hfits]

/-- What is read are digits with a plus sign or without. -/
theorem exists_of_readSize? (h : readSize? text = some n) :
    ∃ sign ds, (sign = [] ∨ sign = ['+']) ∧ text = sign ++ ds ∧ (∀ c ∈ ds, c.isDigit) ∧
      Text.digitsValue ds = n ∧ n < sizeBound := by
  -- what is left without the sign
  obtain ⟨sign, ds, hsign, htext, hread⟩ : ∃ sign ds, (sign = [] ∨ sign = ['+']) ∧
      text = sign ++ ds ∧ (if ds.isEmpty || !ds.all Char.isDigit then none
        else if Text.digitsValue ds < sizeBound then some (Text.digitsValue ds) else none) =
          some n := by
    unfold readSize? at h
    split at h
    · exact ⟨['+'], _, .inr rfl, rfl, h⟩
    · exact ⟨[], text, .inl rfl, rfl, h⟩
  split at hread
  · cases hread
  · rename_i hdigits
    split at hread
    · rename_i hfits
      obtain rfl := Option.some.inj hread
      simp only [Bool.or_eq_true, Bool.not_eq_true', not_or, Bool.not_eq_false] at hdigits
      exact ⟨sign, ds, hsign, htext, List.all_eq_true.1 hdigits.2, rfl, hfits⟩
    · cases hread

/-! ### What is asked for -/

theorem isBlank_eq_false_of_mem (hsign : sign = [] ∨ sign = ['+']) (hds : ∀ c ∈ ds, c.isDigit)
    {c : Char} (hc : c ∈ sign ++ ds) : Text.isBlank c = false := by
  rcases List.mem_append.1 hc with hc | hc
  · rcases hsign with rfl | rfl
    · cases hc
    · obtain rfl := List.mem_singleton.1 hc
      decide
  · exact Text.isBlank_eq_false_of_isDigit (hds c hc)

/-- **A limit is read from a text that asks for it**, and from no other. -/
theorem sizeOverride?_eq_some_iff {value : Option String} {bytes : Nat} :
    sizeOverride? value = some bytes ↔ ∃ text, value = some text ∧ AsksForSize text bytes := by
  rw [sizeOverride?, Option.filter_eq_some_iff, Option.bind_eq_some_iff, decide_eq_true_eq]
  constructor
  · rintro ⟨⟨text, hvalue, hread⟩, hpos⟩
    obtain ⟨sign, ds, hsign, htrim, hds, hn, hfits⟩ := exists_of_readSize? hread
    obtain ⟨zeros, rfl⟩ := (Text.forall_isDigit_and_digitsValue_iff hpos).1 ⟨hds, hn⟩
    exact ⟨text, hvalue, hpos, hfits, sign, zeros, hsign, htrim ▸ Text.wraps_trim text.toList⟩
  · rintro ⟨text, hvalue, hpos, hfits, sign, zeros, hsign, hwraps⟩
    have hds : ∀ c ∈ List.replicate zeros '0' ++ Text.digits bytes, c.isDigit :=
      fun _ => Text.isDigit_of_mem_zeros_append
    have hne : List.replicate zeros '0' ++ Text.digits bytes ≠ [] :=
      List.append_ne_nil_of_right_ne_nil _ (Text.digits_ne_nil bytes)
    have hvalue' := Text.digitsValue_zeros_append zeros bytes
    refine ⟨⟨text, hvalue, ?_⟩, hpos⟩
    rw [hwraps.trim_eq (Text.bare_of_forall fun _ => isBlank_eq_false_of_mem hsign hds),
      readSize?_append hsign hne hds (hvalue'.symm ▸ hfits), hvalue']

theorem sizeOverride?_eq_none_iff {value : Option String} : sizeOverride? value = none ↔
    ∀ bytes, ¬ ∃ text, value = some text ∧ AsksForSize text bytes := by
  simp only [← sizeOverride?_eq_some_iff]
  exact Option.eq_none_iff_forall_ne_some

example : sizeOverride? (some "18446744073709551616") = none := by decide +kernel

/-! ### What is set -/

variable {value : Option String} {bytes : Nat}

theorem maxFileSize_withSizeOverride (s : Settings) (value : Option String) :
    (s.withSizeOverride value).maxFileSize = (sizeOverride? value).getD s.maxFileSize := by
  rw [withSizeOverride_eq]

/-- A limit was read when all settings have it afterwards. -/
theorem sizeOverride?_eq_some_iff_forall : sizeOverride? value = some bytes ↔
    ∀ s : Settings, s.withSizeOverride value = { s with maxFileSize := bytes } := by
  constructor
  · intro h s
    rw [withSizeOverride_eq, h]
    rfl
  · intro h
    -- settings that had another limit before
    have hlimit := congrArg maxFileSize (h { new ⟨""⟩ with maxFileSize := bytes + 1 })
    rw [maxFileSize_withSizeOverride] at hlimit
    cases hvalue : sizeOverride? value with
    | none =>
      rw [hvalue] at hlimit
      exact absurd hlimit (Nat.succ_ne_self bytes)
    | some other =>
      rw [hvalue] at hlimit
      exact congrArg some hlimit

/-- None was read when all settings stay as they are. -/
theorem sizeOverride?_eq_none_iff_forall : sizeOverride? value = none ↔
    ∀ s : Settings, s.withSizeOverride value = s := by
  constructor
  · intro h s
    rw [withSizeOverride, h]
  · intro h
    -- no limit that is read is zero
    have hlimit := congrArg maxFileSize (h { new ⟨""⟩ with maxFileSize := 0 })
    rw [maxFileSize_withSizeOverride] at hlimit
    cases hvalue : sizeOverride? value with
    | none => rfl
    | some other =>
      rw [hvalue] at hlimit
      exact absurd hlimit (Nat.ne_of_gt (sizeOverride?_pos hvalue))

/-- **The environment sets the size limit that it asks for, and nothing else.**

It makes all settings the same settings with a limit of so many bytes when its variable holds a text
that asks for this limit, and only then; and it leaves all settings as they are when there is no
text in the variable or one that asks for no limit, and only then.  Settings that could be used can
still be used, and asking again changes nothing. -/
theorem environment_sets_size (value : Option String) :
    (∀ bytes, (∃ text, value = some text ∧ AsksForSize text bytes) ↔
      ∀ s : Settings, s.withSizeOverride value = { s with maxFileSize := bytes }) ∧
    ((∀ bytes, ¬ ∃ text, value = some text ∧ AsksForSize text bytes) ↔
      ∀ s : Settings, s.withSizeOverride value = s) ∧
    ∀ s : Settings,
      (s.validate = .ok () → (s.withSizeOverride value).validate = .ok ()) ∧
      (s.withSizeOverride value).withSizeOverride value = s.withSizeOverride value := by
  refine ⟨fun bytes => sizeOverride?_eq_some_iff.symm.trans sizeOverride?_eq_some_iff_forall,
    sizeOverride?_eq_none_iff.symm.trans sizeOverride?_eq_none_iff_forall,
    fun s => ⟨fun hvalid => ?_, ?_⟩⟩
  · rw [validate_eq_ok_iff] at hvalid ⊢
    rw [withSizeOverride_eq]
    exact ⟨hvalid.1, sizeOverride?_getD_pos hvalid.2 value⟩
  · rw [withSizeOverride_eq, withSizeOverride_eq]
    cases sizeOverride? value <;> rfl

/-- The greatest limit, with a plus sign, zeros in front and white space around it. -/
def greatestSize : String := "\t+0018446744073709551615\u3000"

theorem environment_sets_greatestSize :
    AsksForSize greatestSize (2 ^ 64 - 1) ∧
    (new ⟨"results"⟩).withSizeOverride (some greatestSize) =
      { new ⟨"results"⟩ with maxFileSize := 2 ^ 64 - 1 } ∧
    (new ⟨"results"⟩).validate = .ok () ∧
    ((new ⟨"results"⟩).withSizeOverride (some greatestSize)).validate = .ok () := by
  have hasks : AsksForSize greatestSize (2 ^ 64 - 1) :=
    ⟨by decide, by decide, ['+'], 2, .inr rfl, ['\t'], ['\u3000'], by decide +kernel,
      List.forall_mem_singleton.2 (by decide), List.forall_mem_singleton.2 (by decide)⟩
  obtain ⟨hsets, -, hkeeps⟩ := environment_sets_size (some greatestSize)
  exact ⟨hasks, (hsets _).1 ⟨_, rfl, hasks⟩ _, rfl, (hkeeps _).1 rfl⟩

end BenchReport.Settings
