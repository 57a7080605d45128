import BenchReport.Proofs.Binary64.Scaling
import BenchReport.Proofs.Json.Moves
import BenchReport.Proofs.Json.Pretty
import BenchReport.Results.Load

/-!
# What is read can be written and read again

Every number that is read is finite, or an integer of the range that is read as integers, and no
value that is read is nested too deeply.  So a value that was read has a written form, and that can
be read.

## Main definitions

* `Json.Fits` — a value can be written and read inside some open containers.
* `Json.Frame.Fits`, `Json.Progress.Fits` — so can all values read so far.

## Main results

* `JsonNumber.isFinite_toBinary64`, `JsonNumber.legible_of_ofNumeral?` — the numbers that are read.
* `Token.legible_of_scan?` — so the tokens that are scanned can be written.
* `Json.Progress.fits_of_step` — **what was read fits after one more token, too.**
* `Json.fits_of_parse?` — **what is read can be written and read again.**
* `Record.legible_of_mem_ofItems` — so can every value in a record of a result file.
-/

namespace BenchReport

/-! ### Numbers -/

namespace Binary64

/-- A power of ten that is not too large becomes a finite number, which is no less than one. -/
theorem exists_ofNat_ten_pow {k : Nat} (hk : k ≤ JsonNumber.topPower) :
    ∃ m, ofNat (10 ^ k) = .finite false m ∧ one ≤ m.units := by
  have hle : 10 ^ k * one ≤ 10 ^ JsonNumber.topPower * one :=
    Nat.mul_le_mul_right _ (Nat.pow_le_pow_right (by decide) hk)
  have htop := JsonNumber.ten_pow_topPower_lt
  have hlt : nearest (10 ^ k * one) 1 < limit := nearest_lt_limit (by omega)
  have hone : gap one ∣ one := by
    have hgap := gap_mul_one_dvd (n := 1) (by decide)
    rwa [Nat.one_mul] at hgap
  refine ⟨_, round_eq_finite hlt, le_nearest_of_dvd hone ?_⟩
  rw [Nat.div_one]
  exact Nat.le_mul_of_pos_left _ (Nat.pow_pos (by decide))

/-- A finite number that is divided by one no less than one stays finite. -/
theorem isFinite_div_of_one_le {x : Binary64} (hx : x.isFinite) {t : Bool} {b : Magnitude}
    (hb : one ≤ b.units) : (x / .finite t b).isFinite := by
  obtain ⟨s, a, rfl⟩ := exists_eq_finite hx
  have hpos : 0 < b.units := Nat.lt_of_lt_of_le one_pos hb
  have hle : nearest (a.units * one) b.units ≤ a.units :=
    nearest_le_of_dvd a.onGrid hpos (Nat.mul_le_mul_left _ hb)
  rw [finite_div_finite _ _ _ _ hpos.ne', round_eq_finite (Nat.lt_of_le_of_lt hle a.lt_limit)]
  rfl

theorem isFinite_neg {x : Binary64} (hx : x.isFinite) : (-x).isFinite := by
  obtain ⟨s, m, rfl⟩ := exists_eq_finite hx
  rfl

end Binary64

namespace JsonNumber

theorem isFinite_div_ten_pow {x : Binary64} (hx : x.isFinite) {k : Nat} (hk : k ≤ topPower) :
    (x / .ofNat (Nat.pow 10 k)).isFinite := by
  obtain ⟨m, hm, hone⟩ := Binary64.exists_ofNat_ten_pow hk
  rw [Nat.pow_eq, hm]
  exact Binary64.isFinite_div_of_one_le hx hone

theorem isFinite_scaleDown {x : Binary64} {power : Nat} (hx : x.isFinite) :
    (scaleDown x power).isFinite := by
  fun_induction scaleDown x power with
  | case1 x power hpower => exact isFinite_div_ten_pow hx hpower
  | case2 x power hpower hzero => exact hx
  | case3 x power hpower hzero ih => exact ih (isFinite_div_ten_pow hx le_rfl)

theorem isFinite_of_scaleUp? {x y : Binary64} {power : Nat} (hx : x.isFinite)
    (h : scaleUp? x power = some y) : y.isFinite := by
  simp only [scaleUp?] at h
  split at h
  · split at h
    · rename_i hfinite
      exact Option.some.inj h ▸ hfinite
    · cases h
  · split at h
    · exact Option.some.inj h ▸ hx
    · cases h

theorem pushWhole_lt {s : Collected} (h : s.significand < wordLimit) (c : Char) :
    (s.pushWhole c).significand < wordLimit := by
  simp only [Collected.pushWhole]
  split
  · exact h
  · rename_i hroom
    simp only [Bool.or_eq_true, decide_eq_true_eq, not_or, not_le] at hroom
    exact hroom.2

theorem pushFraction_lt {s : Collected} (h : s.significand < wordLimit) (c : Char) :
    (s.pushFraction c).significand < wordLimit := by
  simp only [Collected.pushFraction]
  split
  · exact h
  · rename_i hroom
    simp only [Bool.or_eq_true, decide_eq_true_eq, not_or, not_le] at hroom
    exact hroom.2

/-- The digits that are collected fit sixty-four bits. -/
theorem significand_collectWhole_lt (n : Numeral) : (collectWhole n).significand < wordLimit :=
  List.foldlRecOn (motive := fun s : Collected => s.significand < wordLimit) n.whole _
    (by decide : (0 : Nat) < wordLimit) fun _ h c _ => pushWhole_lt h c

theorem significand_collect_lt (n : Numeral) : (collect n).significand < wordLimit :=
  List.foldlRecOn (motive := fun s : Collected => s.significand < wordLimit) n.fractionDigits _
    (significand_collectWhole_lt n) fun _ h c _ => pushFraction_lt h c

/-- An integer of sixty-four bits becomes a finite number. -/
theorem isFinite_round {k : Nat} (h : k < wordLimit) (negative : Bool) :
    (Binary64.round negative (k * Binary64.one) 1).isFinite := by
  have hbound : 2 * (wordLimit * Binary64.one) + Binary64.topGap < 2 * Binary64.limit := by
    decide +kernel
  have hk : k * Binary64.one ≤ wordLimit * Binary64.one := Nat.mul_le_mul_right _ h.le
  rw [Binary64.round_eq_finite (Binary64.nearest_lt_limit (by omega))]
  rfl

theorem isFinite_ofNat {k : Nat} (h : k < wordLimit) : (Binary64.ofNat k).isFinite := by
  rw [Binary64.ofNat]
  exact isFinite_round h false

/-- A number of a JSON text becomes a finite number. -/
theorem isFinite_toBinary64 {x : JsonNumber} (h : x.Legible) : x.toBinary64.isFinite := by
  cases x with
  | integer k =>
    obtain ⟨hlow, hhigh⟩ := h
    have hfits : k.natAbs < wordLimit := by
      rw [wordLimit, Nat.pow_eq]
      omega
    rw [toBinary64, Binary64.ofInt]
    exact isFinite_round hfits _
  | real x => exact h

theorem isFinite_of_magnitude? {n : Numeral} {x : Binary64} (h : magnitude? n = some x) :
    x.isFinite := by
  have hfinite := isFinite_ofNat (significand_collect_lt n)
  simp only [magnitude?] at h
  split at h
  · split at h
    · exact Option.some.inj h ▸ isFinite_ofNat (by decide)
    · cases h
  · split at h
    · exact isFinite_of_scaleUp? hfinite h
    · exact Option.some.inj h ▸ isFinite_scaleDown hfinite

/-- **The numbers that are read** are finite, or integers of the range. -/
theorem legible_of_ofNumeral? {negative : Bool} {n : Numeral} {x : JsonNumber}
    (h : ofNumeral? negative n = some x) : x.Legible := by
  have hlt := significand_collectWhole_lt n
  rw [wordLimit, Nat.pow_eq] at hlt
  simp only [ofNumeral?] at h
  split at h
  · obtain rfl := Option.some.inj h
    exact ⟨by omega, by omega⟩
  · split at h
    · rename_i hsmall
      simp only [Bool.and_eq_true, decide_eq_true_eq, Nat.pow_eq] at hsmall
      have hle := hsmall.2
      obtain rfl := Option.some.inj h
      exact ⟨by omega, by omega⟩
    · obtain ⟨y, hy, rfl⟩ := Option.map_eq_some_iff.1 h
      have hfinite := isFinite_of_magnitude? hy
      cases negative with
      | false => exact hfinite
      | true => exact Binary64.isFinite_neg hfinite

end JsonNumber

/-! ### Tokens -/

namespace Token

theorem legible_of_readNumber? {negative : Bool} {text rest : List Char} {x : JsonNumber}
    (h : readNumber? negative text = some (x, rest)) : x.Legible := by
  unfold readNumber? at h
  split at h
  · cases h
  · split at h
    · obtain ⟨y, hy, hpair⟩ := Option.map_eq_some_iff.1 h
      obtain ⟨rfl, -⟩ := Prod.mk.inj hpair
      exact JsonNumber.legible_of_ofNumeral? hy
    · cases h

theorem legible_of_next? {c : Char} {rest rest' : List Char} {t : Token}
    (h : next? c rest = some (t, rest')) : t.Legible := by
  have hnumber : ∀ {negative : Bool} {text : List Char},
      (readNumber? negative text).map (fun read => (Token.scalar (.number read.1), read.2)) =
        some (t, rest') → t.Legible := by
    intro negative text h
    obtain ⟨⟨x, tail⟩, hread, hpair⟩ := Option.map_eq_some_iff.1 h
    obtain ⟨rfl, -⟩ := Prod.mk.inj hpair
    exact legible_of_readNumber? hread
  unfold next? at h
  split at h
  case h_7 =>
    obtain ⟨⟨cs, tail⟩, -, hpair⟩ := Option.map_eq_some_iff.1 h
    obtain ⟨rfl, -⟩ := Prod.mk.inj hpair
    exact trivial
  case h_11 => exact hnumber h
  case h_12 =>
    split at h
    · exact hnumber h
    · cases h
  all_goals
    obtain ⟨rfl, -⟩ := Prod.mk.inj (Option.some.inj h)
    exact trivial

/-- The tokens that are scanned can be written. -/
theorem legible_of_scan? {text : List Char} {ts : List Token} (h : scan? text = some ts) :
    ∀ t ∈ ts, t.Legible := by
  fun_induction scan? text generalizing ts with
  | case1 =>
    obtain rfl := Option.some.inj h
    exact fun t ht => absurd ht List.not_mem_nil
  | case2 c rest hspace ih => exact ih h
  | case3 => cases h
  | case4 c rest hspace t rest' hnext hlt ih =>
    obtain ⟨us, hus, rfl⟩ := Option.map_eq_some_iff.1 h
    exact List.forall_mem_cons.2 ⟨legible_of_next? hnext, ih hus⟩

end Token

/-! ### Values -/

namespace Json

theorem forall_mem_putField {p : Json → Prop} {key : String} {v : Json}
    {fields : List (String × Json)} (hv : p v) (h : ∀ f ∈ fields, p f.2) :
    ∀ f ∈ putField key v fields, p f.2 := by
  fun_induction putField key v fields with
  | case1 => exact List.forall_mem_singleton.2 hv
  | case2 k w rest hlt => exact List.forall_mem_cons.2 ⟨hv, h⟩
  | case3 w rest hlt => exact List.forall_mem_cons.2 ⟨hv, (List.forall_mem_cons.1 h).2⟩
  | case4 k w rest hlt hne ih =>
    obtain ⟨hw, hrest⟩ := List.forall_mem_cons.1 h
    exact List.forall_mem_cons.2 ⟨hw, ih hrest⟩

/-- The value can be written and read inside `n` open containers. -/
structure Fits (n : Nat) (v : Json) : Prop where
  legible : v.Legible
  depth : n + v.depth ≤ maxDepth

theorem fits_array {n : Nat} {items : List Json} (hn : n < maxDepth)
    (h : ∀ v ∈ items, v.Fits (n + 1)) : (array items).Fits n where
  legible := legible_array fun v hv => (h v hv).legible
  depth := by
    have hdepth : (array items).depth ≤ (maxDepth - (n + 1)) + 1 :=
      depth_array_le fun v hv => by
        have hv := (h v hv).depth
        omega
    omega

theorem fits_object {n : Nat} {fields : List (String × Json)} (hn : n < maxDepth)
    (h : ∀ f ∈ fields, f.2.Fits (n + 1)) : (object fields).Fits n where
  legible := legible_object fun f hf => (h f hf).legible
  depth := by
    have hdepth : (object fields).depth ≤ (maxDepth - (n + 1)) + 1 :=
      depth_object_le fun f hf => by
        have hf := (h f hf).depth
        omega
    omega

/-- The parts of an open container that stands inside `n` others fit. -/
def Frame.Fits (n : Nat) : Frame → Prop
  | .array items => ∀ v ∈ items, v.Fits (n + 1)
  | .object fields _ => ∀ f ∈ fields, f.2.Fits (n + 1)

/-- The parts of all open containers fit, and there are not too many containers. -/
def StackFits : List Frame → Prop
  | [] => True
  | frame :: stack => frame.Fits stack.length ∧ stack.length < maxDepth ∧ StackFits stack

theorem StackFits.length_le {stack : List Frame} (h : StackFits stack) :
    stack.length ≤ maxDepth := by
  cases stack with
  | nil => exact Nat.zero_le _
  | cons frame stack => exact h.2.1

namespace Progress

/-- All that was read fits. -/
def Fits : Progress → Prop
  | .value stack => StackFits stack
  | .firstItem stack => stack.length < maxDepth ∧ StackFits stack
  | .firstKey stack => stack.length < maxDepth ∧ StackFits stack
  | .nextKey fields stack => ∀ key, StackFits (.object fields key :: stack)
  | .afterKey fields key stack => StackFits (.object fields key :: stack)
  | .complete v stack => v.Fits stack.length ∧ StackFits stack

variable {p q : Progress} {stack : List Frame} {t : Token}

theorem fits_of_begins (hstack : StackFits stack) (ht : t.Legible) (h : Begins stack t q) :
    q.Fits := by
  cases h with
  | scalar s => exact ⟨⟨legible_scalar ht, hstack.length_le⟩, hstack⟩
  | array hroom => exact ⟨hroom, hstack⟩
  | object hroom => exact ⟨hroom, hstack⟩

/-- **What was read fits after one more token, too.** -/
theorem fits_of_step (hp : p.Fits) (ht : t.Legible) (h : p.step t = some q) : q.Fits := by
  -- a container that is closed was open, so there was room for it around its parts
  cases step_eq_some_iff.1 h with
  | value hbegins => exact fits_of_begins hp ht hbegins
  | firstItem hbegins =>
    refine fits_of_begins ?_ ht hbegins
    exact ⟨fun _ hv => absurd hv List.not_mem_nil, hp⟩
  | noItem => exact ⟨fits_array hp.1 fun _ hv => absurd hv List.not_mem_nil, hp.2⟩
  | firstKey key => exact ⟨fun _ hf => absurd hf List.not_mem_nil, hp⟩
  | noField => exact ⟨fits_object hp.1 fun _ hf => absurd hf List.not_mem_nil, hp.2⟩
  | nextKey key => exact hp key
  | colon key => exact hp
  | nextItem =>
    obtain ⟨hv, hitems, hrest⟩ := hp
    exact ⟨List.forall_mem_cons.2 ⟨hv, hitems⟩, hrest⟩
  | endArray =>
    obtain ⟨hv, hitems, hroom, hstack⟩ := hp
    refine ⟨fits_array hroom fun w hw => ?_, hstack⟩
    exact (List.forall_mem_cons (p := Json.Fits _)).2 ⟨hv, hitems⟩ w (List.mem_reverse.1 hw)
  | nextField key =>
    obtain ⟨hv, hfields, hrest⟩ := hp
    exact fun _ => ⟨forall_mem_putField hv hfields, hrest⟩
  | endObject key =>
    obtain ⟨hv, hfields, hroom, hstack⟩ := hp
    exact ⟨fits_object hroom (forall_mem_putField hv hfields), hstack⟩

/-- So it does after any number of them. -/
theorem fits_of_steps {ts : List Token} (hp : p.Fits) (hts : ∀ t ∈ ts, t.Legible)
    (h : ts.foldlM step p = some q) : q.Fits := by
  induction ts generalizing p with
  | nil =>
    obtain rfl := Option.some.inj h
    exact hp
  | cons t ts ih =>
    obtain ⟨ht, hts⟩ := List.forall_mem_cons.1 hts
    rw [List.foldlM_cons] at h
    obtain ⟨r, hr, hrest⟩ := Option.bind_eq_some_iff.1 h
    exact ih (fits_of_step hp ht hr) hts hrest

end Progress

/-- **What is read can be written and read again.** -/
theorem fits_of_parse? {text : String} {v : Json} (h : parse? text = some v) : v.Fits 0 := by
  obtain ⟨ts, hts, hvalue⟩ := Option.bind_eq_some_iff.1 h
  obtain ⟨p, hp, hresult⟩ := Option.bind_eq_some_iff.1 hvalue
  have hfits : p.Fits := Progress.fits_of_steps (p := .value []) trivial
    (Token.legible_of_scan? hts) hp
  unfold Progress.result? at hresult
  split at hresult
  · obtain rfl := Option.some.inj hresult
    exact hfits.1
  · cases hresult

/-! ### Parts of what can be written -/

theorem mem_itemTokens {items : List Json} {v : Json} {t : Token} (hv : v ∈ items)
    (ht : t ∈ v.tokens) : t ∈ itemTokens items := by
  induction items with
  | nil => exact absurd hv List.not_mem_nil
  | cons w rest ih =>
    cases rest with
    | nil =>
      obtain rfl := List.mem_singleton.1 hv
      exact ht
    | cons x rest =>
      rw [itemTokens, List.mem_append, List.mem_cons]
      rcases List.mem_cons.1 hv with rfl | hv
      · exact .inl ht
      · exact .inr (.inr (ih hv))

theorem mem_fieldTokens {fields : List (String × Json)} {f : String × Json} {t : Token}
    (hf : f ∈ fields) (ht : t ∈ f.2.tokens) : t ∈ fieldTokens fields := by
  induction fields with
  | nil => exact absurd hf List.not_mem_nil
  | cons g rest ih =>
    cases rest with
    | nil =>
      obtain rfl := List.mem_singleton.1 hf
      exact List.mem_cons_of_mem _ (List.mem_cons_of_mem _ ht)
    | cons k rest =>
      rw [fieldTokens, List.mem_cons, List.mem_cons, List.mem_append, List.mem_cons]
      rcases List.mem_cons.1 hf with rfl | hf
      · exact .inr (.inr (.inl ht))
      · exact .inr (.inr (.inr (.inr (ih hf))))

theorem Legible.of_mem_array {items : List Json} (h : (array items).Legible) {v : Json}
    (hv : v ∈ items) : v.Legible := by
  intro t ht
  refine h t ?_
  rw [tokens, List.mem_cons, List.mem_append]
  exact .inr (.inl (mem_itemTokens hv ht))

theorem Legible.of_mem_object {fields : List (String × Json)} (h : (object fields).Legible)
    {f : String × Json} (hf : f ∈ fields) : f.2.Legible := by
  intro t ht
  refine h t ?_
  rw [tokens, List.mem_cons, List.mem_append]
  exact .inr (.inl (mem_fieldTokens hf ht))

end Json

/-- Every value in a record of a result file can be written. -/
theorem Record.legible_of_mem_ofItems {path : Path} {content : ByteArray} {items : List Json}
    (h : itemsOfContent path content = .ok items) {r : Record} (hr : r ∈ ofItems items)
    {field : String} {v : Json} (hv : r.get? field = some v) : v.Legible := by
  obtain ⟨text, hitems⟩ : ∃ text, Json.parse? text = some (.array items) := by
    unfold itemsOfContent at h
    split at h
    · cases h
    · rename_i text _
      split at h
      · cases h
      · rename_i hparse
        exact ⟨text, Except.ok.inj h ▸ hparse⟩
      · cases h
  obtain ⟨item, hitem, hofJson⟩ := List.mem_filterMap.1 hr
  have hlegible := (Json.fits_of_parse? hitems).legible.of_mem_array hitem
  cases item with
  | object fields =>
    obtain rfl := Option.some.inj hofJson
    obtain ⟨before, after, hfields : fields = _, -⟩ := List.lookup_eq_some_iff.1 hv
    have hmem : (field, v) ∈ fields := by
      rw [hfields]
      exact List.mem_append_right before List.mem_cons_self
    exact hlegible.of_mem_object hmem
  | scalar s => cases hofJson
  | array items => cases hofJson

end BenchReport
