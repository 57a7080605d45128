import BenchReport.Document.Data
import BenchReport.Proofs.Document.ChartData
import BenchReport.Proofs.Json.Lookup
import BenchReport.Proofs.Json.Pretty

/-!
# The report is read back from its data

Whatever texts, numbers and lists a report holds, its data is a JSON text, and reading it gives the
parts of the report under their keys, in their order.  Only numbers may differ: one that is not
finite is `null`, and any other is what reading makes of its written form.

## Main definitions

* `Json.ShowsNumber` — what is read in the place of a number.
* `Card.ReadAs`, `Bar.ReadAs`, `Chart.ReadAs`, `Row.ReadAs`, `Table.ReadAs`, `Section.ReadAs`,
  `Report.ReadAs` — the value has the parts of a report under their keys.

## Main results

* `Report.legible_toJson`, `Report.depth_toJson_le` — a report can be read.
* `Report.readAs_settled` — what is read has the parts of the report.
* `Report.data_readBack` — **the report is read back from its data.**
-/

namespace BenchReport

/-! ### What is read -/

/-- In the place of a number stands `null` when it is not finite, and what reading makes of its
written form when it is. -/
def Json.ShowsNumber (x : Binary64) (v : Json) : Prop :=
  (v = .scalar .null ↔ ¬ x.isFinite) ∧
    (x.isFinite → v = .scalar (.number (JsonNumber.real x).reread))

/-- The value has the parts of a card. -/
structure Card.ReadAs (c : Card) (v : Json) : Prop where
  label : v.at? "label" = some (.ofString c.label)
  value : ∃ x, v.at? "value" = some x ∧ x.ShowsNumber c.value
  display : v.at? "display" = some (.ofString c.display)
  unit : v.at? "unit" = some (.ofString c.unit)
  tone : v.at? "tone" = some (.ofString c.tone.key)

/-- The value has the parts of a bar. -/
structure Bar.ReadAs (b : Bar) (v : Json) : Prop where
  label : v.at? "label" = some (.ofString b.label)
  value : ∃ x, v.at? "value" = some x ∧ x.ShowsNumber b.value
  color : v.at? "color" = some (.ofString b.color)

/-- The value has the parts of a chart. -/
structure Chart.ReadAs (c : Chart) (v : Json) : Prop where
  slot : v.at? "slot" = some (.ofString c.slot)
  title : v.at? "title" = some (.ofString c.title)
  orientation : v.at? "orientation" = some (.ofString c.orientation.key)
  unit : v.at? "unit" = some (.ofString c.unit)
  bars : v.ListAt "bars" Bar.ReadAs c.bars

/-- The value has the parts of a row. -/
structure Row.ReadAs (r : Row) (v : Json) : Prop where
  label : v.at? "label" = some (.ofString r.label)
  value : ∃ x, v.at? "value" = some x ∧ x.ShowsNumber r.value
  unit : v.at? "unit" = some (.ofString r.unit)
  places : v.at? "decimals" = some (.ofNat r.places)
  highlight : v.at? "highlight" = some (.ofBool r.highlight)

/-- The value has the parts of a table. -/
structure Table.ReadAs (t : Table) (v : Json) : Prop where
  title : v.at? "title" = some (.ofString t.title)
  rows : v.ListAt "rows" Row.ReadAs t.rows

/-- The value has the parts of a section. -/
structure Section.ReadAs (s : Section) (v : Json) : Prop where
  suite : v.at? "suite" = some (.ofString s.suite.key)
  title : v.at? "title" = some (.ofString s.title)
  description : v.at? "description" = some (.ofString s.description)
  icon : v.at? "icon" = some (.ofString s.icon)
  located : v.at? "located" = some (.ofBool s.located)
  charts : v.ListAt "charts" Chart.ReadAs s.charts
  table : ∃ t, v.at? "table" = some t ∧ s.table.ReadAs t

/-- The value has the parts of a report. -/
structure Report.ReadAs (r : Report) (v : Json) : Prop where
  project : v.at? "project" = some (.ofString r.project)
  subtitle : v.at? "subtitle" = some (.ofString r.subtitle)
  generatedAt : v.at? "generated_at" = some (.ofString r.generatedAt.text)
  timestamp : v.at? "timestamp" = some (.ofString r.timestamp)
  badges : v.ListAt "badges" (fun badge v => v = .ofString badge) r.badges
  cards : v.ListAt "kpis" Card.ReadAs r.cards
  sections : v.ListAt "sections" Section.ReadAs r.sections

/-- The decimal places of all rows fit a machine word. -/
def Report.PlacesFit (r : Report) : Prop :=
  ∀ s ∈ r.sections, ∀ row ∈ s.table.rows, row.places < JsonNumber.wordLimit

namespace Json

theorem legible_ofNat {n : Nat} (h : n < JsonNumber.wordLimit) : (ofNat n).Legible := by
  refine legible_scalar (?_ : (JsonNumber.integer n).Legible)
  rw [JsonNumber.wordLimit, Nat.pow_eq] at h
  exact ⟨by omega, by omega⟩

theorem settled_ofNat {n : Nat} (h : n < JsonNumber.wordLimit) : (ofNat n).settled = ofNat n := by
  rw [JsonNumber.wordLimit, Nat.pow_eq] at h
  have hlegible : (JsonNumber.integer n).Legible := ⟨by omega, by omega⟩
  rw [ofNat, settled, settledScalar, (Token.beginsNumber_integer hlegible).reread_eq]

theorem showsNumber_settled (x : Binary64) : (ofBinary64 x).settled.ShowsNumber x := by
  rw [ofBinary64]
  by_cases h : x.isFinite
  · rw [if_pos h]
    refine ⟨⟨fun hnull => ?_, fun hx => absurd h hx⟩, fun _ => rfl⟩
    cases hnull
  · rw [if_neg h]
    exact ⟨⟨fun _ => h, fun _ => rfl⟩, fun hx => absurd hx h⟩

end Json

open Json

/-! ### Every report can be read -/

theorem Card.legible_toJson (c : Card) : c.toJson.Legible := by
  refine legible_object fun f hf => ?_
  simp only [List.mem_cons, List.not_mem_nil, or_false] at hf
  rcases hf with rfl | rfl | rfl | rfl | rfl
  · exact legible_ofString c.label
  · exact legible_ofBinary64 c.value
  · exact legible_ofString c.display
  · exact legible_ofString c.unit
  · exact legible_ofString c.tone.key

theorem Row.legible_toJson {r : Row} (hplaces : r.places < JsonNumber.wordLimit) :
    r.toJson.Legible := by
  refine legible_object fun f hf => ?_
  simp only [List.mem_cons, List.not_mem_nil, or_false] at hf
  rcases hf with rfl | rfl | rfl | rfl | rfl
  · exact legible_ofString r.label
  · exact legible_ofBinary64 r.value
  · exact legible_ofString r.unit
  · exact legible_ofNat hplaces
  · exact legible_scalar trivial

theorem Table.legible_toJson {t : Table} (h : ∀ row ∈ t.rows, row.places < JsonNumber.wordLimit) :
    t.toJson.Legible := by
  refine legible_object fun f hf => ?_
  simp only [List.mem_cons, List.not_mem_nil, or_false] at hf
  rcases hf with rfl | rfl
  · exact legible_ofString t.title
  · exact legible_array (List.forall_mem_map.2 fun row hrow => Row.legible_toJson (h row hrow))

theorem Section.legible_toJson {s : Section}
    (h : ∀ row ∈ s.table.rows, row.places < JsonNumber.wordLimit) : s.toJson.Legible := by
  refine legible_object fun f hf => ?_
  simp only [List.mem_cons, List.not_mem_nil, or_false] at hf
  rcases hf with rfl | rfl | rfl | rfl | rfl | rfl | rfl
  · exact legible_ofString s.suite.key
  · exact legible_ofString s.title
  · exact legible_ofString s.description
  · exact legible_ofString s.icon
  · exact legible_scalar trivial
  · exact legible_array (List.forall_mem_map.2 fun c _ => c.legible_toJson)
  · exact Table.legible_toJson h

theorem Report.legible_toJson {r : Report} (h : r.PlacesFit) : r.toJson.Legible := by
  refine legible_object fun f hf => ?_
  simp only [List.mem_cons, List.not_mem_nil, or_false] at hf
  rcases hf with rfl | rfl | rfl | rfl | rfl | rfl | rfl
  · exact legible_ofString r.project
  · exact legible_ofString r.subtitle
  · exact legible_ofString r.generatedAt.text
  · exact legible_ofString r.timestamp
  · exact legible_array (List.forall_mem_map.2 fun badge _ => legible_ofString badge)
  · exact legible_array (List.forall_mem_map.2 fun c _ => c.legible_toJson)
  · exact legible_array (List.forall_mem_map.2 fun s hs => Section.legible_toJson (h s hs))

theorem Card.depth_toJson (c : Card) : c.toJson.depth = 1 := by
  simp [toJson, depth, fieldsDepth, ofString, depth_ofBinary64]

theorem Row.depth_toJson (r : Row) : r.toJson.depth = 1 := by
  simp [toJson, depth, fieldsDepth, ofString, ofNat, ofBool, depth_ofBinary64]

theorem Table.depth_toJson_le (t : Table) : t.toJson.depth ≤ 3 := by
  have hrows : itemsDepth (t.rows.map Row.toJson) ≤ 1 :=
    itemsDepth_le (List.forall_mem_map.2 fun row _ => row.depth_toJson.le)
  refine depth_object_le ?_
  simp [depth, ofString]
  omega

theorem Section.depth_toJson_le (s : Section) : s.toJson.depth ≤ 5 := by
  have hcharts : itemsDepth (s.charts.map Chart.toJson) ≤ 3 :=
    itemsDepth_le (List.forall_mem_map.2 fun c _ => c.depth_toJson_le)
  have htable : s.table.toJson.depth ≤ 4 := s.table.depth_toJson_le.trans (by decide)
  refine depth_object_le ?_
  simp [depth, ofString, ofBool]
  omega

theorem Report.depth_toJson_le (r : Report) : r.toJson.depth ≤ 7 := by
  have hbadges : itemsDepth (r.badges.map ofString) ≤ 5 :=
    itemsDepth_le (List.forall_mem_map.2 fun _ _ => Nat.zero_le 5)
  have hcards : itemsDepth (r.cards.map Card.toJson) ≤ 5 :=
    itemsDepth_le (List.forall_mem_map.2 fun c _ => c.depth_toJson.le.trans (by decide))
  have hsections : itemsDepth (r.sections.map Section.toJson) ≤ 5 :=
    itemsDepth_le (List.forall_mem_map.2 fun s _ => s.depth_toJson_le)
  refine depth_object_le ?_
  simp [depth, ofString]
  omega

/-! ### What is read has the parts of the report -/

theorem Card.readAs_settled (c : Card) : c.ReadAs c.toJson.settled where
  label := at?_settled ..
  value := ⟨_, at?_settled .., showsNumber_settled c.value⟩
  display := at?_settled ..
  unit := at?_settled ..
  tone := at?_settled ..

theorem Bar.readAs_settled (b : Bar) : b.ReadAs b.toJson.settled where
  label := at?_settled ..
  value := ⟨_, at?_settled .., showsNumber_settled b.value⟩
  color := at?_settled ..

theorem Chart.readAs_settled (c : Chart) : c.ReadAs c.toJson.settled where
  slot := at?_settled ..
  title := at?_settled ..
  orientation := at?_settled ..
  unit := at?_settled ..
  bars := listAt_settled (at?_settled ..) fun b _ => b.readAs_settled

theorem Row.readAs_settled {r : Row} (hplaces : r.places < JsonNumber.wordLimit) :
    r.ReadAs r.toJson.settled where
  label := at?_settled ..
  value := ⟨_, at?_settled .., showsNumber_settled r.value⟩
  unit := at?_settled ..
  places := (at?_settled ..).trans (congrArg some (settled_ofNat hplaces))
  highlight := at?_settled ..

theorem Table.readAs_settled {t : Table} (h : ∀ row ∈ t.rows, row.places < JsonNumber.wordLimit) :
    t.ReadAs t.toJson.settled where
  title := at?_settled ..
  rows := listAt_settled (at?_settled ..) fun row hrow => Row.readAs_settled (h row hrow)

theorem Section.readAs_settled {s : Section}
    (h : ∀ row ∈ s.table.rows, row.places < JsonNumber.wordLimit) :
    s.ReadAs s.toJson.settled where
  suite := at?_settled ..
  title := at?_settled ..
  description := at?_settled ..
  icon := at?_settled ..
  located := at?_settled ..
  charts := listAt_settled (at?_settled ..) fun c _ => c.readAs_settled
  table := ⟨_, at?_settled .., Table.readAs_settled h⟩

namespace Report

variable {r : Report}

theorem readAs_settled (h : r.PlacesFit) : r.ReadAs r.toJson.settled where
  project := at?_settled ..
  subtitle := at?_settled ..
  generatedAt := at?_settled ..
  timestamp := at?_settled ..
  badges := listAt_settled (at?_settled ..) fun _ _ => rfl
  cards := listAt_settled (at?_settled ..) fun c _ => c.readAs_settled
  sections := listAt_settled (at?_settled ..) fun s hs => Section.readAs_settled (h s hs)

/-- **The report is read back from its data.**  The data is a JSON text, made of the tokens of one
value, and reading it gives a value that has the parts of the report under their keys, in their
order. -/
theorem data_readBack (h : r.PlacesFit) :
    Token.Spells r.data.toList r.toJson.tokens ∧
    ∃ v, parse? r.data = some v ∧ r.ReadAs v := by
  have hdepth : r.toJson.depth ≤ maxDepth := r.depth_toJson_le.trans (by decide)
  exact ⟨spells_pretty r.toJson, r.toJson.settled, parse?_pretty (legible_toJson h) hdepth,
    readAs_settled h⟩

/-- A report with signs that are escaped, numbers that are not finite, and as many places as a
machine word can count. -/
def oddReport : Report where
  project := "\"\\\x00📊"
  subtitle := ""
  generatedAt := ⟨-1, 999999999, by decide⟩
  source := none
  badges := ["\n", ""]
  cards := [⟨"card", .nan, "N/A", "\x7f", .blue⟩]
  sections := [{
    suite := .cache
    title := "</script>"
    description := "/"
    icon := "\t"
    located := false
    charts := [⟨"slot", "chart", .vertical, "", []⟩]
    table := ⟨"table", [⟨"row", .infinite true, "", 2 ^ 64 - 1, true⟩]⟩ }]

theorem data_readBack_oddReport :
    oddReport.PlacesFit ∧ ∃ v, parse? oddReport.data = some v ∧ oddReport.ReadAs v := by
  have hplaces : oddReport.PlacesFit := by
    simp [PlacesFit, oddReport, JsonNumber.wordLimit]
  exact ⟨hplaces, (data_readBack hplaces).2⟩

end Report

end BenchReport
