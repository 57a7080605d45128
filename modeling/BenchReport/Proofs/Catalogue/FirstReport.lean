import BenchReport.Proofs.Binary64.Nearest
import BenchReport.Report.Assembly

/-!
# Where the figures come from

The catalogue lists the runs of the four suites: the scenario that names a run, the size of
its messages where several runs share a scenario, and the fields that hold figures.  A
record reports a run when its `test` field is the text of the scenario and its size, if
the run has one, is that number.  A figure is the field of the first record that reports
its run; what later records say does not matter, and nothing but the figures goes from the
records into a report.

## Main definitions

* `Run`, `catalogue` — the runs and their figures.
* `Run.ReportedBy`, `Run.IsFirst` — a record reports a run, and is the first to do so.

## Main results

* `Source.read_eq_of_isFirst`, `Source.read_eq_none` — what is read for a figure.
* `figures_of_first_reports` — **the figures are those of the first reports, and a report
  depends on nothing else in the records.**
-/

namespace BenchReport

/-! ### The catalogue -/

/-- A run that a suite reports. -/
structure Run where
  /-- The suite that reports it. -/
  suite : Suite
  /-- The scenario that names it. -/
  scenario : String
  /-- The size of its messages, where several runs share the scenario. -/
  size : Option Nat
  /-- The fields that hold figures. -/
  fields : List (String × Figure)

/-- The runs of the four suites. -/
def catalogue : List Run := [
  ⟨.server, "server_connection_rate", none,
    [("connections_per_sec", .connectionRate), ("avg_latency_ms", .connectLatency)]⟩,
  ⟨.server, "server_burst_connections", none,
    [("connections_per_sec", .burstRate), ("max_concurrent", .burstPeak)]⟩,
  ⟨.server, "server_single_client_throughput", some 64,
    [("messages_per_sec", .smallMessageRate), ("throughput_mb_sec", .smallBandwidth)]⟩,
  ⟨.server, "server_single_client_throughput", some 1024,
    [("messages_per_sec", .largeMessageRate), ("throughput_mb_sec", .largeBandwidth)]⟩,
  ⟨.server, "server_concurrent_clients", none, [("messages_per_sec", .aggregateRate)]⟩,
  ⟨.cache, "cache_set_throughput", none, [("ops_per_sec", .setRate)]⟩,
  ⟨.cache, "cache_get_throughput", none, [("ops_per_sec", .getRate)]⟩,
  ⟨.cache, "cache_mixed_workload", none, [("ops_per_sec", .mixedRate)]⟩,
  ⟨.cache, "cache_concurrent_access", none, [("ops_per_sec", .cacheClientsRate)]⟩,
  ⟨.cache, "cache_persistence", none,
    [("flush_time_ms", .flushTime), ("load_time_ms", .loadTime)]⟩,
  ⟨.proxy, "proxy_http_single_backend", none, [("requests_per_sec", .singleBackendRate)]⟩,
  ⟨.proxy, "proxy_http_load_balancing", none, [("requests_per_sec", .balancedRate)]⟩,
  ⟨.proxy, "proxy_tcp_throughput", none,
    [("messages_per_sec", .forwardedRate), ("throughput_mb_sec", .forwardedBandwidth)]⟩,
  ⟨.proxy, "proxy_concurrent_connections", none, [("messages_per_sec", .proxyClientsRate)]⟩,
  ⟨.proxy, "proxy_overhead", none, [("overhead_percent", .overhead)]⟩,
  ⟨.proxy, "proxy_runtime_name_backend", none, [("messages_per_sec", .namedBackendRate)]⟩,
  ⟨.webSocket, "ws_handshake_throughput", none, [("ops_per_sec", .handshakeRate)]⟩,
  ⟨.webSocket, "ws_tcp_coexistence", none, [("ops_per_sec", .coexistenceRate)]⟩,
  ⟨.webSocket, "ws_concurrent", none, [("ops_per_sec", .handshakeClientsRate)]⟩]

/-- All figures of the catalogue. -/
def catalogueFigures : List Figure := (catalogue.flatMap Run.fields).map Prod.snd

/-- The catalogue and the sources of the figures say the same. -/
theorem source_of_mem_catalogue : ∀ run ∈ catalogue, ∀ e ∈ run.fields,
    e.2.suite = run.suite ∧ e.2.source = ⟨run.scenario, run.size.map .ofNat, e.1⟩ := by
  simp only [catalogue, List.forall_mem_cons, List.not_mem_nil, false_implies, implies_true,
    and_true]
  and_intros <;> rfl

theorem size_lt_of_mem_catalogue : ∀ run ∈ catalogue, ∀ n ∈ run.size, n < 2 ^ 53 := by decide

/-! ### Reports of a run -/

/-- The number is a certain natural number. -/
def JsonNumber.IsNat (n : Nat) : JsonNumber → Prop
  | .integer k => k = n
  | .real x => x.position = some (n * Binary64.one : Int)

/-- A record reports a run. -/
def Run.ReportedBy (run : Run) (r : Record) : Prop :=
  r.get? "test" = some (.scalar (.string run.scenario)) ∧
    ∀ n ∈ run.size, ∃ x, r.get? "message_size_bytes" = some (.scalar (.number x)) ∧ x.IsNat n

/-- A record is the first of a list that reports a run. -/
def Run.IsFirst (run : Run) (records : List Record) (r : Record) : Prop :=
  ∃ before after, records = before ++ r :: after ∧ run.ReportedBy r ∧
    ∀ q ∈ before, ¬ run.ReportedBy q

/-- A number compares equal to a small natural number when it is that number. -/
theorem JsonNumber.sameNumber_ofNat_iff {n : Nat} (hn : n < 2 ^ 53) (x : JsonNumber) :
    x.toBinary64.sameNumber (.ofNat n) = true ↔ x.IsNat n := by
  have hplace : ∀ y : Binary64, y.sameNumber (.ofNat n) = true ↔
      y.position = some (n * Binary64.one : Int) := by
    intro y
    rw [Binary64.sameNumber, Binary64.position_ofNat (Nat.le_of_lt hn)]
    cases y.position with
    | none => simp only [Bool.false_eq_true, reduceCtorEq]
    | some place => simp only [beq_iff_eq, Option.some.injEq]
  rw [hplace]
  cases x with
  | integer k => exact Binary64.position_ofInt_eq_iff hn k
  | real y => rfl

theorem Record.scenario?_eq_some_iff (r : Record) (name : String) :
    r.scenario? = some name ↔ r.get? "test" = some (.scalar (.string name)) := by
  rw [Record.scenario?, Record.scenarioField]
  split <;> rename_i h
  · rw [h]
    simp
  · constructor
    · simp
    · intro hname
      exact absurd hname (h name)

/-- A field that is no number has none. -/
theorem Record.hasNumber_iff (r : Record) (field : String) (value : Binary64) :
    r.hasNumber field value = true ↔
      ∃ x, r.get? field = some (.scalar (.number x)) ∧ x.toBinary64.sameNumber value = true := by
  rw [Record.hasNumber]
  split <;> rename_i h
  · rw [h]
    simp
  · constructor
    · simp
    · rintro ⟨x, hx, -⟩
      exact absurd hx (h x)

theorem Record.hasNumber_ofNat_iff {n : Nat} (hn : n < 2 ^ 53) (r : Record) (field : String) :
    r.hasNumber field (.ofNat n) = true ↔
      ∃ x, r.get? field = some (.scalar (.number x)) ∧ x.IsNat n := by
  simp only [Record.hasNumber_iff, JsonNumber.sameNumber_ofNat_iff hn]

namespace Source

/-- The condition that picks the record of a source. -/
def accepts (s : Source) (r : Record) : Bool :=
  r.scenario? == some s.scenario && s.messageSize.all fun size => r.hasNumber messageSizeField size

/-- Both ways to look for a record take the first that the condition accepts. -/
theorem record_eq_find? (s : Source) (records : List Record) :
    s.record records = (records.find? s.accepts).getD .empty := by
  obtain ⟨scenario, messageSize, field⟩ := s
  cases messageSize <;> rfl

theorem figure?_empty (field : String) : Record.empty.figure? field = none := rfl

variable {run : Run} {records : List Record} {field : String}

/-- The condition of a run's source accepts the records that report the run. -/
theorem accepts_iff (hsize : ∀ n ∈ run.size, n < 2 ^ 53) (r : Record) :
    (Source.mk run.scenario (run.size.map .ofNat) field).accepts r = true ↔
      run.ReportedBy r := by
  obtain ⟨suite, scenario, size, fields⟩ := run
  simp only [accepts, Run.ReportedBy, Bool.and_eq_true, beq_iff_eq,
    Record.scenario?_eq_some_iff]
  cases size with
  | none => simp
  | some n => simp [Record.hasNumber_ofNat_iff (hsize n rfl), messageSizeField]

/-- **The first report of a run tells its figures**, with what later ones say left out. -/
theorem read_eq_of_isFirst (hsize : ∀ n ∈ run.size, n < 2 ^ 53) {r : Record}
    (hr : run.IsFirst records r) :
    (Source.mk run.scenario (run.size.map .ofNat) field).read records = r.figure? field := by
  obtain ⟨before, after, rfl, hreport, hbefore⟩ := hr
  have hfind : (before ++ r :: after).find?
      (Source.mk run.scenario (run.size.map .ofNat) field).accepts = some r := by
    refine List.find?_eq_some_iff_append.2 ⟨(accepts_iff hsize r).2 hreport, before, after, rfl, ?_⟩
    -- what stands before the first report is not accepted
    intro q hq
    rw [Bool.not_eq_true', Bool.eq_false_iff]
    exact fun h => hbefore q hq ((accepts_iff hsize q).1 h)
  rw [read, record_eq_find?, hfind]
  rfl

/-- Without a report of a run there are none of its figures. -/
theorem read_eq_none (hsize : ∀ n ∈ run.size, n < 2 ^ 53)
    (hnone : ∀ r ∈ records, ¬ run.ReportedBy r) :
    (Source.mk run.scenario (run.size.map .ofNat) field).read records = none := by
  have hfind : records.find?
      (Source.mk run.scenario (run.size.map .ofNat) field).accepts = none := by
    rw [List.find?_eq_none]
    exact fun r hr h => hnone r hr ((accepts_iff hsize r).1 h)
  rw [read, record_eq_find?, hfind]
  exact figure?_empty field

end Source

/-- The time of the results is that of the first suite's file in report order. -/
theorem Inputs.source_eq (inputs : Inputs) :
    inputs.source = (Suite.all.findSome? fun s => (inputs.results s).file).map (·.modified) := by
  rw [Inputs.source, Inputs.toList, List.findSome?_map]
  rfl

/-- **The figures are those of the first reports.**

The catalogue has each of the twenty-five figures once.  The value of a figure is the
field of the first record of its own suite that reports its run, read as a number; it is
absent when no record reports the run, and also when the first report lacks the field and a
later one has it.  Records go into a report through these values only: inputs with the
same figures, the same suites with a file and the same time of the first such file have
the same report. -/
theorem figures_of_first_reports :
    (catalogueFigures.length = 25 ∧ catalogueFigures.Nodup ∧ ∀ f, f ∈ catalogueFigures) ∧
    (∀ inputs : Inputs, ∀ run ∈ catalogue, ∀ e ∈ run.fields,
      (∀ r, run.IsFirst (inputs.results run.suite).records r →
        Figures.ofInputs inputs e.2 = r.figure? e.1) ∧
      ((∀ r ∈ (inputs.results run.suite).records, ¬ run.ReportedBy r) →
        Figures.ofInputs inputs e.2 = none)) ∧
    ∀ (a b : Inputs) (generatedAt : Instant) (settings : Settings),
      (∀ f, Figures.ofInputs a f = Figures.ofInputs b f) →
      (∀ s, (a.results s).isLocated = (b.results s).isLocated) →
      (Suite.all.findSome? fun s => (a.results s).file).map (·.modified) =
        (Suite.all.findSome? fun s => (b.results s).file).map (·.modified) →
      Report.assemble a generatedAt settings = Report.assemble b generatedAt settings := by
  refine ⟨⟨by decide, by decide, ?_⟩, ?_, ?_⟩
  · intro f
    cases f <;> decide
  · intro inputs run hrun e he
    obtain ⟨hsuite, hsource⟩ := source_of_mem_catalogue run hrun e he
    have hsize := size_lt_of_mem_catalogue run hrun
    simp only [Figures.ofInputs, hsuite, hsource]
    exact ⟨fun r hr => Source.read_eq_of_isFirst hsize hr, Source.read_eq_none hsize⟩
  · intro a b generatedAt settings hfigures hlocated htime
    have hsame : Figures.ofInputs a = Figures.ofInputs b := funext hfigures
    have hfiles : (fun s => (a.results s).isLocated) = fun s => (b.results s).isLocated :=
      funext hlocated
    rw [Report.assemble, Report.assemble, hsame, hfiles, Inputs.source_eq, Inputs.source_eq,
      htime]

/-! ### Three runs of one scenario -/

/-- The runs with small messages. -/
def smallRun : Run :=
  ⟨.server, "server_single_client_throughput", some 64,
    [("messages_per_sec", .smallMessageRate), ("throughput_mb_sec", .smallBandwidth)]⟩

/-- A record of a run with messages of some size. -/
def sizedRecord (size : JsonNumber) (field : String) (value : Nat) : Record :=
  ⟨[("test", .ofString smallRun.scenario), ("message_size_bytes", .scalar (.number size)),
    (field, .ofNat value)]⟩

/-- A large run, a small run without a message rate, and a small run that has one. -/
def sizedRecords : List Record := [
  sizedRecord (.integer 1024) "messages_per_sec" 9,
  sizedRecord (.real 64) "throughput_mb_sec" 5,
  sizedRecord (.integer 64) "messages_per_sec" 7]

theorem smallRun_isFirst :
    smallRun.IsFirst sizedRecords (sizedRecord (.real 64) "throughput_mb_sec" 5) := by
  refine ⟨[sizedRecord (.integer 1024) "messages_per_sec" 9],
    [sizedRecord (.integer 64) "messages_per_sec" 7], rfl, ⟨rfl, ?_⟩, ?_⟩
  · rintro n ⟨⟩
    exact ⟨.real 64, rfl, Binary64.position_ofNat (by decide)⟩
  · rintro q hq ⟨-, hsize⟩
    obtain rfl := List.mem_singleton.1 hq
    obtain ⟨x, hx, hnat⟩ := hsize 64 rfl
    obtain rfl : JsonNumber.integer 1024 = x := by
      simpa [sizedRecord, Record.get?, Json.fieldOf?, List.lookup_cons] using hx
    simp [JsonNumber.IsNat] at hnat

/-- The first small run has no message rate, so the report has none: the rate of the later
run is not read, and leaving that run out changes nothing. -/
theorem figures_of_sizedRecords :
    Figures.ofInputs (Inputs.empty.put ⟨.server, none, sizedRecords⟩) .smallMessageRate = none ∧
    Figures.ofInputs (Inputs.empty.put ⟨.server, none, sizedRecords⟩) .getRate = none ∧
    Report.assemble (Inputs.empty.put ⟨.server, none, sizedRecords⟩) ⟨0, 0, secondNanos_pos⟩
        (.new ⟨"results"⟩) =
      Report.assemble (Inputs.empty.put ⟨.server, none, sizedRecords.take 2⟩)
        ⟨0, 0, secondNanos_pos⟩ (.new ⟨"results"⟩) := by
  obtain ⟨-, htold, hsame⟩ := figures_of_first_reports
  refine ⟨?_, ?_, ?_⟩
  · have hsmall := htold (Inputs.empty.put ⟨.server, none, sizedRecords⟩) smallRun
      (by simp [catalogue, smallRun]) ("messages_per_sec", .smallMessageRate)
      (by simp [smallRun])
    exact hsmall.1 _ smallRun_isFirst
  · have hget := htold (Inputs.empty.put ⟨.server, none, sizedRecords⟩)
      ⟨.cache, "cache_get_throughput", none, [("ops_per_sec", .getRate)]⟩
      (by simp [catalogue]) ("ops_per_sec", .getRate) (by simp)
    exact hget.2 (by simp [Inputs.put, Inputs.empty, SuiteResults.missing])
  · refine hsame _ _ _ _ ?_ (fun s => by cases s <;> rfl) rfl
    -- the figures are the same in both, since none comes from the third record
    intro f
    cases f <;> decide +kernel

end BenchReport
