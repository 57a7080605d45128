import BenchReport.Catalogue.Figure
import BenchReport.Report.Model

/-!
# What the report shows of each suite

An outline fixes cards, charts and rows of a suite and which figure each shows and how.
The values are filled in later, so the structure of a report cannot depend on them.

## Main definitions

* `CardOutline`, `ChartOutline`, `RowOutline`, `Outline` — the parts without values.
* `CardOutline.fill`, `ChartOutline.fill`, `RowOutline.fill?` — the parts with values.
* `Outline.of` — the outline of a suite; `fillCards`, `fillCharts`, `fillTable` fill it.
-/

namespace BenchReport

/-- The value that stands for an absent figure. -/
def orZero (x : Option Binary64) : Binary64 := x.getD 0

/-! ### Cards -/

/-- A card without its figure's value. -/
structure CardOutline where
  /-- What is measured. -/
  label : String
  /-- The figure. -/
  figure : Figure
  /-- The unit. -/
  unit : String
  /-- The figure is a percentage and is not scaled. -/
  isPercent : Bool

namespace CardOutline

/-- Decimal places on cards. -/
def places : Nat := 1

/-- The text of the figure. -/
def text (c : CardOutline) (x : Option Binary64) : String :=
  if c.isPercent then Label.percentFigure x places else Label.figure x places

/-- The card with its figure's value. -/
def fill (c : CardOutline) (tone : Tone) (figures : Figures) : Card :=
  ⟨c.label, orZero (figures c.figure), c.text (figures c.figure), c.unit, tone⟩

end CardOutline

/-! ### Charts -/

/-- How a chart scales the figure of a bar. -/
inductive BarScale where
  /-- In thousands, to one place. -/
  | thousands
  /-- As it is, to some places. -/
  | rounded (places : Nat)
  deriving DecidableEq

/-- The figure at the scale. -/
def BarScale.apply : BarScale → Binary64 → Binary64
  | .thousands, x => x.toThousands
  | .rounded places, x => x.roundTo places

/-- A bar without its value. -/
structure BarOutline where
  /-- The category. -/
  label : String
  /-- The figure. -/
  figure : Figure
  /-- The scale. -/
  scale : BarScale

/-- The value of the bar. -/
def BarOutline.value (b : BarOutline) (figures : Figures) : Binary64 :=
  b.scale.apply (orZero (figures b.figure))

/-- A chart without values. -/
structure ChartOutline where
  /-- The place in the document. -/
  slot : String
  /-- The heading. -/
  title : String
  /-- The direction of the bars. -/
  orientation : Orientation
  /-- The unit of the values. -/
  unit : String
  /-- The bars in order. -/
  bars : List BarOutline
  /-- The colours of the bars. -/
  palette : List String

/-- The chart with its figures' values. -/
def ChartOutline.fill (c : ChartOutline) (figures : Figures) : Chart :=
  .paint c.slot c.title c.orientation c.unit
    (c.bars.map fun b => (b.label, b.value figures)) c.palette

/-! ### Rows -/

/-- A row without its value. -/
structure RowOutline where
  /-- What is measured. -/
  label : String
  /-- The figure. -/
  figure : Figure
  /-- The unit. -/
  unit : String
  /-- How many decimal places are shown. -/
  places : Nat
  /-- The row is emphasised. -/
  highlight : Bool
  /-- Only the whole part of the figure is kept. -/
  whole : Bool
  /-- The row is left out when the figure was not measured. -/
  optional : Bool

namespace RowOutline

/-- An emphasised row, always there. -/
def main (label : String) (figure : Figure) (unit : String) (places : Nat) : RowOutline :=
  ⟨label, figure, unit, places, true, false, false⟩

/-- A row that is not emphasised, always there. -/
def minor (label : String) (figure : Figure) (unit : String) (places : Nat) : RowOutline :=
  ⟨label, figure, unit, places, false, false, false⟩

/-- A row that is there when its figure was measured; the whole part is shown. -/
def measured (label : String) (figure : Figure) (unit : String) : RowOutline :=
  ⟨label, figure, unit, 0, false, true, true⟩

/-- The figure's value in the row. -/
def value (r : RowOutline) (figures : Figures) : Option Binary64 :=
  if r.whole then (figures r.figure).map .trunc else figures r.figure

/-- The row with its figure's value, unless it is left out. -/
def fill? (r : RowOutline) (figures : Figures) : Option Row :=
  if r.optional && (r.value figures).isNone then none
  else some ⟨r.label, orZero (r.value figures), r.unit, r.places, r.highlight⟩

end RowOutline

/-! ### Suites -/

/-- What the report shows of one suite. -/
structure Outline where
  /-- The headline cards in order. -/
  cards : List CardOutline
  /-- The charts in order. -/
  charts : List ChartOutline
  /-- The heading of the table. -/
  tableTitle : String
  /-- The rows in order. -/
  rows : List RowOutline

namespace Outline

/-- The outline of the server suite. -/
def server : Outline where
  cards := [
    ⟨"Server conn/sec", .connectionRate, "connections per second", false⟩,
    ⟨"Burst connections", .burstRate, "5 000-conn burst", false⟩,
    ⟨"Single-client throughput", .smallMessageRate, "msg/sec @ 64 B", false⟩,
    ⟨"100-client aggregate", .aggregateRate, "msg/sec concurrent", false⟩]
  charts := [
    { slot := "sConnChart"
      title := "Connection Rate (K conn/sec)"
      orientation := .horizontal
      unit := "conn/sec (K)"
      bars := [⟨"Sustained", .connectionRate, .thousands⟩,
        ⟨"Burst (5K)", .burstRate, .thousands⟩]
      palette := ["#58a6ff", "#388bfd"] },
    { slot := "sTpChart"
      title := "Single-Client Throughput (K msg/sec)"
      orientation := .vertical
      unit := "K msg/sec"
      bars := [⟨"64 B msg", .smallMessageRate, .thousands⟩,
        ⟨"1 KB msg", .largeMessageRate, .thousands⟩]
      palette := ["#58a6ff", "#388bfd"] },
    { slot := "sMbChart"
      title := "Throughput (MB/sec)"
      orientation := .vertical
      unit := "MB/sec"
      bars := [⟨"64 B", .smallBandwidth, .rounded 1⟩, ⟨"1 KB", .largeBandwidth, .rounded 1⟩]
      palette := ["#58a6ff", "#388bfd"] },
    { slot := "sConcChart"
      title := "Aggregate — 100 clients × 500 msgs (K msg/sec)"
      orientation := .horizontal
      unit := "K msg/sec aggregate"
      bars := [⟨"100 clients × 500 msgs", .aggregateRate, .thousands⟩]
      palette := ["#3fb950"] }]
  tableTitle := "Connection Details"
  rows := [
    .main "Conn rate (sustained)" .connectionRate "conn/sec" 0,
    .main "Conn rate (burst 5K)" .burstRate "conn/sec" 0,
    .minor "Avg connect latency" .connectLatency "ms" 3,
    { RowOutline.main "Max concurrent" .burstPeak "connections" 0 with whole := true },
    .main "64 B throughput" .smallMessageRate "msg/sec" 0,
    .main "1 KB throughput" .largeMessageRate "msg/sec" 0,
    .main "1 KB bandwidth" .largeBandwidth "MB/sec" 1,
    .main "100-client aggregate" .aggregateRate "msg/sec" 0]

/-- The outline of the cache suite. -/
def cache : Outline where
  cards := [
    ⟨"Cache GET", .getRate, "ops/sec", false⟩,
    ⟨"Cache SET", .setRate, "ops/sec", false⟩]
  charts := [
    { slot := "cOpsChart"
      title := "Operation Throughput (K ops/sec)"
      orientation := .vertical
      unit := "K ops/sec"
      bars := [⟨"SET", .setRate, .thousands⟩, ⟨"GET", .getRate, .thousands⟩,
        ⟨"Mixed 80/20", .mixedRate, .thousands⟩,
        ⟨"20-client conc.", .cacheClientsRate, .thousands⟩]
      palette := ["#3fb950", "#56d364", "#3fb950", "#26a641"] }]
  tableTitle := "Cache Details"
  rows := [
    .main "SET throughput" .setRate "ops/sec" 0,
    .main "GET throughput" .getRate "ops/sec" 0,
    .main "Mixed 80/20 GET/SET" .mixedRate "ops/sec" 0,
    .main "20-client concurrent" .cacheClientsRate "ops/sec" 0,
    .measured "Flush (persist)" .flushTime "ms",
    .measured "Load (restore)" .loadTime "ms"]

/-- The outline of the proxy suite. -/
def proxy : Outline where
  cards := [
    ⟨"HTTP proxy", .singleBackendRate, "req/sec", false⟩,
    ⟨"Proxy overhead", .overhead, "vs direct connection", true⟩]
  charts := [
    { slot := "pHttpChart"
      title := "HTTP Proxy Throughput (req/sec)"
      orientation := .horizontal
      unit := "req/sec"
      bars := [⟨"Single backend", .singleBackendRate, .rounded 0⟩,
        ⟨"Load balancing", .balancedRate, .rounded 0⟩]
      palette := ["#bc8cff", "#a371f7", "#8957e5"] },
    { slot := "pTcpChart"
      title := "TCP Forwarding (K msg/sec)"
      orientation := .horizontal
      unit := "K msg/sec"
      bars := [⟨"Single", .forwardedRate, .thousands⟩,
        ⟨"20-client conc.", .proxyClientsRate, .thousands⟩,
        ⟨"Named backend", .namedBackendRate, .thousands⟩]
      palette := ["#bc8cff", "#a371f7", "#8957e5"] }]
  tableTitle := "Proxy Details"
  rows := [
    .main "HTTP single backend" .singleBackendRate "req/sec" 0,
    .main "HTTP load balancing" .balancedRate "req/sec" 0,
    .main "TCP throughput" .forwardedRate "msg/sec" 0,
    .main "TCP bandwidth" .forwardedBandwidth "MB/sec" 1,
    .main "20-client concurrent" .proxyClientsRate "msg/sec" 0,
    .main "Named backend" .namedBackendRate "msg/sec" 0,
    .minor "Proxy overhead" .overhead "% vs direct" 1]

/-- The outline of the handshake suite. -/
def webSocket : Outline where
  cards := [⟨"WS handshakes", .handshakeRate, "handshakes/sec", false⟩]
  charts := [
    { slot := "wsChart"
      title := "Handshake Throughput (ops/sec)"
      orientation := .vertical
      unit := "ops/sec"
      bars := [⟨"Handshake", .handshakeRate, .rounded 0⟩,
        ⟨"WS+TCP coexist", .coexistenceRate, .rounded 0⟩,
        ⟨"20-client conc.", .handshakeClientsRate, .rounded 0⟩]
      palette := ["#d29922", "#e3b341", "#bb8009"] }]
  tableTitle := "WebSocket Details"
  rows := [
    .main "Handshake throughput" .handshakeRate "ops/sec" 0,
    .main "WS + TCP coexistence" .coexistenceRate "ops/sec" 0,
    .main "20-client concurrent" .handshakeClientsRate "ops/sec" 0]

/-- The outline of a suite. -/
def of : Suite → Outline
  | .server => server
  | .cache => cache
  | .proxy => proxy
  | .webSocket => webSocket

/-- The cards with values. -/
def fillCards (o : Outline) (tone : Tone) (figures : Figures) : List Card :=
  o.cards.map fun c => c.fill tone figures

/-- The charts with values. -/
def fillCharts (o : Outline) (figures : Figures) : List Chart :=
  o.charts.map fun c => c.fill figures

/-- The table with values. -/
def fillTable (o : Outline) (figures : Figures) : Table :=
  ⟨o.tableTitle, o.rows.filterMap fun r => r.fill? figures⟩

end Outline

end BenchReport
