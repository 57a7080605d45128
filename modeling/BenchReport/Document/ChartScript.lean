import BenchReport.Document.Data

/-!
# The script of the page

The charts stand in the page as data and are drawn by a short script.  Inside a script a
browser looks for the end tag only, so the data must not hold one: a slash after a
less-than sign is written with a backslash before it, which means the same in a string.

## Main definitions

* `ChartScript.protect` — data without an end tag.
* `ChartScript.drawingCode` — the code that draws the charts.
* `ChartScript.text` — the script of a list of charts.
-/

namespace BenchReport.ChartScript

/-- Where the page loads the chart library from. -/
def libraryAddress : String :=
  "https://cdn.jsdelivr.net/npm/chart.js@4.4.0/dist/chart.umd.min.js"

/-! ### The data -/

/-- Puts a backslash between every less-than sign and a slash that follows it. -/
def protect : List Char → List Char
  | '<' :: '/' :: rest => '<' :: '\\' :: '/' :: protect rest
  | c :: rest => c :: protect rest
  | [] => []

/-- Charts as data. -/
def chartData (charts : List Chart) : List Char :=
  (Json.array (charts.map Chart.toJson)).compactChars

/-! ### The code -/

/-- Colours and fonts of all charts. -/
def settings : List String := [
  "Chart.defaults.color = '#8b949e';",
  "Chart.defaults.borderColor = '#30363d';",
  "Chart.defaults.font.family = '-apple-system, BlinkMacSystemFont, \"Segoe UI\", monospace';",
  "Chart.defaults.font.size = 12;"]

/-- Axis labels count in thousands and millions as the labels of the report do. -/
def compactFunction : List String := [
  "function compact(v) \x7b",
  "  if (v >= 1000000) return (v / 1000000).toFixed(v % 1000000 === 0 ? 0 : 1) + 'M';",
  "  if (v >= 1000) return (v / 1000).toFixed(v % 1000 === 0 ? 0 : 1) + 'K';",
  "  return v;",
  "\x7d"]

/-- Draws a chart into the canvas that its slot names. -/
def drawFunction : List String := [
  "function drawChart(spec) \x7b",
  "  const canvas = document.getElementById(spec.slot);",
  "  if (!canvas) return;",
  "  const horizontal = spec.orientation === 'horizontal';",
  "  const valueAxis = horizontal ? 'x' : 'y';",
  "  const categoryAxis = horizontal ? 'y' : 'x';",
  "  const scales = \x7b\x7d;",
  "  scales[valueAxis] = \x7b grid: \x7b color: '#21262d' \x7d, ticks: \x7b callback: compact \x7d \x7d;",
  "  scales[categoryAxis] = \x7b grid: \x7b display: false \x7d \x7d;",
  "  new Chart(canvas.getContext('2d'), \x7b",
  "    type: 'bar',",
  "    data: \x7b",
  "      labels: spec.bars.map(b => b.label),",
  "      datasets: [\x7b",
  "        data: spec.bars.map(b => b.value),",
  "        backgroundColor: spec.bars.map(b => b.color),",
  "        borderRadius: 5,",
  "        borderSkipped: false",
  "      \x7d]",
  "    \x7d,",
  "    options: \x7b",
  "      indexAxis: horizontal ? 'y' : 'x',",
  "      responsive: true,",
  "      maintainAspectRatio: false,",
  "      plugins: \x7b",
  "        legend: \x7b display: false \x7d,",
  "        tooltip: \x7b",
  "          callbacks: \x7b",
  "            label: ctx => ' ' + ctx.parsed[valueAxis].toLocaleString(undefined, \x7b maximumFractionDigits: 1 \x7d)",
  "              + (spec.unit ? ' ' + spec.unit : '')",
  "          \x7d",
  "        \x7d",
  "      \x7d,",
  "      scales: scales",
  "    \x7d",
  "  \x7d);",
  "\x7d"]

/-- Draws all charts. -/
def drawing : List String := [
  "CHARTS.forEach(drawChart);"]

/-- The code that draws the charts: groups of lines, with an empty line before each. -/
def drawingCode : String :=
  String.join ([settings, compactFunction, drawFunction, drawing].map fun group =>
    "\n" ++ String.join (group.map (· ++ "\n")))

/-- The script of a list of charts. -/
def text (charts : List Chart) : List Char :=
  "const CHARTS = ".toList ++ protect (chartData charts) ++ ";\n".toList ++ drawingCode.toList

end BenchReport.ChartScript
