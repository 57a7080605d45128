import BenchReport.Document.ChartScript
import BenchReport.Document.Markup
import BenchReport.Document.StyleSheet

/-!
# The page

The browser document: a header with the remarks on the environment, the headline cards,
a section for every suite with its charts and its table, a footer, and the script that
draws the charts.

## Main definitions

* `Page.header`, `Page.card`, `Page.suiteSection`, `Page.footer` — the parts of the body.
* `Page.opening`, `Page.body` — what stands before the header, and all up to the script.
* `Report.html` — the document.
-/

namespace BenchReport.Page

open Markup Piece

/-! ### Header -/

/-- What stands before the body. -/
def opening (r : Report) : List Piece := [
  markup "<!DOCTYPE html>\n<html lang=\"en\">\n<head>\n",
  markup "<meta charset=\"UTF-8\">\n",
  markup "<meta name=\"viewport\" content=\"width=device-width, initial-scale=1.0\">\n",
  markup "<title>", text r.project, markup " Benchmark Results</title>\n",
  markup "<script src=\"", word ChartScript.libraryAddress, markup "\"></script>\n",
  markup "<style>\n", markup StyleSheet.text, markup "</style>\n</head>\n<body>\n\n"]

/-- A remark on the environment. -/
def badge (content : String) : List Piece :=
  [markup "    <span class=\"badge\">", text content, markup "</span>\n"]

/-- The header: project, subtitle, time and remarks. -/
def header (r : Report) : List Piece :=
  [markup "<header>\n",
    markup "  <h1><span>", text r.project, markup "</span> Benchmark Results</h1>\n",
    markup "  <p>", text r.subtitle, markup "</p>\n",
    markup "  <div class=\"badges\">\n",
    markup "    <span class=\"badge\">🕐 <b>", text r.timestamp, markup "</b></span>\n"] ++
  r.badges.flatMap badge ++ [markup "  </div>\n</header>\n\n"]

/-! ### Cards -/

/-- A headline card. -/
def card (c : Card) : List Piece := [
  markup "  <div class=\"kpi ", word c.tone.key, markup "\">\n",
  markup "    <div class=\"label\">", text c.label, markup "</div>\n",
  markup "    <div class=\"value\">", text c.display, markup "</div>\n",
  markup "    <div class=\"unit\">", text c.unit, markup "</div>\n",
  markup "  </div>\n"]

/-- The headline cards. -/
def cards (r : Report) : List Piece :=
  markup "<div class=\"kpi-grid\">\n" :: (r.cards.flatMap card ++ [markup "</div>\n\n"])

/-! ### Sections -/

/-- The number of columns: one for each chart and one for the table, but three at most. -/
def columns (s : Section) : Nat := min (s.charts.length + 1) 3

/-- The place where a chart is drawn. -/
def chart (c : Chart) : List Piece := [
  markup "    <div class=\"card\">\n",
  markup "      <h3>", text c.title, markup "</h3>\n",
  markup "      <div class=\"chart-wrap\"><canvas id=\"", text c.slot,
  markup "\"></canvas></div>\n",
  markup "    </div>\n"]

/-- The class of the cell with a value. -/
def valueClass (highlight : Bool) : String := if highlight then "num hi" else "num"

/-- A row of a table. -/
def row (r : Row) : List Piece := [
  markup "          <tr><td>", text r.label,
  markup "</td><td class=\"", word (valueClass r.highlight), markup "\">", word r.display,
  markup "</td><td class=\"num lo\">", text r.unit, markup "</td></tr>\n"]

/-- The table of a section. -/
def table (t : Table) : List Piece :=
  [markup "    <div class=\"card table-card\">\n",
    markup "      <h3>", text t.title, markup "</h3>\n",
    markup "      <table class=\"stat-table\">\n",
    markup "        <thead><tr><th>Test</th><th class=\"num\">Value</th>",
    markup "<th class=\"num\">Unit</th></tr></thead>\n",
    markup "        <tbody>\n"] ++
  t.rows.flatMap row ++ [markup "        </tbody>\n      </table>\n    </div>\n"]

/-- A section: heading, charts and table. -/
def suiteSection (s : Section) : List Piece :=
  [markup "<div class=\"section\">\n  <div class=\"section-header\">\n",
    markup "    <div class=\"section-icon ", word s.suite.key, markup "\">", text s.icon,
    markup "</div>\n",
    markup "    <div>\n      <h2>", text s.title, markup "</h2>\n",
    markup "      <p class=\"desc\">", text s.description, markup "</p>\n    </div>\n",
    markup "  </div>\n\n",
    markup "  <div class=\"chart-grid cols-", word (toString (columns s)), markup "\">\n"] ++
  s.charts.flatMap chart ++ table s.table ++ [markup "  </div>\n</div>\n\n"]

/-! ### Footer and document -/

/-- The footer: project, time and remarks on one line. -/
def footer (r : Report) : List Piece :=
  [markup "</main>\n\n<footer>\n",
    markup "  ", text r.project, markup " Benchmark · ", text r.timestamp] ++
  r.badges.flatMap (fun b => [markup " · ", text b]) ++ [markup "\n</footer>\n\n"]

/-- The body up to the script. -/
def body (r : Report) : List Piece :=
  header r ++ markup "<main>\n\n" :: (cards r ++ r.sections.flatMap suiteSection ++ footer r)

/-- The script and the end of the document. -/
def closing (r : Report) : List Char :=
  "<script>\n".toList ++ ChartScript.text r.charts ++ "</script>\n</body>\n</html>\n".toList

end Page

/-- The characters of the browser document. -/
def Report.htmlChars (r : Report) : List Char :=
  Markup.render (Page.opening r ++ Page.body r) ++ Page.closing r

/-- The browser document. -/
def Report.html (r : Report) : String := String.ofList r.htmlChars

end BenchReport
