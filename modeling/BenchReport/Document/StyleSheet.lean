/-!
# The style of the page

The style sheet of the browser document, in groups with an empty line between them.

## Main definitions

* `StyleSheet.rule`, `StyleSheet.block` — a rule on one line, and on lines of its own.
* `StyleSheet.text` — the style sheet.
-/

namespace BenchReport.StyleSheet

/-- A rule on one line. -/
def rule (selector body : String) : String := selector ++ " \x7b " ++ body ++ " \x7d\n"

/-- A rule with every declaration on a line of its own. -/
def block (selector : String) (declarations : List String) : String :=
  selector ++ " \x7b\n" ++ String.join (declarations.map fun d => "  " ++ d ++ "\n") ++ "\x7d\n"

/-- Colours, and what holds for the whole page. -/
def base : List String := [
  block ":root" [
    "--bg:      #0d1117;",
    "--panel:   #161b22;",
    "--border:  #30363d;",
    "--text:    #e6edf3;",
    "--muted:   #8b949e;",
    "--accent:  #58a6ff;",
    "--green:   #3fb950;",
    "--orange:  #d29922;",
    "--purple:  #bc8cff;",
    "--red:     #f85149;"],
  rule "*" "box-sizing: border-box; margin: 0; padding: 0;",
  block "body" [
    "background: var(--bg);",
    "color: var(--text);",
    "font-family: -apple-system, BlinkMacSystemFont, \"Segoe UI\", Roboto, monospace;",
    "font-size: 14px;",
    "line-height: 1.6;"],
  block "header" [
    "background: linear-gradient(135deg, #0d1117 0%, #161b22 100%);",
    "border-bottom: 1px solid var(--border);",
    "padding: 32px 40px 24px;"],
  rule "header h1" "font-size: 28px; font-weight: 700; letter-spacing: -0.5px;",
  rule "header h1 span" "color: var(--accent);",
  rule "header p" "color: var(--muted); margin-top: 6px; font-size: 13px;"]

/-- The remarks on the environment. -/
def badges : List String := [
  rule ".badges" "display: flex; gap: 10px; margin-top: 14px; flex-wrap: wrap;",
  block ".badge" [
    "background: var(--panel);",
    "border: 1px solid var(--border);",
    "border-radius: 20px;",
    "padding: 3px 12px;",
    "font-size: 12px;",
    "color: var(--muted);"],
  rule ".badge b" "color: var(--text);"]

/-- The width of the page. -/
def page : List String := [
  rule "main" "padding: 32px 40px; max-width: 1400px; margin: 0 auto;"]

/-- The headline cards. -/
def cards : List String := [
  block ".kpi-grid" [
    "display: grid;",
    "grid-template-columns: repeat(auto-fill, minmax(180px, 1fr));",
    "gap: 16px;",
    "margin-bottom: 40px;"],
  block ".kpi" [
    "background: var(--panel);",
    "border: 1px solid var(--border);",
    "border-radius: 10px;",
    "padding: 18px 20px;",
    "transition: border-color .2s;"],
  rule ".kpi:hover" "border-color: var(--accent);",
  rule ".kpi .label"
    ("font-size: 11px; color: var(--muted); text-transform: uppercase;\n" ++
      "              letter-spacing: .6px; margin-bottom: 6px;"),
  rule ".kpi .value" "font-size: 26px; font-weight: 700; font-variant-numeric: tabular-nums;",
  rule ".kpi .unit " "font-size: 12px; color: var(--muted); margin-top: 2px;",
  rule ".kpi.blue   .value" "color: var(--accent);",
  rule ".kpi.green  .value" "color: var(--green);",
  rule ".kpi.purple .value" "color: var(--purple);",
  rule ".kpi.orange .value" "color: var(--orange);"]

/-- The headings of the sections. -/
def sections : List String := [
  rule ".section" "margin-bottom: 48px;",
  block ".section-header" [
    "display: flex; align-items: center; gap: 12px;",
    "margin-bottom: 20px;",
    "border-bottom: 1px solid var(--border);",
    "padding-bottom: 12px;"],
  block ".section-icon" [
    "width: 32px; height: 32px; border-radius: 8px;",
    "display: flex; align-items: center; justify-content: center;",
    "font-size: 16px;"],
  rule ".section-icon.server   " "background: rgba(88,166,255,.15);",
  rule ".section-icon.cache    " "background: rgba(63,185,80,.15);",
  rule ".section-icon.proxy    " "background: rgba(188,140,255,.15);",
  rule ".section-icon.websocket" "background: rgba(210,153,34,.15);",
  rule ".section h2" "font-size: 18px; font-weight: 600;",
  rule ".section p.desc" "font-size: 13px; color: var(--muted); margin-top: 2px;"]

/-- Charts and their boxes. -/
def charts : List String := [
  rule ".chart-grid" "display: grid; gap: 16px;",
  rule ".chart-grid.cols-1" "grid-template-columns: 1fr;",
  rule ".chart-grid.cols-2" "grid-template-columns: 1fr 1fr;",
  rule ".chart-grid.cols-3" "grid-template-columns: 1fr 1fr 1fr;",
  block "@media (max-width: 900px)" [
    ".chart-grid.cols-2,",
    ".chart-grid.cols-3 \x7b grid-template-columns: 1fr; \x7d"],
  block ".card" [
    "background: var(--panel);",
    "border: 1px solid var(--border);",
    "border-radius: 10px;",
    "padding: 20px 24px;"],
  rule ".card.table-card" "display: flex; flex-direction: column; justify-content: center;",
  block ".card h3" [
    "font-size: 13px; font-weight: 600; color: var(--muted);",
    "text-transform: uppercase; letter-spacing: .5px; margin-bottom: 16px;"],
  rule ".chart-wrap" "position: relative; height: 220px;"]

/-- The tables. -/
def tables : List String := [
  rule ".stat-table" "width: 100%; border-collapse: collapse; margin-top: 4px;",
  block ".stat-table th, .stat-table td" [
    "padding: 8px 12px; text-align: left; border-bottom: 1px solid var(--border);",
    "font-size: 13px;"],
  rule ".stat-table th"
    ("color: var(--muted); font-weight: 500; font-size: 12px;\n" ++
      "                 text-transform: uppercase; letter-spacing: .4px;"),
  rule ".stat-table tr:last-child td" "border-bottom: none;",
  rule ".stat-table .num"
    ("text-align: right; font-variant-numeric: tabular-nums;\n" ++
      "                   font-weight: 600; color: var(--text);"),
  rule ".stat-table .hi " "color: var(--green);",
  rule ".stat-table .lo " "color: var(--muted);"]

/-- The last line of the page. -/
def footer : List String := [
  block "footer" [
    "border-top: 1px solid var(--border);",
    "padding: 20px 40px;",
    "color: var(--muted);",
    "font-size: 12px;",
    "text-align: center;"]]

/-- The style sheet. -/
def text : String :=
  "\n".intercalate
    ([base, badges, page, cards, sections, charts, tables, footer].map String.join)

end BenchReport.StyleSheet
