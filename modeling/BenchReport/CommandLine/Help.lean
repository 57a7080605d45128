/-!
# Help and version

The texts that a command line can ask for.
-/

namespace BenchReport.Help

/-- The name and version of the program. -/
def version : String := "benchviz 1.0.0\n"

/-- What both help texts begin with. -/
def opening : String :=
  "Benchviz - Benchmark result visualizer\n\nUsage: benchviz [OPTIONS] [RESULTS_DIR]\n\n"

/-- The help in short. -/
def short : String := opening ++ "\n".intercalate [
  "Arguments:",
  "  [RESULTS_DIR]  Directory containing <suite>_*.json result files",
  "",
  "Options:",
  "  -o, --output-dir <DIR>  Directory to write reports to (defaults to RESULTS_DIR)",
  "  -f, --format <FORMAT>   Additional export format; HTML is always written " ++
    "[possible values: html, json, markdown]",
  "      --summary           Print a summary of the headline figures",
  "  -v, --verbose...        Increase log verbosity (-v info, -vv debug)",
  "  -h, --help              Print help (see more with '--help')",
  "  -V, --version           Print version",
  ""]

/-- The help in full. -/
def full : String := opening ++ "\n".intercalate [
  "Arguments:",
  "  [RESULTS_DIR]",
  "          Directory containing <suite>_*.json result files",
  "",
  "Options:",
  "  -o, --output-dir <DIR>",
  "          Directory to write reports to (defaults to RESULTS_DIR)",
  "",
  "  -f, --format <FORMAT>",
  "          Additional export format; HTML is always written",
  "",
  "          Possible values:",
  "          - html:     HTML document",
  "          - json:     JSON dump of the report model",
  "          - markdown: Markdown tables",
  "",
  "      --summary",
  "          Print a summary of the headline figures",
  "",
  "  -v, --verbose...",
  "          Increase log verbosity (-v info, -vv debug)",
  "",
  "  -h, --help",
  "          Print help (see a summary with '-h')",
  "",
  "  -V, --version",
  "          Print version",
  ""]

end BenchReport.Help
