/-!
# Reference texts of the command line

The help of the command, its summary of the constraint grammar, and the introduction for a terminal
without input.
-/

namespace ViewLayout.CommandLine

/-- Lines as one text, each ended by a line break. -/
def paragraph (lines : List String) : String :=
  String.join (lines.map (· ++ "\n"))

/-- The line that shows the form of a call. -/
def usageLine : String := "Usage: constraint-dsl [OPTIONS] [INPUT]"

/-- The help of the command. -/
def helpText : String := paragraph [
  "Compile and solve layout constraint documents",
  "",
  usageLine,
  "",
  "Arguments:",
  "  [INPUT]  Layout document in TOML (reads from stdin if not provided)",
  "",
  "Options:",
  "  -c, --constraints  Print each constraint with the descriptors it compiled to",
  "  -g, --grammar      Show constraint grammar reference",
  "  -v, --verbose...   Increase logging (-v debug, -vv trace); RUST_LOG is used otherwise",
  "  -h, --help         Print help"]

/-- What is shown at a terminal that gives no document. -/
def introduction : String := paragraph [
  "Constraint DSL - layout constraints as text",
  "",
  "USAGE:",
  "    constraint-dsl [OPTIONS] [FILE]",
  "    cat layout.toml | constraint-dsl",
  "",
  "OPTIONS:",
  "    -c, --constraints  Print compiled constraints instead of frames",
  "    -g, --grammar      Show constraint grammar reference",
  "    -v, --verbose      More logging (-v debug, -vv trace)",
  "    -h, --help         Print help",
  "",
  "QUICK START:",
  "    printf '[container]\\nwidth = 100\\nheight = 50\\n' | constraint-dsl",
  "",
  "Prints one frame per view. Run --grammar for the constraint syntax."]

/-- The summary of the constraint grammar. -/
def grammarReference : String := paragraph [
  "CONSTRAINT DSL GRAMMAR",
  "======================",
  "",
  "EXTENDED FORMAT",
  "---------------",
  "X: <key>.<attr> <relation> <key>.<attr> [* value | / value] [+ value | - value]",
  "",
  "    X: title.centerX == parent.centerX",
  "    X: image.width == parent.width * 0.5 - pad",
  "    X: a.left >= b.right + 8",
  "",
  "Exactly one constraint per string. `/ v` multiplies by 1/v.",
  "",
  "STANDARD FORMAT",
  "---------------",
  "H:|-(pad)-[a]-[b(==80)]-(>=8@250)-|",
  "V:|[header][body]|",
  "",
  "    |          container edge",
  "    -          standard spacing (8 between views, 20 to the edge)",
  "    -(x)-      explicit spacing: a number or a metric",
  "    [a(==80)]  size along the chain's axis",
  "    @250       priority for one predicate",
  "",
  "ATTRIBUTES",
  "----------",
  "left right top bottom leading trailing width height centerX centerY baseline",
  "",
  "RELATIONS",
  "---------",
  "==  >=  <=",
  "",
  "KEYS",
  "----",
  "parent        the container view",
  "TOP_GUIDE     top layout guide, when declared",
  "BOTTOM_GUIDE  bottom layout guide, when declared",
  "",
  "DOCUMENTS",
  "---------",
  "constraints = [\"H:|-(pad)-[title]-(pad)-|\", \x7b format = \"V:|-[title]\", priority = 750 \x7d]",
  "",
  "[container]",
  "width = 320",
  "height = 480",
  "",
  "[metrics]",
  "pad = 16",
  "",
  "[[views]]",
  "key = \"title\"",
  "size = [120, 24]",
  "hugging = \x7b horizontal = 750 \x7d",
  "",
  "[linear]",
  "axis = \"vertical\"",
  "margins = \x7b ends = 20, sides = 16, between = 8 \x7d",
  "batches = [\x7b views = [\"title\"], centered = true \x7d]",
  "close = true"]

end ViewLayout.CommandLine
