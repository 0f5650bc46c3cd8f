import Sm83Cost.Text.Basic

/-!
# Help

What the program says about its own use: one page for the program, and one for
each command.
-/

namespace Sm83Cost.Command.Help

set_option autoImplicit false

/-- The line about the option that every page ends with. -/
def ownLine (column : Nat) : Text :=
  ("  --help".toList.rightpad column ' ') ++ "Show this message and exit."

/-- The page of the program. -/
def program : Text :=
  Text.joined "\n" [
    "Usage: gbmetrics [OPTIONS] COMMAND [ARGS]...",
    "",
    "  Static byte and cycle metrics for Game Boy (RGBDS) assembly.",
    "",
    "  Use 'gbmetrics COMMAND --help' for the options of each command.",
    "",
    "Options:",
    "  -v, --verbose  Enable verbose output",
    "  --version      Show the version and exit.",
    ownLine 17,
    "",
    "Commands:",
    "  annotate  Print a source file with per-line byte and cycle annotations.",
    "  lookup    Describe one instruction: opcode, size, cycles and flags.",
    "  routines  List documented routines found under one or more directories."]

/-- The page of `annotate`. -/
def annotate : Text :=
  Text.joined "\n" [
    "Usage: gbmetrics annotate [OPTIONS] INPUT_FILE",
    "",
    "  Print a source file with per-line byte and cycle annotations.",
    "",
    "  INPUT_FILE is the assembly source file (.asm, .s, .inc). INCLUDE directives",
    "  are resolved relative to its directory so that macros defined in included",
    "  files are costed.",
    "",
    "  Examples:",
    "      gbmetrics annotate main.asm",
    "      gbmetrics annotate main.asm -s 120 --not-taken",
    "",
    "Options:",
    "  -s, --start-line INTEGER RANGE  Start cumulative counting at this line",
    "                                  (1-based)  [x>=1]",
    "  --not-taken                     Use not-taken cycle counts for conditional",
    "                                  instructions and macros",
    "  --predef-bytes INTEGER RANGE    Bytes per PREDEF call  [x>=0]",
    "  --predef-cycles INTEGER RANGE   Cycles per PREDEF call  [x>=0]",
    "  --predef-jump-bytes INTEGER RANGE",
    "                                  Bytes per PREDEF_JUMP  [x>=0]",
    "  --predef-jump-cycles INTEGER RANGE",
    "                                  Cycles per PREDEF_JUMP  [x>=0]",
    "  --no-cumulative                 Do not show running totals",
    "  -d, --details                   Show opcode, flag, macro and predef details",
    "                                  under each line",
    ownLine 34]

/-- The page of `lookup`. -/
def lookup : Text :=
  Text.joined "\n" [
    "Usage: gbmetrics lookup [OPTIONS] INSTRUCTION",
    "",
    "  Describe one instruction: opcode, size, cycles and flags.",
    "",
    "  INSTRUCTION is written as in source, e.g. \"ld a, [hl+]\".",
    "",
    "  Examples:",
    "      gbmetrics lookup \"bit 3, [hl]\"",
    "      gbmetrics lookup \"jr nz, .loop\"",
    "",
    "Options:",
    ownLine 10]

/-- The page of `routines`. -/
def routines : Text :=
  Text.joined "\n" [
    "Usage: gbmetrics routines [OPTIONS] ROOTS...",
    "",
    "  List documented routines found under one or more directories.",
    "",
    "  A routine is documented when comment lines directly above its label describe",
    "  its register inputs or purpose.",
    "",
    "  Examples:",
    "      gbmetrics routines src",
    "      gbmetrics routines src engine --name CopyBytes",
    "",
    "Options:",
    "  -n, --name TEXT  Show the documentation of one routine",
    ownLine 19]

end Sm83Cost.Command.Help
