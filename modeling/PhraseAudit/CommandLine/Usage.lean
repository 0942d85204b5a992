/-!
# The usage texts

What the command line prints about itself.
-/

namespace PhraseAudit.CommandLine

/-- The usage lines, which head the help and every complaint about arguments. -/
def usage : String :=
  "usage: phrasehunter [-h] [--json] [--output OUTPUT] [--keep-tags]\n" ++
  "                    [--encoding ENCODING] [--fail-on-unwrapped] [-v]\n" ++
  "                    path\n"

/-- The help. -/
def help : String :=
  usage ++
  "\n" ++
  "Find phrases wrapped as @[static#...] or @[static-header#...] that also appear\n" ++
  "unwrapped elsewhere in the same file, ignoring HTML-like tags.\n" ++
  "\n" ++
  "positional arguments:\n" ++
  "  path                 Path to the text file to scan.\n" ++
  "\n" ++
  "options:\n" ++
  "  -h, --help           show this help message and exit\n" ++
  "  --json               Print the report as JSON on stdout (logs go to stderr).\n" ++
  "  --output OUTPUT      Also write the JSON report to this file.\n" ++
  "  --keep-tags          Do not blank out <...> spans before searching.\n" ++
  "  --encoding ENCODING  Text encoding of the file (default: detect BOM, else\n" ++
  "                       UTF-8).\n" ++
  "  --fail-on-unwrapped  Exit with status 1 when any unwrapped occurrence is\n" ++
  "                       found.\n" ++
  "  -v, --verbose        Verbose debug logs\n"

/-- A complaint about the arguments. -/
def complaint (message : String) : String :=
  usage ++ "phrasehunter: error: " ++ message ++ "\n"

end PhraseAudit.CommandLine
