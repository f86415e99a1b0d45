import DocSnippets.Command.Request

/-!
# DocSnippets.Command.Usage

**Usage and help texts** of the program and its two commands. Help goes to the standard output; a
problem is told after the usage on the standard error.
-/

namespace DocSnippets

namespace Command

namespace Manual

def speaker : Manual → Text
  | .top => "cmdoc".toList
  | .build => "cmdoc build".toList
  | .lookup => "cmdoc lookup".toList

/-- Lines of text, each ended by a line feed. -/
def textOfLines (ls : List String) : Text := ls.flatMap fun l => l.toList ++ ['\n']

/-- How the program or a command is called. -/
def usage : Manual → Text
  | .top => textOfLines ["usage: cmdoc [-h] [--verbose] \x7bbuild,lookup\x7d ..."]
  | .build =>
    textOfLines
      ["usage: cmdoc build [-h] --path PATH [--extension EXTENSION]",
        "                   [--exclude EXCLUDE] [--workers WORKERS]",
        "                   [--format \x7btable,json\x7d] [--output OUTPUT]"]
  | .lookup =>
    textOfLines ["usage: cmdoc lookup [-h] --table TABLE --name NAME [--single-line]"]

/-- What the arguments mean. -/
def arguments : Manual → Text
  | .top =>
    textOfLines
      ["positional arguments:",
        "  \x7bbuild,lookup\x7d",
        "",
        "options:",
        "  -h, --help      show this help message and exit",
        "  --verbose       Enable debug logging."]
  | .build =>
    textOfLines
      ["options:",
        "  -h, --help            show this help message and exit",
        "  --path PATH           Documentation directory; repeat to combine several.",
        "  --extension EXTENSION",
        "                        Suffix of documentation source files.",
        "  --exclude EXCLUDE     Gitignore-style pattern to skip; may be repeated.",
        "  --workers WORKERS     Number of worker threads processing files.",
        "  --format \x7btable,json\x7d",
        "                        Output format.",
        "  --output OUTPUT       Optional output file path for the JSON table artifact."]
  | .lookup =>
    textOfLines
      ["options:",
        "  -h, --help     show this help message and exit",
        "  --table TABLE  JSON table artifact written by build.",
        "  --name NAME    Entity name to resolve.",
        "  --single-line  Render the synopsis only, flattened to one line."]

def help (m : Manual) : Text := m.usage ++ '\n' :: m.arguments

end Manual

/-- What a reply writes to the standard output. -/
def Reply.stdout (r : Reply) : Text :=
  match r.notice with
  | .help => r.manual.help
  | .problem _ => []

/-- What a reply writes to the standard error. -/
def Reply.stderr (r : Reply) : Text :=
  match r.notice with
  | .help => []
  | .problem p => r.manual.usage ++ r.manual.speaker ++ ": error: ".toList ++ p.words ++ ['\n']

end Command

end DocSnippets
