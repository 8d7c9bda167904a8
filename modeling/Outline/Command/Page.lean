/-
What the command line says of itself.

There is one page for the program and one for each command, each with a
usage line and a longer text.
-/
namespace Outline

/-- The commands. -/
inductive Subcommand where
  | extract
  | languages
deriving DecidableEq, Repr, Inhabited

namespace Subcommand

/-- Every command. -/
def all : List Subcommand := [extract, languages]

/-- The name of a command. -/
def name : Subcommand → String
  | extract => "extract"
  | languages => "languages"

/-- The command of a name. -/
def ofName? (s : String) : Option Subcommand :=
  all.find? fun c => c.name == s

end Subcommand

/-- The pages: the program, or one of its commands. -/
inductive Page where
  | top
  | command (c : Subcommand)
deriving DecidableEq, Repr, Inhabited

/-- The version of the program. -/
def versionLine : String := "codestruct, version 0.1.0\n"

namespace Page

/-- The words that lead to a page. -/
def words (program : String) : Page → String
  | top => program
  | command c => program ++ " " ++ c.name

/-- What may follow the words. -/
def operands : Page → String
  | top => "[OPTIONS] COMMAND [ARGS]..."
  | command .extract => "[OPTIONS] PATHS..."
  | command .languages => "[OPTIONS]"

/-- The usage line of a page. -/
def usage (program : String) (p : Page) : String :=
  "Usage: " ++ p.words program ++ " " ++ p.operands ++ "\n"

/-- What a page explains. -/
def body : Page → List String
  | top =>
    ["  codestruct - extract functions, types and variables from source " ++
      "files.",
      "",
      "Options:",
      "  --version      Show the version and exit.",
      "  -v, --verbose  Enable debug logging",
      "  --help         Show this message and exit.",
      "",
      "Commands:",
      "  extract    Extract definitions from source files.",
      "  languages  List supported languages and their file extensions."]
  | command .extract =>
    ["  Extract definitions from source files.",
      "",
      "  PATHS are files or directories (searched recursively for " ++
        "supported files).",
      "",
      "Options:",
      "  --json                 Output as JSON",
      "  --include-content      Include definition source",
      "  --scopes               Resolve enclosing type/function",
      "  -j, --workers INTEGER  Worker processes",
      "  --help                 Show this message and exit."]
  | command .languages =>
    ["  List supported languages and their file extensions.",
      "",
      "Options:",
      "  --json  Output as JSON",
      "  --help  Show this message and exit."]

/-- The whole page. -/
def help (program : String) (p : Page) : String :=
  p.usage program ++ "\n" ++ String.join (p.body.map (· ++ "\n"))

end Page

end Outline
