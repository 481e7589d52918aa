/-
Module: BlankCode.CommandLine.Usage
Purpose: What the command line says of itself.
Main exports: Usage.programName, Usage.synopsis, Usage.help
-/

namespace BlankCode.Usage

/-- The name that the program goes by. -/
def programName : String := "pywhitespace"

/-- How the program is called. -/
def synopsis : String :=
  "usage: " ++ programName ++ " [-h] [--max-steps MAX_STEPS] [--list] [--verbose] [file]"

/-- The lines of the help text. [SPEC build_parser] -/
def help : List String :=
  [synopsis,
    "",
    "Run a Whitespace program.",
    "",
    "positional arguments:",
    "  file                  Source file to run (default: hello-world.ws)",
    "",
    "options:",
    "  -h, --help            show this help message and exit",
    "  --max-steps MAX_STEPS, -n MAX_STEPS",
    "                        Fail if the program has not exited after this many",
    "                        instructions",
    "  --list, -l            Print the parsed commands and their IMP group instead",
    "                        of running them",
    "  --verbose, -v         Trace parsing, translation and every executed",
    "                        instruction"]

end BlankCode.Usage
