/-
What the program says about itself.
-/
namespace SqlTemplate.CommandLine

/-- The text that lists commands and options. -/
def help : String :=
  "Analyze SQL query templates and merge JOIN/WHERE fragments into them\n\n" ++
  "Usage: sqlsift [OPTIONS] <COMMAND>\n\n" ++
  "Commands:\n" ++
  "  normalize   Rewrite `#\x7bname\x7d` placeholders to `?`\n" ++
  "  kind        Print the statement kind\n" ++
  "  tables      List referenced tables with alias and role\n" ++
  "  params      List bind placeholders in bind order\n" ++
  "  conditions  Classify JOIN-ON, WHERE, HAVING, INSERT and SET conditions\n" ++
  "  fields      List columns by clause role\n" ++
  "  analyze     Run every resolver and print a full report\n" ++
  "  merge       Merge a JOIN fragment and/or a WHERE predicate into the statement\n" ++
  "  help        Print this message or the help of the given subcommand(s)\n\n" ++
  "Options:\n" ++
  "      --dialect <DIALECT>  SQL dialect (generic, mysql, postgresql, sqlite, mssql)\n" ++
  "      --config <CONFIG>    JSON analyzer configuration file\n" ++
  "      --format <FORMAT>    Output format (text or json) [default: text]\n" ++
  "      --verbose            Print verbose diagnostics\n" ++
  "  -h, --help               Print help"

/-- What is said of arguments that make no sense. -/
def misuse : String :=
  "error: these arguments cannot be used\n\nUsage: sqlsift [OPTIONS] <COMMAND>\n\nFor more information, try '--help'."

end SqlTemplate.CommandLine
