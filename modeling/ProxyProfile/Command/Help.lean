/-
This file holds what the program says about itself.
-/

namespace ProxyProfile.Command

/-- A text of some lines. -/
def textOfLines (lines : List String) : String :=
  String.join (lines.map (· ++ "\n"))

/-- The name and the version of the program. -/
def versionText : String := "boxforge 0.1.0\n"

/-- What the program is for. -/
def programHelp : String := textOfLines [
  "Compile user-editable routing profiles into sing-box kernel configuration",
  "",
  "Usage: boxforge [OPTIONS] <COMMAND>",
  "",
  "Commands:",
  "  generate      Compile one profile, selected by id or name",
  "  trigger       Fire a lifecycle trigger",
  "  run-plugin    Run one handler of one plugin",
  "  subscription  Ingest a fetched subscription body from a file",
  "  help          Print this message or the help of the given subcommand(s)",
  "",
  "Options:",
  "  -c, --config <FILE>  Path to the settings file (YAML or TOML)",
  "  -h, --help           Print help",
  "  -V, --version        Print version"]

/-- What `generate` is for. -/
def generateHelp : String := textOfLines [
  "Compile one profile, selected by id or name",
  "",
  "Usage: boxforge generate [OPTIONS] <PROFILE>",
  "",
  "Arguments:",
  "  <PROFILE>  ",
  "",
  "Options:",
  "  -c, --config <FILE>         Path to the settings file (YAML or TOML)",
  "  -o, --output <OUTPUT_FILE>  Output path inside the data directory",
  "      --before-core-start     Also run the on::before::core::start plugins",
  "  -h, --help                  Print help"]

/-- What `trigger` is for. -/
def triggerHelp : String := textOfLines [
  "Fire a lifecycle trigger",
  "",
  "Usage: boxforge trigger [OPTIONS] <EVENT>",
  "",
  "Arguments:",
  "  <EVENT>  [possible values: startup, shutdown, ready, core-started, core-stopped, " ++
    "before-core-stop]",
  "",
  "Options:",
  "  -c, --config <FILE>  Path to the settings file (YAML or TOML)",
  "  -h, --help           Print help"]

/-- What `run-plugin` is for. -/
def runPluginHelp : String := textOfLines [
  "Run one handler of one plugin",
  "",
  "Usage: boxforge run-plugin [OPTIONS] <ID> [ARGS]...",
  "",
  "Arguments:",
  "  <ID>       ",
  "  [ARGS]...  Handler arguments, parsed as JSON when possible",
  "",
  "Options:",
  "  -c, --config <FILE>  Path to the settings file (YAML or TOML)",
  "      --event <EVENT>  [default: onRun]",
  "  -h, --help           Print help"]

/-- What `subscription` is for. -/
def subscriptionHelp : String := textOfLines [
  "Ingest a fetched subscription body from a file",
  "",
  "Usage: boxforge subscription [OPTIONS] <ID> <BODY>",
  "",
  "Arguments:",
  "  <ID>    ",
  "  <BODY>  ",
  "",
  "Options:",
  "  -c, --config <FILE>  Path to the settings file (YAML or TOML)",
  "  -h, --help           Print help"]

/-- What `help` is for. -/
def helpHelp : String := textOfLines [
  "Print this message or the help of the given subcommand(s)",
  "",
  "Usage: boxforge help [COMMAND]...",
  "",
  "Arguments:",
  "  [COMMAND]...  Print help for the subcommand(s)"]

end ProxyProfile.Command
