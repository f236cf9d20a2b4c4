import Southbound.Provider

/-!
# Command line

The program reads a configuration, runs a provider through one pass on a deployment in memory, where
no device answers, and prints what the provider has to say.  `--config` or the variable
`NELM_CONFIG` names the configuration file; without them it is where the environment keeps
configuration files.
-/

namespace Southbound.CommandLine

/-- The configuration file that the arguments name; `none` if they make no sense. -/
def configArgument? : List String → Option (Option String)
  | [] => some none
  | ["--config", path] => some (some path)
  | [argument] => (Text.splitFirst '=' argument.toList).bind fun (name, value) =>
      if String.ofList name = "--config" then some (some (String.ofList value)) else none
  | _ => none

/-- The levels that a configured level lets through. -/
def shownLevels (name : String) : List Level :=
  match Text.lowered name with
  | "off" => []
  | "error" => [.error]
  | "warn" => [.error, .warn]
  | "debug" | "trace" => [.error, .warn, .info, .debug]
  | _ => [.error, .warn, .info]

/-- What the provider says between a start and a shutdown. -/
def rehearsal (config : Config) (file : ConfigFile) : List LogLine :=
  let deployment := { Deployment.fresh (.ofSmall 1) [] with config := .file file }
  let (_, p) := (Provider.fresh config.settings 64 deployment).start.shutdown
  p.deployment.history.filterMap (·.line?)

/-- What is found at a path. -/
def readFile (path : String) : IO ConfigFile := do
  try
    return .content (← IO.FS.readBinFile path)
  catch
    | .noFileOrDirectory .. => return .missing
    | _ => return .directory

/-- Runs the program with a configuration file. -/
def run (path : String) : IO UInt32 := do
  let file ← readFile path
  match Config.load file with
  | .error e =>
    IO.eprintln s!"Error: loading configuration from {path}: {e.message}"
    return 1
  | .ok config =>
    let levels := shownLevels config.provider.logLevel
    for line in rehearsal config file do
      if levels.contains line.level then IO.println line.text
    return 0

end Southbound.CommandLine

open Southbound

/-- The whole program. -/
def main (arguments : List String) : IO UInt32 := do
  match CommandLine.configArgument? arguments with
  | none =>
    IO.eprintln "usage: provider [--config PATH]"
    return 2
  | some given =>
    match given <|> (← IO.getEnv "NELM_CONFIG") with
    | some path => CommandLine.run path
    | none =>
      match Config.path? (← IO.getEnv "XDG_CONFIG_HOME") (← IO.getEnv "HOME") with
      | .ok path => CommandLine.run path
      | .error e =>
        IO.eprintln s!"Error: {e.message}"
        return 1
