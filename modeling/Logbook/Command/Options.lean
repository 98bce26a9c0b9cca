/-
Options of the command.  An option may come once; the options with a value take it from behind an
equals sign or from the next argument, which then must not look like an option.
-/
import Logbook.Level

namespace Logbook.Command

/-- What the arguments ask for. -/
structure Options where
  config : Option String := none
  node : Option String := none
  minLevel : Option Level := none
  level : Option Level := none
  json : Bool := false
  noLocal : Bool := false
  debug : Bool := false
  deriving DecidableEq, Repr

/-- Why the arguments do not make the command run. -/
inductive Refusal where
  | help
  | misuse
  deriving DecidableEq, Repr

namespace Options

/-- The level of the lines that are logged. -/
def lineLevel (options : Options) : Level :=
  options.level.getD .info

/-- Switches an option on.  The name must be that of a switch that is still off. -/
def switchOn (options : Options) : String → Except Refusal Options
  | "json" => if options.json then .error .misuse else .ok { options with json := true }
  | "no-local" => if options.noLocal then .error .misuse else .ok { options with noLocal := true }
  | "debug" => if options.debug then .error .misuse else .ok { options with debug := true }
  | "help" => .error .help
  | _ => .error .misuse

/-- An option with this name takes a value. -/
def takesValue (name : String) : Bool :=
  name == "config" || name == "node" || name == "min-level" || name == "level"

def levelOf (value : String) : Except Refusal Level :=
  (Level.parse value).mapError fun _ => .misuse

/-- Gives an option its value.  The name must be that of an option that has none yet. -/
def assign (options : Options) (name value : String) : Except Refusal Options :=
  match name with
  | "config" =>
      if options.config.isSome || value.isEmpty then .error .misuse
      else .ok { options with config := some value }
  | "node" =>
      if options.node.isSome then .error .misuse else .ok { options with node := some value }
  | "min-level" => do
      let level ← levelOf value
      if options.minLevel.isSome then .error .misuse
      else .ok { options with minLevel := some level }
  | "level" => do
      let level ← levelOf value
      if options.level.isSome then .error .misuse else .ok { options with level := some level }
  | _ => .error .misuse

/-- An argument that cannot be the value of an option before it. -/
def looksLikeOption (argument : String) : Bool :=
  match argument.toList with
  | '-' :: _ :: _ => true
  | _ => false

/-- An argument asks for help by a short option, whatever follows that. -/
def asksForHelp (argument : String) : Bool :=
  match argument.toList with
  | '-' :: 'h' :: _ => true
  | _ => false

/-- The name and the value of an argument that is a long option, and whether it has a value. -/
def splitLong? (argument : String) : Option (String × Option String) :=
  match argument.toList with
  | '-' :: '-' :: rest =>
      let name := String.ofList (rest.takeWhile (· != '='))
      match rest.dropWhile (· != '=') with
      | [] => some (name, none)
      | _ :: value => some (name, some (String.ofList value))
  | _ => none

/-- Reads arguments behind others. -/
def read (options : Options) : List String → Except Refusal Options
  | [] => .ok options
  | argument :: rest =>
      match splitLong? argument with
      | none => .error (if asksForHelp argument then .help else .misuse)
      | some ("", none) => if rest.isEmpty then .ok options else .error .misuse
      | some (name, some value) =>
          match options.assign name value with
          | .ok options => read options rest
          | .error refusal => .error refusal
      | some (name, none) =>
          if takesValue name then
            match rest with
            | [] => .error .misuse
            | value :: rest =>
                if looksLikeOption value then .error .misuse
                else match options.assign name value with
                  | .ok options => read options rest
                  | .error refusal => .error refusal
          else match options.switchOn name with
            | .ok options => read options rest
            | .error refusal => .error refusal

def ofArguments (arguments : List String) : Except Refusal Options :=
  read {} arguments

end Options

/-- How the command is used. -/
def usage : String :=
  "Log stdin lines through the nodelog facade\n\n" ++
  "Usage: nodelog [OPTIONS]\n\nOptions:\n" ++
  "      --config <CONFIG>        TOML config file layered over the built-in defaults\n" ++
  "      --node <NODE>            Node name stamped on every record (overrides the config)\n" ++
  "      --min-level <MIN_LEVEL>  Minimum level that gets through (overrides the config)\n" ++
  "      --level <LEVEL>          Level each input line is logged at [default: info]\n" ++
  "      --json                   Forward every record to stdout as a JSON line\n" ++
  "      --no-local               Disable the coloured stderr output\n" ++
  "      --debug                  Write nodelog's own diagnostics to stderr " ++
  "(filter with RUST_LOG)\n" ++
  "  -h, --help                   Print help\n"

namespace OptionsWitness

example : Options.ofArguments ["--level=WARN", "--node", "-", "--json", "--"] =
    .ok { level := some .warn, node := some "-", json := true } := by cbv

example : [["--node"], ["--node", "--json"], ["--json", "--json"], ["--json=1"], ["x"],
      ["--config="], ["--", "x"], ["--node=a", "--node=a"]].map Options.ofArguments =
    List.replicate 8 (.error .misuse) := by cbv

end OptionsWitness

end Logbook.Command
