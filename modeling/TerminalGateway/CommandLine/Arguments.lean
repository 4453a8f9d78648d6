import TerminalGateway.Asset
import TerminalGateway.Settings.Reader

/-!
# Command line arguments

The program takes the path of a file with settings and any number of assets.  Arguments are
taken one by one, and the first that is wrong ends the program.

Main definitions:

- `Plan`: what the arguments ask for.
- `Stop`: why the program ends before its gateway is started.
- `Plan.ofArguments`: reading the arguments.
- `Plan.settings`: the settings in effect.
-/

namespace TerminalGateway.CommandLine

/-- What the arguments ask for. -/
structure Plan where
  /-- The file with the settings, absent for those of the demonstration server. -/
  path : Option String := none
  assets : List Asset := []
deriving Repr, DecidableEq

/-- Why the program ends before its gateway is started. -/
inductive Stop where
  | help
  | missingPath
  | missingAsset
  | unknownArgument (argument : String)
  | asset (error : AssetError)
  | settings (error : SettingsError)
deriving Repr, DecidableEq

/-- The options of the program. -/
inductive Flag where
  | help
  | config
  | asset
deriving Repr, DecidableEq

/-- The option that an argument names. -/
def Flag.ofArgument? (argument : String) : Option Flag :=
  if argument = "--help" ∨ argument = "-h" then some help
  else if argument = "--config" ∨ argument = "-c" then some config
  else if argument = "--asset" ∨ argument = "-a" then some asset
  else none

namespace Plan

/-- The plan after further arguments. -/
def extend (plan : Plan) : List String → Except Stop Plan
  | [] => .ok plan
  | argument :: rest =>
      match Flag.ofArgument? argument, rest with
      | none, _ => .error (.unknownArgument argument)
      | some .help, _ => .error .help
      | some .config, [] => .error .missingPath
      | some .config, path :: rest => extend { plan with path := some path } rest
      | some .asset, [] => .error .missingAsset
      | some .asset, text :: rest =>
          match Asset.parse text with
          | .ok asset => extend { plan with assets := plan.assets ++ [asset] } rest
          | .error error => .error (.asset error)

/-- The plan that arguments ask for. -/
def ofArguments (arguments : List String) : Except Stop Plan :=
  extend {} arguments

/-- The settings in effect: those of the file, if there is to be one, else those of the
demonstration server.  `file` holds the bytes of the file, if it can be read. -/
def settings (plan : Plan) (file : Option (List UInt8)) (login password : Option String) :
    Except Stop Settings :=
  match plan.path with
  | none => .ok (Settings.demonstration.withEnvironment login password)
  | some _ =>
      match file with
      | none => .error (.settings .io)
      | some bytes => (Settings.ofFile bytes login password).mapError .settings

end Plan

end TerminalGateway.CommandLine
