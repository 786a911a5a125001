/-!
The arguments of the command line: an init script to run instead of the default one, chunks to run
after it, and how much to log.
-/

namespace TileScript

structure Options where
  init : Option String
  eval : List String
  verbose : Bool
  deriving DecidableEq, Repr, Inhabited

namespace Options

/-- Why the arguments do not lead to a run. -/
inductive Refusal where
  | unknownArgument
  | invalidValue
  | argumentConflict
  | tooManyValues
  | help
  | version
  deriving DecidableEq, Repr

/-- Asking for help or the version is no failure. -/
def Refusal.exitCode : Refusal → Nat
  | .help | .version => 0
  | _ => 2

/-- The options that take a value. -/
inductive Valued where
  | init
  | eval
  deriving DecidableEq, Repr

/-- The options read so far, and one whose value has not been taken over yet. -/
structure Reading where
  options : Options
  pending : Option (Valued × Option String)

/-- Takes over the value of an option. A second init script is a conflict even if it is empty. -/
def give (options : Options) : Valued → String → Except Refusal Options
  | .eval, value => .ok { options with eval := options.eval ++ [value] }
  | .init, value =>
    if options.init.isSome then .error .argumentConflict
    else if value.isEmpty then .error .invalidValue
    else .ok { options with init := some value }

namespace Reading

/-- Takes over the option that is pending. -/
def settle (reading : Reading) : Except Refusal Options :=
  match reading.pending with
  | none => .ok reading.options
  | some (_, none) => .error .invalidValue
  | some (option, some value) => give reading.options option value

def verbose (reading : Reading) : Except Refusal Reading := do
  let options ← reading.settle
  if options.verbose then throw .argumentConflict
  return ⟨{ options with verbose := true }, none⟩

def refuse (reading : Reading) (refusal : Refusal) : Except Refusal Reading := do
  let _ ← reading.settle
  throw refusal

/-- An option by its long name, with the value attached to it if there is one. -/
def long (reading : Reading) (name : List Char) (value : Option String) :
    Except Refusal Reading := do
  let valued (option : Valued) : Except Refusal Reading := do
    let options ← reading.settle
    match value with
    | none => return ⟨options, some (option, none)⟩
    | some value => return ⟨← give options option value, none⟩
  let flag (act : Except Refusal Reading) : Except Refusal Reading :=
    if value.isSome then .error .tooManyValues else act
  match String.ofList name with
  | "init" => valued .init
  | "eval" => valued .eval
  | "verbose" => flag reading.verbose
  | "help" => flag (reading.refuse .help)
  | "version" => flag (reading.refuse .version)
  | _ => throw .unknownArgument

/-- Options by their letters, one after the other. -/
def short (reading : Reading) : List Char → Except Refusal Reading
  | [] => .ok reading
  | 'v' :: rest => do short (← reading.verbose) rest
  | 'h' :: _ => reading.refuse .help
  | 'V' :: _ => reading.refuse .version
  | _ :: _ => .error .unknownArgument

/-- An argument that starts no option: the value of the option before it. -/
def value (reading : Reading) (argument : String) : Except Refusal Reading :=
  match reading.pending with
  | some (option, none) => .ok { reading with pending := some (option, some argument) }
  | _ => .error .unknownArgument

def argument (reading : Reading) (argument : String) : Except Refusal Reading :=
  match argument.toList with
  | '-' :: '-' :: rest =>
    let name := rest.takeWhile (· != '=')
    let attached := if name.length < rest.length then
        some (String.ofList (rest.drop (name.length + 1)))
      else none
    reading.long name attached
  | '-' :: letter :: rest => reading.short (letter :: rest)
  | _ => reading.value argument

/-- All arguments. After `--` no more of them are allowed. -/
def arguments (reading : Reading) : List String → Except Refusal Options
  | [] => reading.settle
  | "--" :: rest => if rest.isEmpty then reading.settle else .error .unknownArgument
  | argument :: rest => do (← reading.argument argument).arguments rest

end Reading

/-- The options that the arguments after the name of the program give. -/
def ofArguments (arguments : List String) : Except Refusal Options :=
  Reading.arguments ⟨⟨none, [], false⟩, none⟩ arguments

/-- The answer to a request for help. -/
def helpText : String :=
  "Run an init script against a recording host and print what it configured\n\n" ++
    "Usage: aero-script [OPTIONS]\n\n" ++ "Options:\n" ++
    "      --init <PATH>   Init script to run instead of `$XDG_CONFIG_HOME/aerospace/init.lua`\n" ++
    "      --eval <CHUNK>  Lua chunk to run after the init script; may be repeated\n" ++
    "  -v, --verbose       Log at debug level unless `RUST_LOG` says otherwise\n" ++
    "  -h, --help          Print help\n" ++ "  -V, --version       Print version\n"

def versionText : String := "aero-script 0.1.0\n"

/-- What a refusal prints as its answer; complaints go elsewhere. -/
def Refusal.answer : Refusal → String
  | .help => helpText
  | .version => versionText
  | _ => ""

end Options

namespace InitScript

def below (directory name : String) : String :=
  if directory.isEmpty || directory.endsWith "/" then directory ++ name
  else directory ++ "/" ++ name

/-- The default place of the init script: below the configuration directory if one is set, otherwise
below the one in the home directory. -/
def defaultPath (configHome : Option String) (home : String) : String :=
  let directory := match configHome with
    | some directory => if directory.isEmpty then below home ".config" else directory
    | none => below home ".config"
  below (below directory "aerospace") "init.lua"

end InitScript
end TileScript
