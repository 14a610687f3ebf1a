/-
The command line. Flags take no value and are given at most once; `--config` takes a path and is given at most once;
`-c` and `--command` take a line each time, and the lines keep their order. Nothing else is accepted.

A value stands behind its option, after an equals sign, or directly after the letter. A word that begins with a dash
is never the value of the option before it, a dash alone apart. An option is stored when the next flag or option
comes, or at the end; only then it is found to lack its value, so a word that is not known is reported first.
-/
namespace HostConsole

/-- what the command line asks for -/
structure Options where
  config : Option String := none
  visible : Bool := false
  noColour : Bool := false
  commands : List String := []
  deriving DecidableEq

namespace Options

/-- options without a value -/
inductive Flag where
  | visible
  | noColour
  | help
  | version
  deriving DecidableEq

/-- options with a value -/
inductive Valued where
  | config
  | command
  deriving DecidableEq

/-- why a command line gives no options -/
inductive Stop where
  | unknownArgument
  | missingValue
  | repeated
  | unexpectedValue
  | help
  | version
  deriving DecidableEq

/-- help and version are no failures -/
def Stop.exitCode : Stop → UInt8
  | help | version => 0
  | _ => 2

/-! ## Words -/

/-- what a name stands for -/
inductive Name where
  | flag (flag : Flag)
  | valued (option : Valued)
  deriving DecidableEq

/-- names after two dashes -/
def longNames : List (String × Name) :=
  [("config", .valued .config), ("visible", .flag .visible), ("no-color", .flag .noColour),
   ("command", .valued .command), ("help", .flag .help), ("version", .flag .version)]

/-- letters after one dash -/
def shortNames : List (Char × Name) :=
  [('c', .valued .command), ('h', .flag .help), ('V', .flag .version)]

/-- what one word of the command line says -/
inductive Word where
  | flag (flag : Flag)
  | option (option : Valued) (attached : Option String)
  | plain (text : String)
  | flagWithValue
  | unknown
  deriving DecidableEq

/-- the word of a long name and the value attached to it -/
def Word.ofLong (name : String) (attached : Option String) : Word :=
  match longNames.lookup name, attached with
  | some (.flag f), none => .flag f
  | some (.flag _), some _ => .flagWithValue
  | some (.valued v), attached => .option v attached
  | none, _ => .unknown

/-- the word of a letter and the characters after it -/
def Word.ofShort (letter : Char) (rest : List Char) : Word :=
  match shortNames.lookup letter, rest with
  | some (.flag f), _ => .flag f
  | some (.valued v), [] => .option v none
  | some (.valued v), '=' :: value => .option v (some (String.ofList value))
  | some (.valued v), value => .option v (some (String.ofList value))
  | none, _ => .unknown

/-- read one word -/
def Word.read (text : String) : Word :=
  match text.toList with
  | '-' :: '-' :: long =>
    match long.span (· != '=') with
    | (name, []) => .ofLong (String.ofList name) none
    | (name, _ :: value) => .ofLong (String.ofList name) (some (String.ofList value))
  | '-' :: letter :: rest => .ofShort letter rest
  | _ => .plain text

/-! ## Reading -/

/-- raise a flag -/
def raise (options : Options) : Flag → Except Stop Options
  | .visible => if options.visible then .error .repeated else .ok { options with visible := true }
  | .noColour => if options.noColour then .error .repeated else .ok { options with noColour := true }
  | .help => .error .help
  | .version => .error .version

/-- store the value of an option -/
def store (options : Options) : Valued → String → Except Stop Options
  | .config, path =>
    if options.config.isSome then .error .repeated else .ok { options with config := some path }
  | .command, line => .ok { options with commands := options.commands ++ [line] }

/-- the options so far, and the option not stored yet with the value that stood behind it -/
structure Reading where
  options : Options
  pending : Option (Valued × Option String)

namespace Reading

/-- store the pending option -/
def settle (reading : Reading) : Except Stop Options :=
  match reading.pending with
  | none => .ok reading.options
  | some (_, none) => .error .missingValue
  | some (option, some value) => reading.options.store option value

/-- take one word -/
def take (reading : Reading) : Word → Except Stop Reading
  | .flag flag => do
    let options ← (← reading.settle).raise flag
    return ⟨options, none⟩
  | .option option (some value) => do
    let options ← (← reading.settle).store option value
    return ⟨options, none⟩
  | .option option none => do
    let options ← reading.settle
    return ⟨options, some (option, none)⟩
  | .plain text =>
    match reading.pending with
    | some (option, none) => .ok { reading with pending := some (option, some text) }
    | _ => .error .unknownArgument
  | .flagWithValue => .error .unexpectedValue
  | .unknown => .error .unknownArgument

/-- take the words one after the other; after two dashes alone none may follow -/
def takeAll (reading : Reading) : List String → Except Stop Options
  | [] => reading.settle
  | word :: rest =>
    if word = "--" then if rest.isEmpty then reading.settle else .error .unknownArgument
    else
      match reading.take (.read word) with
      | .ok reading => takeAll reading rest
      | .error stop => .error stop

end Reading

/-- the options of a command line, the program's name left out -/
def ofArguments (arguments : List String) : Except Stop Options :=
  Reading.takeAll ⟨{}, none⟩ arguments

end Options

end HostConsole
