/-!
The arguments of the program. They are taken from left to right: a request for help or for the
version is granted as soon as it is met, and so the first fault before it decides.
-/

namespace NameOwners.CommandLine

structure Options where
  config : Option String := none
  events : Option String := none
deriving DecidableEq, Repr

inductive Command where
  | replay (options : Options)
  | help
  | version
deriving DecidableEq, Repr

inductive UsageError where
  | unexpected (argument : String)
  | missingValue (option : String)
  | repeated (option : String)
  /-- A value for an argument that takes none. -/
  | needlessValue (argument : String)
deriving DecidableEq, Repr

def UsageError.message : UsageError → String
  | .unexpected argument => "unexpected argument '" ++ argument ++ "' found"
  | .missingValue option => "a value is required for '" ++ option ++ "' but none was supplied"
  | .repeated option => "the argument '" ++ option ++ "' cannot be used multiple times"
  | .needlessValue argument => "unexpected value for '" ++ argument ++ "' found"

inductive Switch where
  | config
  | events
  | help
  | version
deriving DecidableEq, Repr

namespace Switch

def ofLetter? : Char → Option Switch
  | 'c' => some config
  | 'e' => some events
  | 'h' => some help
  | 'V' => some version
  | _ => none

def name : Switch → List Char
  | config => "config".toList
  | events => "events".toList
  | help => "help".toList
  | version => "version".toList

def ofName? (cs : List Char) : Option Switch :=
  [config, events, help, version].find? (·.name = cs)

end Switch

inductive Argument where
  /-- A switch, perhaps with a value attached to it. -/
  | switch (s : Switch) (attached : Option (List Char))
  /-- The end of the switches. -/
  | separator
  | unknown
deriving DecidableEq, Repr

/-- Whether an argument is a switch by its looks, so that it is no value of the one before. -/
def looksLikeSwitch (cs : List Char) : Bool :=
  cs.head? = some '-' && cs ≠ ['-']

/-- Take an argument apart. After the single letter of a switch its value may follow directly or
after an equals sign; after a name, only the latter. -/
def Argument.of : List Char → Argument
  | ['-', '-'] => .separator
  | '-' :: '-' :: cs =>
    let attached :=
      match cs.dropWhile (· ≠ '=') with
      | [] => none
      | _ :: value => some value
    match Switch.ofName? (cs.takeWhile (· ≠ '=')) with
    | some s => .switch s attached
    | none => .unknown
  | '-' :: c :: cs =>
    let attached :=
      match cs with
      | [] => none
      | '=' :: value => some value
      | value => some value
    match Switch.ofLetter? c with
    | some .help => .switch .help none
    | some .version => .switch .version none
    | some s => .switch s attached
    | none => .unknown
  | _ => .unknown

/-- Set an option, which may be done only once and not to nothing. -/
def Options.set (o : Options) (s : Switch) (value : List Char) : Except UsageError Options :=
  let text := String.ofList value
  let name := "--" ++ String.ofList s.name
  if value.isEmpty then .error (.missingValue name)
  else
    match s, o with
    | .config, ⟨none, _⟩ => .ok { o with config := some text }
    | .events, ⟨_, none⟩ => .ok { o with events := some text }
    | _, _ => .error (.repeated name)

def Command.readFrom (o : Options) : List String → Except UsageError Command
  | [] => .ok (.replay o)
  | arg :: rest =>
    match Argument.of arg.toList with
    | .unknown => .error (.unexpected arg)
    | .separator =>
      match rest with
      | [] => .ok (.replay o)
      | next :: _ => .error (.unexpected next)
    | .switch .help none => .ok .help
    | .switch .version none => .ok .version
    | .switch .help (some _) => .error (.needlessValue arg)
    | .switch .version (some _) => .error (.needlessValue arg)
    | .switch s (some value) => do Command.readFrom (← o.set s value) rest
    | .switch s none =>
      match rest with
      | [] => .error (.missingValue arg)
      | value :: rest =>
        if looksLikeSwitch value.toList then .error (.missingValue arg)
        else do Command.readFrom (← o.set s value.toList) rest

def Command.read (args : List String) : Except UsageError Command :=
  Command.readFrom {} args

def versionText : String := "dnsname-resolver 0.1.0\n"

def helpText : String :=
  String.intercalate "\n" [
    "Owner index for DNSNameResolver registrations, kept in sync from a watch stream",
    "",
    "Usage: dnsname-resolver [OPTIONS]",
    "",
    "Options:",
    "  -c, --config <CONFIG>  Path to configuration file (TOML)",
    "  -e, --events <EVENTS>  JSON-lines notification file; reads stdin when omitted",
    "  -h, --help             Print help",
    "  -V, --version          Print version",
    ""]

end NameOwners.CommandLine
