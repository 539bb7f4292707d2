import NameOwners.Address.Parser
import NameOwners.Config.Basic
import NameOwners.Setting
import NameOwners.Text.Split
import NameOwners.Toml.Reader

/-!
A configuration in layers: the defaults, above them a TOML file, and above that the environment. A
variable names the place of its setting after a common beginning, with two underscores between the
parts; neither for variables nor for the keys of the file the case of letters counts, but a key of
the file that is itself a path has to have all its parts but the last in small letters.
-/

namespace NameOwners

/-! ### Places of settings -/

def isPathChar (c : Char) : Bool :=
  c.isAlphanum || c = '_' || c = '-' || c = ' '

/-- The position that stands between brackets: a whole number of 64 bits without a plus sign, with
blanks around it. -/
def bracketIndex? (cs : List Char) : Option Int :=
  let isSpace (c : Char) : Bool := c = ' ' || c = '\t'
  let word := ((cs.dropWhile isSpace).reverse.dropWhile isSpace).reverse
  if word.head? = some '+' then none
  else (Text.integer? word).filter Text.fitsInt64

/-- The parts of a path after its first: keys after dots and positions in brackets. -/
def pathSteps? : (fuel : Nat) → List Char → Option (List Setting.Step)
  | _, [] => some []
  | 0, _ => none
  | fuel + 1, '.' :: cs =>
    let name := cs.takeWhile isPathChar
    if name.isEmpty then none
    else (pathSteps? fuel (cs.dropWhile isPathChar)).map (.key (String.ofList name) :: ·)
  | fuel + 1, '[' :: cs =>
    match cs.dropWhile (· ≠ ']') with
    | [] => none
    | _ :: rest => do
      let i ← bracketIndex? (cs.takeWhile (· ≠ ']'))
      (.index i :: ·) <$> pathSteps? fuel rest
  | _ + 1, _ => none

/-- Where a key leads: along its parts if it is a path, else to a single place. -/
def pathOf (key : String) : List Setting.Step :=
  let cs := key.toList
  let name := cs.takeWhile isPathChar
  match if name.isEmpty then none else pathSteps? cs.length (cs.dropWhile isPathChar) with
  | some steps => .key (String.ofList name) :: steps
  | none => [.key key]

/-! ### The file -/

def fileSettings? (es : List (String × Setting)) : Option Setting :=
  es.foldlM (fun s (key, v) => Setting.putAt? v (pathOf key) s) (.table [])

/-! ### The environment -/

def variableBeginning : List Char := "dnsname_resolver__".toList

/-- A text with a dot in place of every two underscores. -/
def dotted : List Char → List Char
  | '_' :: '_' :: cs => '.' :: dotted cs
  | c :: cs => c :: dotted cs
  | [] => []

/-- The key of the setting that a variable gives, if it gives one. -/
def settingKey? (name : String) : Option String :=
  let cs := (Text.lowerCase name).toList
  if variableBeginning.isPrefixOf cs then
    some (String.ofList (dotted (cs.drop variableBeginning.length)))
  else none

/-- What the text of a variable is taken for: a truth value, a whole number of 64 bits, another
number, or a text. -/
def variableSetting (text : String) : Setting :=
  let cs := text.toList
  let word := Text.lowerCase text
  if word = "true" then .bool true
  else if word = "false" then .bool false
  else
    match (Text.integer? cs).filter Text.fitsInt64 with
    | some n => .integer n
    | none =>
      match Floating.read? cs with
      | some x => .float x
      | none => .string text

def overlayVariables? (s : Setting) (environment : List (String × String)) : Option Setting :=
  environment.foldlM (fun s (name, text) =>
    match settingKey? name with
    | some key => Setting.putAt? (variableSetting text) (pathOf key) s
    | none => some s) s

/-! ### The configuration -/

open Setting (RecordField)

def ResolverConfig.settingFields : List (RecordField ResolverConfig) := [
  ⟨"namespaces", fun c s => s.texts?.map ({ c with namespaces := · })⟩,
  ⟨"min_ttl", fun c s => (s.natural? UInt32.size).map ({ c with minTtl := ·.toUInt32 })⟩,
  ⟨"failure_threshold", fun c s =>
    (s.natural? UInt32.size).map ({ c with failureThreshold := ·.toUInt32 })⟩]

def metricsAddress? : Setting → Option (Option SocketAddress)
  | .nothing => some none
  | s => (s.text?.bind SocketAddress.read?).map some

def TelemetryConfig.settingFields : List (RecordField TelemetryConfig) := [
  ⟨"log_level", fun c s => s.text?.map ({ c with logLevel := · })⟩,
  ⟨"prometheus_addr", fun c s => (metricsAddress? s).map ({ c with metricsAddress := · })⟩]

def Config.settingFields : List (RecordField Config) := [
  ⟨"resolver", fun c s =>
    (s.record? ResolverConfig.settingFields {}).map ({ c with resolver := · })⟩,
  ⟨"telemetry", fun c s =>
    (s.record? TelemetryConfig.settingFields {}).map ({ c with telemetry := · })⟩]

inductive LoadFault where
  /-- A text or a value is not what it has to be. -/
  | unreadable
  /-- A path leads to an element that no array can have. -/
  | misplaced
deriving DecidableEq, Repr

/-- The configuration that a file, if there is one, and the environment give. The file is read
first, then all settings are put in their places, and last their values are taken. -/
def Config.load (file : Option String) (environment : List (String × String)) :
    Except LoadFault Config := do
  let es ←
    match file with
    | some text => (Toml.read? text).elim (throw .unreadable) pure
    | none => pure []
  match (fileSettings? es).bind (overlayVariables? · environment) with
  | none => throw .misplaced
  | some s => (s.record? Config.settingFields {}).elim (throw .unreadable) pure

end NameOwners
