import Conform.Config.Check
import Conform.Path
import Conform.Text.Utf8
import Conform.Toml.Reader

/-!
Loading a configuration: the defaults, under a file, under variables, under overrides. The layers
up to the file must be valid by themselves, and so must the whole.
-/
namespace Conform.Config

inductive Entry where
  | file (text : String)
  /-- A file whose octets may be no text. -/
  | octets (os : List UInt8)
  | directory
  deriving Repr

/-- Where a configuration is loaded: the surroundings, and the files there by their full paths. -/
structure Host where
  surroundings : Surroundings
  files : List (Path × Entry) := []
  deriving Repr

/-- The length of the longest name of a file, in octets. -/
def longestName : Nat := 255

/-- The length of the longest path, in octets. -/
def longestPath : Nat := 4095

namespace Host

/-- What is at a path. Whatever leads to a file or to the working directory is a directory. -/
def entry? (h : Host) (p : Path) : Option Entry :=
  match h.files.lookup p with
  | some e => some e
  | none =>
    if (h.surroundings.directory :: h.files.map (·.1)).any p.leadsTo then some .directory else none

/-- Whether a path in directories that are there meets a name that none can hold. -/
def meetsLongName (h : Host) (directory : Path) : List String → Bool
  | [] => false
  | name :: names =>
    let p : Path := { directory with parts := directory.parts ++ [name] }
    longestName < name.utf8ByteSize ||
      match h.entry? p with
      | some .directory => h.meetsLongName p names
      | _ => false

/-- Whether a path is too long, or one of its names. -/
def isTooLong (h : Host) (p : Path) : Bool :=
  longestPath < p.text.utf8ByteSize || h.meetsLongName ⟨p.anchor, []⟩ p.parts

end Host

def defaultFile : String := "schema_engine.toml"

/-- The path of the file, as asked for or by default. -/
def filePath (s : Surroundings) : Option String → Except Fault Path
  | none => .ok (.resolved s.directory (.parse defaultFile))
  | some text => do
    let p ← s.expandHome (.parse text)
    if p.parts.any Surroundings.holdsNull then throw Surroundings.nullFault
    return .resolved s.directory p

def unreadable (p : Path) : Fault :=
  .configLoad ("unable to read config file " ++ p.text ++ ": [Errno 21] Is a directory: " ++
    Text.quoted p.text)

/-- The layer that the text of a file holds. -/
def textLayer (p : Path) (text : String) : Except Fault Members :=
  match Toml.read text with
  | .ok ms => .ok ms
  | .error (.invalid m) => .error (.configLoad ("invalid TOML in " ++ p.text ++ ": " ++ m))
  | .error (.digitLimit n) => .error (.digitLimit n)

/-- The layer of a file. Only a file that was asked for must be there. -/
def fileLayer (h : Host) (p : Path) (isRequired : Bool) : Except Fault Members :=
  match h.entry? p with
  | none =>
    if h.isTooLong p then .error (.longName p.text)
    else if isRequired then .error (.configLoad ("config file not found: " ++ p.text)) else .ok []
  | some .directory => .error (unreadable p)
  | some (.file text) => textLayer p text
  | some (.octets os) => do textLayer p (← Text.ofUtf8 os)

mutual

/-- What is no section, with the path to it. -/
def leavesOf (path : List String) : Value → List (List String × Value)
  | .obj ms => leaves path ms
  | v => [(path, v)]

def leaves (path : List String) : List (String × Value) → List (List String × Value)
  | [] => []
  | (k, v) :: ms => leavesOf (path ++ [k]) v ++ leaves path ms

end

/-- The variable that sets what a path names. -/
def variableName (path : List String) : String :=
  "SCHEMA_ENGINE_" ++ String.intercalate "_" (path.map Text.upper)

def yesWords : List String := ["1", "true", "t", "yes", "y", "on"]

def noWords : List String := ["0", "false", "f", "no", "n", "off"]

/-- A variable's text as a value of the kind of the one it replaces; of other kinds there are no
variables. -/
def coerced (old : Value) (path : List String) (text : String) : Except Fault (Option Value) :=
  let target := variableName path ++ " -> " ++ String.intercalate "." path
  match old with
  | .str _ => .ok (some (.str (Text.trim text)))
  | .int _ =>
    match Text.integer? (Text.trim text) with
    | some n => .ok (some (.int n))
    | none => .error (.configLoad (target ++ " must be an integer"))
  | .bool _ =>
    let word := Text.lower (Text.trim text)
    if yesWords.contains word then .ok (some (.bool true))
    else if noWords.contains word then .ok (some (.bool false))
    else .error (.configLoad (target ++ " must be a boolean (true/false/1/0/yes/no/on/off)"))
  | _ => .ok none

/-- Adds the value of a leaf's variable, if it is set, to a layer. -/
def addVariable (vars : List (String × String)) (layer : Members)
    (leaf : List String × Value) : Except Fault Members :=
  match vars.lookup (variableName leaf.1) with
  | none => .ok layer
  | some text => do
    match ← coerced leaf.2 leaf.1 text with
    | some v => return setAt leaf.1 v layer
    | none => return layer

/-- The layer of the variables, read in the order of their names. -/
def variableLayer (c : Members) (vars : List (String × String)) : Except Fault Members :=
  ((leaves [] (ordered c)).mergeSort fun a b =>
      !decide (variableName b.1 < variableName a.1)).foldlM (addVariable vars) []

/-- The path that an override's name gives, parts being separated by points. -/
def overridePath (name : String) : List String := (Text.splitAtChar '.' name).filter (· != "")

def addOverride (layer : Members) (o : String × Value) : Except Fault Members :=
  match overridePath o.1 with
  | [] => .error (.configLoad ("invalid override key " ++ Text.quoted o.1))
  | path => .ok (setAt path (orderedValue o.2) layer)

/-- The layer of the overrides, in the order of their names. -/
def overrideLayer (overrides : Members) : Except Fault Members :=
  overrides.sorted.foldlM addOverride []

/-- The full path of a log file, seen from a directory. -/
def logPath (s : Surroundings) (directory : Path) (text : String) : Except Fault Path := do
  let p ← s.expandHome (.parse (s.expandVariables text))
  return (directory.join p).normalized

/-- Puts the full path of the log file in its place. -/
def withLogPath (s : Surroundings) (directory : Path) (c : Members) : Except Fault Members :=
  match c.get? "observability" with
  | some (.obj ms) =>
    match Members.get? ms "log_file" with
    | some (.str text) =>
      if text.isEmpty then .ok c
      else
        (logPath s directory text).map fun p =>
          c.put "observability" (.obj (Members.put ms "log_file" (.str p.text)))
    | _ => .ok c
  | _ => .ok c

/-- The configuration at a host. Without variables given, those of the host count. -/
def load (h : Host) (path : Option String) (overrides : Members)
    (vars : Option (List (String × String))) : Except Fault Members := do
  let file ← filePath h.surroundings path
  let base ← require (.obj (merge defaults (← fileLayer h file path.isSome)))
  let fromVariables ← variableLayer base (vars.getD h.surroundings.vars)
  let fromOverrides ← overrideLayer overrides
  let whole := merge (merge base fromVariables) fromOverrides
  require (.obj (← withLogPath h.surroundings file.parent whole))

end Conform.Config
