import TypedScript.Diagnostic.Label
import TypedScript.Options.Json
import TypedScript.SourceFile
import TypedScript.Text.Quoted
import TypedScript.Tree.Outline

/-!
The command line: which arguments it takes, and what a run of it prints. Reading files is left to
the caller.
-/

namespace TypedScript.CommandLine

structure Request where
  files : List String := []
  typeText : Option String := none
  config : Option String := none
  ambient : Bool := false
  tokens : Bool := false
  tree : Bool := false
  verbosity : Nat := 0
  logJson : Bool := false
deriving DecidableEq, Repr

inductive UsageError
  | unknownArgument (argument : String)
  | valueMissing (option : String)
  | valueUnexpected (flag : String)
  | repeated (argument : String)
  | emptyPath
  | typeWithFiles
  | tokensWithTree
  | nothingToDo
deriving DecidableEq, Repr

inductive Stop
  | usageError (error : UsageError)
  | help
  | version
deriving DecidableEq, Repr

def setFlag (name : String) (isSet : Bool) (r : Request) : Except Stop Request :=
  if isSet then .error (.usageError (.repeated name)) else .ok r

def addFile (path : String) (r : Request) : Except Stop Request :=
  if path.isEmpty then .error (.usageError .emptyPath)
  else .ok { r with files := r.files ++ [path] }

def setConfig (path : String) (r : Request) : Except Stop Request :=
  if r.config.isSome then .error (.usageError (.repeated "--config"))
  else if path.isEmpty then .error (.usageError .emptyPath)
  else .ok { r with config := some path }

def setType (text : String) (r : Request) : Except Stop Request :=
  if r.typeText.isSome then .error (.usageError (.repeated "--type"))
  else .ok { r with typeText := some text }

def readFlag (name : String) (r : Request) : Except Stop Request :=
  match name with
  | "ambient" => setFlag "--ambient" r.ambient { r with ambient := true }
  | "tokens" => setFlag "--tokens" r.tokens { r with tokens := true }
  | "tree" => setFlag "--tree" r.tree { r with tree := true }
  | "log-json" => setFlag "--log-json" r.logJson { r with logJson := true }
  | "verbose" => .ok { r with verbosity := r.verbosity + 1 }
  | "help" => .error .help
  | "version" => .error .version
  | _ => .error (.usageError (.unknownArgument ("--" ++ name)))

def isFlag (name : String) : Bool :=
  ["ambient", "tokens", "tree", "log-json", "verbose", "help", "version"].contains name

inductive Valued
  | config
  | type

def Valued.ofName? : String → Option Valued
  | "config" => some .config
  | "type" => some .type
  | _ => none

def Valued.set : Valued → String → Request → Except Stop Request
  | .config => setConfig
  | .type => setType

inductive Cluster
  | done (request : Request)
  | wantsConfig (request : Request)

def readCluster (r : Request) : List Char → Except Stop Cluster
  | [] => .ok (.done r)
  | 'v' :: rest => readCluster { r with verbosity := r.verbosity + 1 } rest
  | 'h' :: _ => .error .help
  | 'V' :: _ => .error .version
  | ['c'] => .ok (.wantsConfig r)
  | 'c' :: rest =>
    let path := if rest.head? = some '=' then rest.tail else rest
    (setConfig (String.ofList path) r).map .done
  | c :: _ => .error (.usageError (.unknownArgument (String.ofList ['-', c])))

def canBeValue (argument : String) : Bool := argument = "-" || !argument.startsWith "-"

/-- An argument after two hyphens: a name, with a value after an equals sign perhaps. -/
def splitLong (text : List Char) : String × Option String :=
  match text.span (· != '=') with
  | (name, []) => (String.ofList name, none)
  | (name, _ :: value) => (String.ofList name, some (String.ofList value))

def readArguments (r : Request) : List String → Except Stop Request
  | [] => .ok r
  | argument :: rest =>
    match argument.toList with
    | ['-', '-'] => rest.foldlM (fun r path => addFile path r) r
    | '-' :: '-' :: long =>
      match splitLong long with
      | (name, some value) =>
        match Valued.ofName? name with
        | some option => do readArguments (← option.set value r) rest
        | none =>
          if isFlag name then .error (.usageError (.valueUnexpected name))
          else .error (.usageError (.unknownArgument argument))
      | (name, none) =>
        match Valued.ofName? name with
        | none => do readArguments (← readFlag name r) rest
        | some option =>
          match rest with
          | [] => .error (.usageError (.valueMissing name))
          | value :: rest =>
            if canBeValue value then do readArguments (← option.set value r) rest
            else .error (.usageError (.valueMissing name))
    | '-' :: c :: short => do
      match ← readCluster r (c :: short) with
      | .done r => readArguments r rest
      | .wantsConfig r =>
        match rest with
        | [] => .error (.usageError (.valueMissing "config"))
        | value :: rest =>
          if canBeValue value then do readArguments (← setConfig value r) rest
          else .error (.usageError (.valueMissing "config"))
    | _ => do readArguments (← addFile argument r) rest

def check (r : Request) : Except Stop Request :=
  if r.typeText.isSome && !r.files.isEmpty then .error (.usageError .typeWithFiles)
  else if r.tokens && r.tree then .error (.usageError .tokensWithTree)
  else if r.typeText.isNone && r.files.isEmpty then .error (.usageError .nothingToDo)
  else .ok r

def Request.ofArguments (arguments : List String) : Except Stop Request := do
  check (← readArguments {} arguments)

structure Outcome where
  status : Nat
  output : String := ""
  errors : String := ""

def versionText : String := "typegram 0.1.0\n"

def helpLines : List String := [
  "Parse TypeScript-style type grammar and report diagnostics",
  "",
  "Usage: typegram [OPTIONS] [FILE]...",
  "",
  "Arguments:",
  "  [FILE]...  Source files to parse",
  "",
  "Options:",
  "      --type <TEXT>    Parse this text as a single type instead of reading files",
  "  -c, --config <FILE>  JSON file with parser options (camelCase keys)",
  "      --ambient        Start every file in ambient context, as if it were a `.d.ts` file",
  "      --tokens         Dump the token stream instead of parsing",
  "      --tree           Print the syntax tree of each file",
  "  -v, --verbose...     Raise log verbosity (-v debug, -vv trace)",
  "      --log-json       Log JSON lines to stderr",
  "  -h, --help           Print help",
  "  -V, --version        Print version"]

def helpText : String := String.join (helpLines.map (· ++ "\n"))

/-- The options for a file: the configuration if there is one, and ambient if the name or the
request says so. -/
def Request.optionsFor (r : Request) (config : Option Options) (file : String) : Options :=
  let options := config.getD {}
  { options with ambient := options.ambient || isDeclarationFile file || r.ambient }

def tokenLine (t : Token) : String :=
  let value := if t.value.isEmpty then "" else " " ++ Text.quoted t.value
  t.extent.dotted ++ " " ++ t.kind.name ++ value ++ "\n"

def tokenListing (text : List Char) : String :=
  String.join ((Lexer.ofText text).tokens.map tokenLine)

def errorLines (diagnostics : List Diagnostic) : String :=
  String.join (diagnostics.map fun d => d.line ++ "\n")

/-- What is said of a text that was parsed: an outline and its diagnostics. -/
def conclude (outline : String) (diagnostics : List Diagnostic) : Outcome where
  status := if diagnostics.isEmpty then 0 else 1
  output := outline
  errors := errorLines diagnostics

def refuse : Failure → Outcome
  | .fatal d => { status := 1, errors := errorLines [d] }
  | .outOfFuel => { status := 1 }

def runType (text : String) (options : Options) : Outcome :=
  match StandaloneType.parse "<type>" options text.toList with
  | .ok parsed => conclude parsed.tree.outlineText parsed.diagnostics
  | .error e => refuse e

def runFile (r : Request) (file : String) (options : Options) (text : String) : Outcome :=
  if r.tokens then { status := 0, output := tokenListing text.toList }
  else match SourceFile.parse file options text.toList with
    | .ok parsed =>
      conclude (if r.tree then parsed.tree.fileOutlineText file else "") parsed.diagnostics
    | .error e => refuse e

def Outcome.append (a b : Outcome) : Outcome :=
  ⟨max a.status b.status, a.output ++ b.output, a.errors ++ b.errors⟩

variable {m : Type → Type} [Monad m]

def runFiles (read : String → m (Option String)) (r : Request) (config : Option Options) :
    List String → m Outcome
  | [] => return { status := 0 }
  | file :: files => do
    match ← read file with
    | none => return { status := 1, errors := "failed to read " ++ file ++ "\n" }
    | some text =>
      let outcome := runFile r file (r.optionsFor config file) text
      return outcome.append (← runFiles read r config files)

def runRequest (read : String → m (Option String)) (r : Request) (config : Option Options) :
    m Outcome :=
  match r.typeText with
  | some text => return runType text (r.optionsFor config "type.ts")
  | none => runFiles read r config r.files

/-- A configuration that cannot be read or makes no sense ends the run. -/
def withConfig (read : String → m (Option String)) (r : Request) : m Outcome := do
  match r.config with
  | none => runRequest read r none
  | some path =>
    match (← read path).bind Options.ofJson? with
    | none => return { status := 1, errors := "failed to read config " ++ path ++ "\n" }
    | some options => runRequest read r (some options)

def run (read : String → m (Option String)) (arguments : List String) : m Outcome :=
  match Request.ofArguments arguments with
  | .ok r => withConfig read r
  | .error .help => return { status := 0, output := helpText }
  | .error .version => return { status := 0, output := versionText }
  | .error (.usageError _) => return { status := 2 }

end TypedScript.CommandLine
