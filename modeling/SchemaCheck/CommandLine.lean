import SchemaCheck.Loader
/-! The command `jhs-check`: its arguments, and a run over a file tree with the status and the texts it
leaves. -/
namespace SchemaCheck.CommandLine

variable [Wording]

structure Options where
  sources : List String := []
  pattern : Option String := none
  config : Option String := none
  deriving DecidableEq, Repr

inductive Request where
  | check (o : Options)
  | version
  | help
  | usage
  deriving DecidableEq, Repr

/-! ## Arguments -/

inductive Flag where
  | pattern | config
  deriving DecidableEq, Repr

inductive Argument where
  | stop
  | value (s : String)
  | flag (f : Flag) (value : Option String)
  | version
  | help
  | unknown
  deriving DecidableEq, Repr

def longArgument (name : List Char) (value : Option String) : Argument :=
  if name = "pattern".toList then .flag .pattern value
  else if name = "config".toList then .flag .config value
  else if value.isSome then .unknown
  else if name = "version".toList then .version
  else if name = "help".toList then .help
  else .unknown

def attached : List Char → Option String
  | [] => none
  | '=' :: rest => some (String.ofList rest)
  | cs => some (String.ofList cs)

def shortArgument : List Char → Argument
  | 'p' :: rest => .flag .pattern (attached rest)
  | 'c' :: rest => .flag .config (attached rest)
  | 'V' :: _ => .version
  | 'h' :: _ => .help
  | _ => .unknown

def argument (s : String) : Argument :=
  match s.toList with
  | ['-', '-'] => .stop
  | '-' :: '-' :: rest =>
    let name := rest.takeWhile (· ≠ '=')
    longArgument name (match rest.dropWhile (· ≠ '=') with
      | _ :: value => some (String.ofList value)
      | [] => none)
  | '-' :: c :: rest => shortArgument (c :: rest)
  | _ => .value s

def Options.set (o : Options) (f : Flag) (value : String) : Option Options :=
  match f with
  | .pattern => if o.pattern.isSome then none else some { o with pattern := some value }
  | .config =>
    if o.config.isSome || value.isEmpty then none else some { o with config := some value }

def Options.add (o : Options) (source : String) : Option Options :=
  if source.isEmpty then none else some { o with sources := o.sources ++ [source] }

def finish (o : Options) : Request := if o.sources.isEmpty then .usage else .check o

def parseSources : Options → List String → Request
  | o, [] => finish o
  | o, s :: rest => match o.add s with
    | none => .usage
    | some o => parseSources o rest

def parseFrom : Options → List String → Request
  | o, [] => finish o
  | o, s :: rest =>
    match argument s with
    | .stop => parseSources o rest
    | .value s => match o.add s with
      | none => .usage
      | some o => parseFrom o rest
    | .version => .version
    | .help => .help
    | .unknown => .usage
    | .flag f (some value) => match o.set f value with
      | none => .usage
      | some o => parseFrom o rest
    | .flag f none => match rest with
      | [] => .usage
      | v :: rest => match argument v with
        | .value v => match o.set f v with
          | none => .usage
          | some o => parseFrom o rest
        | _ => .usage

def parse (arguments : List String) : Request := parseFrom {} arguments

/-! ## Running -/

inductive Write where
  | record (x : LogRecord)
  | report (text : String)
  deriving DecidableEq, Repr

def Write.report? : Write → Option String
  | record _ => none
  | report text => some text

def Write.isSeen (shows : LogRecord → Bool) : Write → Bool
  | record x => shows x
  | report _ => true

structure Result where
  status : Nat
  output : String := ""
  written : List Write := []
  deriving DecidableEq, Repr

def Result.seen (r : Result) (shows : LogRecord → Bool) : List Write := r.written.filter (Write.isSeen shows)

/-- The error stream with the log turned off. -/
def Result.errors (r : Result) : String := String.join (r.written.filterMap Write.report?)

def referenceBit : Nat := 1

def fileBit : Nat := 2

def inputBit : Nat := 4

def errorLine (message : String) : String := "error: " ++ message ++ "\n"

def loader (t : FileTree) (o : Options) : Except String Loader := do
  let config ← match o.config with
    | none => pure {}
    | some path => match Config.load t path with
      | .ok c => pure c
      | .error e =>
        let words := Wording.configuration (t.read path)
        throw ("Failed to load config '" ++ path ++ "': " ++ e.message words)
  -- A pattern among the options is used in place of the configured one.
  let config := { config with pattern := o.pattern.or config.pattern }
  match config.loader with
  | .ok l => pure l
  | .error e => throw (e.message (Wording.pattern (config.pattern.getD "")))

def checkLog (files schemas status : Nat) : LogRecord :=
  { level := .info
    message := "check finished"
    fields := [("files", toString files), ("schemas", toString schemas), ("status", toString status)] }

def check (l : Loader) (t : FileTree) (sources : List String) : Result :=
  let (r, o) := l.load t sources {}
  let faults := r.validate
  let status :=
    (if o.walkErrors.isEmpty then 0 else inputBit) +
    (if o.fileFaults.isEmpty then 0 else fileBit) +
    (if faults.isEmpty then 0 else referenceBit)
  { status
    written :=
      o.log.map .record ++
      o.walkErrors.map (fun e => .report (errorLine e.message)) ++
      (if o.fileFaults.isEmpty then [] else [.report o.fileFaults.report]) ++
      [.record r.validateLog] ++
      (if faults.isEmpty then [] else [.report (Fault.report faults ++ "\n")]) ++
      [.record (checkLog o.files r.size status)] }

def run (t : FileTree) (o : Options) : Result :=
  match loader t o with
  | .error message => { status := inputBit, written := [.report (errorLine message)] }
  | .ok l => check l t o.sources

def version : String := "jhs-check 0.1.0\n"

def help : String :=
  "Check JSON Hyper-schema source trees for structural faults and dangling references\n\n" ++
  "Usage: jhs-check [OPTIONS] <SOURCES>...\n\n" ++
  "Arguments:\n" ++
  "  <SOURCES>...  Schema files and/or directories to check\n\n" ++
  "Options:\n" ++
  "  -p, --pattern <PATTERN>  Regular expression matched against file names (overrides the config)\n" ++
  "  -c, --config <CONFIG>    YAML configuration file\n" ++
  "  -h, --help               Print help\n" ++
  "  -V, --version            Print version\n"

def answer (t : FileTree) : Request → Result
  | .check o => run t o
  | .version => { status := 0, output := version }
  | .help => { status := 0, output := help }
  | .usage => { status := 2 }

end SchemaCheck.CommandLine

namespace SchemaCheck

/-- A mark in place of the words of parsers, for runs that are shown or compared; results do not depend on it. -/
instance Wording.marked : Wording where
  cause _ := "<cause>"
  configuration _ := "<cause>"
  pattern _ := "<cause>"

end SchemaCheck
