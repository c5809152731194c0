import TypedLiterals.Coercion.Pass
import TypedLiterals.CommandLine.Arguments
import TypedLiterals.Source.Excerpt
import TypedLiterals.Token.Lexer

/-!
The program itself, from its arguments to what it prints. What it needs from outside is the contents
of a file, and a host that keeps the log and reports a failure that ends the program.
-/

namespace TypedLiterals.CommandLine

/-- What a run prints and its exit code. -/
@[ext]
structure Outcome where
  out : String := ""
  err : String := ""
  code : Nat := 0
deriving DecidableEq

/-- The parts of a run that have something for the log. -/
inductive Stage where
  | unknownType (name : String)
  /-- A source is split into tokens and, if it can be, its literals are read. -/
  | reading (file source : String) (expected : Option PrimType)
  | finished (nodes issues : Nat)
deriving DecidableEq

/-- An unknown type is logged as an error. All the rest is logged for debugging. -/
def Stage.isError : Stage → Bool
  | unknownType _ => true
  | _ => false

/-- Where a program runs. -/
structure Host where
  /-- The lines of the log for a stage. -/
  lines : Stage → String
  /-- The lines under the filter that the environment sets, if it sets one. -/
  filtered? : Option (Stage → String)
  /-- What is said of a failure that ends the program. -/
  report : FieldError → String

/-- What a stage writes to the log: all its lines if that is asked for, or else those under the
filter of the environment, or else only those of an error. -/
def Host.log (host : Host) (verbose : Bool) (stage : Stage) : String :=
  if verbose then host.lines stage
  else
    match host.filtered? with
    | some filtered => filtered stage
    | none => if stage.isError then host.lines stage else ""

inductive ReadFailure where
  | refused (reason : String) (number : Nat)
  | notUtf8
deriving DecidableEq

namespace ReadFailure

def notFound : ReadFailure := refused "No such file or directory" 2

def isDirectory : ReadFailure := refused "Is a directory" 21

def message : ReadFailure → String
  | refused reason number => s!"{reason} (os error {number})"
  | notUtf8 => "stream did not contain valid UTF-8"

end ReadFailure

def decode (bytes : ByteArray) : Except ReadFailure String :=
  match String.fromUTF8? bytes with
  | some text => .ok text
  | none => .error .notUtf8

/-- The last component of a path. A path without one is its own name. -/
def fileName (path : String) : String :=
  match ((path.toList.splitOn '/').filter fun part => part ≠ [] ∧ part ≠ ['.']).getLast? with
  | some ['.', '.'] => path
  | some name => String.ofList name
  | none => path

def tokenLine (token : Token) : String :=
  s!"{token.place.line}:{token.place.column}\t{token.kind.name}\t{token.text}\n"

/-- What is printed for a literal: its place and its description, if it has a node. -/
def literalLine (arena : Arena) (token : Token) (handle : Handle) : String :=
  match arena.get? handle with
  | some node => s!"{token.place.line}:{token.place.column}\t{node.describe}\n"
  | none => ""

/-- What is printed of the issues, and the failure that ends the printing, if there is one. The line
of an issue is out before its excerpt is laid out. -/
def printIssues (source : String) : List Issue → String × Option FieldError
  | [] => ("", none)
  | issue :: others =>
    match issue.location.excerpt source with
    | .error failure => (issue.text ++ "\n", some failure)
    | .ok excerpt =>
      let rest := printIssues source others
      (issue.text ++ "\n" ++ excerpt ++ rest.1, rest.2)

/-- The exit code of a program that a failure ends. -/
def abortCode : Nat := 101

/-- Reads the literals of a source against the expected type and prints them and the issues. -/
def reportSource (host : Host) (verbose : Bool) (file : String) (expected : Option PrimType)
    (listTokens : Bool) (source : String) : Outcome :=
  let opening := host.log verbose (.reading file source expected)
  match Lexer.tokenize { file := file } source with
  | .error e =>
    match e.render source with
    | .ok text => { err := opening ++ text, code := 1 }
    | .error failure => { err := opening ++ host.report failure, code := abortCode }
  | .ok tokens =>
    let (literals, pass) := (Pass.ofTokens tokens file).readLiterals expected
    let listing := if listTokens then tokens.map tokenLine else []
    let out := String.join (listing ++ literals.map fun (t, h) => literalLine pass.arena t h)
    let printed := printIssues source pass.log.issues.toList
    match printed.2 with
    | none =>
      { out := out
        err := opening ++ printed.1 ++ host.log verbose (.finished pass.arena.size pass.log.size)
        code := if pass.log.hasErrors then 1 else 0 }
    | some failure =>
      { out := out, err := opening ++ printed.1 ++ host.report failure, code := abortCode }

/-- A run up to the point where it needs a file. -/
inductive Plan where
  | finish (outcome : Outcome)
  | needFile (path : String) (next : Except ReadFailure String → Outcome)

def reportFile (host : Host) (options : Options) (expected : Option PrimType) :
    Except ReadFailure String → Outcome
  | .error failure =>
    { err := s!"Failed to read {options.file}: {failure.message}\n", code := 1 }
  | .ok source =>
    reportSource host options.verbose (fileName options.file) expected options.tokens source

def usage : String :=
  "Usage: literalc [OPTIONS] <FILE>\n\n" ++
    "Arguments:\n" ++
    "  <FILE>  Source file to read\n\n" ++
    "Options:\n" ++
    "  -e, --expect <TYPE>  Type every literal is coerced to, such as uint8 or f32\n" ++
    "      --tokens         Print the tokens\n" ++
    "  -v, --verbose        Log in detail\n" ++
    "  -h, --help           Print this help\n" ++
    "  -V, --version        Print the version\n"

/-- The run that the arguments ask for. The name of the type is looked up before any file is
read. -/
def plan (host : Host) (arguments : List String) : Plan :=
  match readArguments arguments with
  | .error e => .finish { err := s!"error: {e.message}\n\n{usage}", code := 2 }
  | .ok .help => .finish { out := usage }
  | .ok .version => .finish { out := "literalc 0.1.0\n" }
  | .ok (.run options) =>
    match options.expect with
    | none => .needFile options.file (reportFile host options none)
    | some name =>
      match PrimType.ofName? name with
      | none =>
        .finish
          { err := host.log options.verbose (.unknownType name) ++ s!"Unknown type '{name}'\n"
            code := 1 }
      | some type => .needFile options.file (reportFile host options (some type))

end TypedLiterals.CommandLine
