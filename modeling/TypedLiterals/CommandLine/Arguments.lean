/-!
The arguments of the program: the file to read and a few options, in any order.
-/

namespace TypedLiterals.CommandLine

structure Options where
  file : String
  /-- The name of the type that every literal is coerced to. -/
  expect : Option String := none
  tokens : Bool := false
  verbose : Bool := false
deriving DecidableEq

inductive Request where
  | run (options : Options)
  | help
  | version
deriving DecidableEq

inductive UsageError where
  | unknownOption (name : String)
  | missingValue (name : String)
  | needlessValue (name : String)
  | repeated (name : String)
  | emptyFileName
  | needlessArgument (argument : String)
  | missingFile
deriving DecidableEq

namespace UsageError

def message : UsageError → String
  | unknownOption name => s!"there is no option '{name}'"
  | missingValue name => s!"the option '{name}' needs a value"
  | needlessValue name => s!"the option '{name}' takes no value"
  | repeated name => s!"the option '{name}' is given more than once"
  | emptyFileName => "the name of the file is empty"
  | needlessArgument argument => s!"the argument '{argument}' is one too many"
  | missingFile => "the file to read is missing"

end UsageError

structure Draft where
  file : Option String := none
  expect : Option String := none
  tokens : Bool := false
  verbose : Bool := false

/-- How the reading of the arguments goes on behind an option. -/
inductive Progress where
  | next (draft : Draft)
  | typeNext (draft : Draft)
  | done (request : Request)

namespace Draft

def setExpect (d : Draft) (value : String) : Except UsageError Draft :=
  if d.expect.isSome then .error (.repeated "--expect") else .ok { d with expect := some value }

def setTokens (d : Draft) : Except UsageError Draft :=
  if d.tokens then .error (.repeated "--tokens") else .ok { d with tokens := true }

def setVerbose (d : Draft) : Except UsageError Draft :=
  if d.verbose then .error (.repeated "--verbose") else .ok { d with verbose := true }

def setFile (d : Draft) (name : String) : Except UsageError Draft :=
  if d.file.isSome then .error (.needlessArgument name)
  else if name.isEmpty then .error .emptyFileName
  else .ok { d with file := some name }

def finish (d : Draft) : Except UsageError Request :=
  match d.file with
  | none => .error .missingFile
  | some file => .ok (.run ⟨file, d.expect, d.tokens, d.verbose⟩)

/-- An option with a long name; its value follows an equals sign. -/
def longOption (d : Draft) (name : String) (value : Option String) : Except UsageError Progress :=
  match name, value with
  | "expect", some value => (d.setExpect value).map .next
  | "expect", none => .ok (.typeNext d)
  | "tokens", none => d.setTokens.map .next
  | "verbose", none => d.setVerbose.map .next
  | "help", none => .ok (.done .help)
  | "version", none => .ok (.done .version)
  | name, some _ =>
    .error (if name ∈ ["tokens", "verbose", "help", "version"] then .needlessValue ("--" ++ name)
      else .unknownOption ("--" ++ name))
  | name, none => .error (.unknownOption ("--" ++ name))

/-- Options of one letter, written together. A value ends the row; it may follow an equals sign. -/
def shortOptions (d : Draft) : List Char → Except UsageError Progress
  | [] => .ok (.next d)
  | 'v' :: rest => do (← d.setVerbose).shortOptions rest
  | ['e'] => .ok (.typeNext d)
  | 'e' :: '=' :: value => (d.setExpect (String.ofList value)).map .next
  | 'e' :: value => (d.setExpect (String.ofList value)).map .next
  | 'h' :: _ => .ok (.done .help)
  | 'V' :: _ => .ok (.done .version)
  | c :: _ => .error (.unknownOption (String.ofList ['-', c]))

/-- An option, given without the argument that may follow it. -/
def option (d : Draft) (chars : List Char) : Except UsageError Progress :=
  match chars with
  | '-' :: '-' :: long =>
    let name := long.takeWhile (· ≠ '=')
    let value :=
      match long.dropWhile (· ≠ '=') with
      | [] => none
      | _ :: value => some (String.ofList value)
    d.longOption (String.ofList name) value
  | chars => d.shortOptions (chars.drop 1)

end Draft

/-- An argument that begins with a hyphen is an option, unless it is a hyphen alone. -/
def isOption (argument : String) : Bool :=
  argument.toList.head? = some '-' && argument ≠ "-"

/-- Every argument behind `--` is a file. -/
def readFiles (d : Draft) : List String → Except UsageError Request
  | [] => d.finish
  | name :: rest => do readFiles (← d.setFile name) rest

/-- Reads the arguments from left to right, up to the first that is wrong or settles the request. -/
def readFrom (d : Draft) : List String → Except UsageError Request
  | [] => d.finish
  | "--" :: rest => readFiles d rest
  | argument :: rest => do
    if isOption argument then
      match ← d.option argument.toList with
      | .done request => return request
      | .next d => readFrom d rest
      | .typeNext d =>
        match rest with
        | value :: rest =>
          if isOption value then throw (.missingValue argument)
          else readFrom (← d.setExpect value) rest
        | [] => throw (.missingValue argument)
    else readFrom (← d.setFile argument) rest

def readArguments (arguments : List String) : Except UsageError Request :=
  readFrom {} arguments

end TypedLiterals.CommandLine
