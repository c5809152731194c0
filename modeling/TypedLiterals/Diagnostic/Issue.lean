import TypedLiterals.Source.Cursor

/-!
Issues are faults that leave the rest of a source readable. They are collected in the order in which
they are found.
-/

namespace TypedLiterals

inductive Severity where
  | warning | error
deriving DecidableEq, Inhabited

namespace Severity

def name : Severity → String
  | warning => "warning"
  | error => "error"

end Severity

inductive IssueKind where
  | integerOverflow | integerUnderflow | lossOfPrecision | invalidTypeConversion
  | unexpectedToken | unknownVariable | malformedLiteral
deriving DecidableEq, Inhabited

namespace IssueKind

def name : IssueKind → String
  | integerOverflow => "integer overflow"
  | integerUnderflow => "integer underflow"
  | lossOfPrecision => "loss of precision"
  | invalidTypeConversion => "invalid type conversion"
  | unexpectedToken => "unexpected token"
  | unknownVariable => "unknown variable"
  | malformedLiteral => "malformed literal"

/-- Only a loss of precision leaves the program acceptable. -/
def severity : IssueKind → Severity
  | lossOfPrecision => .warning
  | _ => .error

end IssueKind

structure Issue where
  kind : IssueKind
  location : Location
  message : String
deriving DecidableEq

namespace Issue

def severity (i : Issue) : Severity := i.kind.severity

def text (i : Issue) : String :=
  s!"{i.severity.name}: {i.kind.name} at {i.location.text}: {i.message}"

end Issue

/-- The issues found so far, the oldest first. -/
structure IssueLog where
  issues : Array Issue := #[]
deriving DecidableEq

namespace IssueLog

def push (log : IssueLog) (issue : Issue) : IssueLog :=
  ⟨log.issues.push issue⟩

def size (log : IssueLog) : Nat := log.issues.size

def isEmpty (log : IssueLog) : Bool := log.issues.isEmpty

def hasErrors (log : IssueLog) : Bool :=
  log.issues.any (·.severity = .error)

def countOf (log : IssueLog) (kind : IssueKind) : Nat :=
  log.issues.countP (·.kind = kind)

@[simp] theorem size_push (log : IssueLog) (issue : Issue) :
    (log.push issue).size = log.size + 1 := by
  simp [push, size]

@[simp] theorem hasErrors_push (log : IssueLog) (issue : Issue) :
    (log.push issue).hasErrors = (log.hasErrors || decide (issue.severity = .error)) := by
  simp [push, hasErrors]

@[simp] theorem countOf_push (log : IssueLog) (issue : Issue) (kind : IssueKind) :
    (log.push issue).countOf kind = log.countOf kind + if issue.kind = kind then 1 else 0 := by
  simp [push, countOf, Array.countP_push]

end IssueLog

end TypedLiterals
