/-
# Errors

Everything that can go wrong while step files are read, checked and run.  A step exit or the exit
of a whole transform is not an error.
-/

namespace StepScript

/-- What a registry can hold. -/
inductive CapabilityKind where
  | command
  | dialect
  | connector
  | repository
  | stepSource
  deriving DecidableEq, Repr

/-- The name of a kind in messages. -/
def CapabilityKind.name : CapabilityKind → String
  | .command => "command"
  | .dialect => "database-dialect"
  | .connector => "connector"
  | .repository => "repo-manager"
  | .stepSource => "step-metadata-manager"

/-- Why an operation failed. -/
inductive Error where
  /-- The text of a tag does not split into tokens. -/
  | tokenization (position : Nat) (detail : String)
  /-- A step file has no tag. -/
  | noStatements
  /-- A tag is malformed or its arguments are not accepted. -/
  | statement (detail : String)
  /-- An expression has no value or two values cannot be compared. -/
  | expression (detail : String)
  /-- A comparison operator is not one of the known ones. -/
  | operator (name : String)
  /-- A session variable cannot have this name. -/
  | variableName (name : String)
  /-- The records of a recordset differ in their fields or hold values they may not. -/
  | recordset (detail : String)
  | recordsetNotFound (name : String)
  | capabilityNotFound (kind : CapabilityKind) (name : String)
  /-- The statement after a failed command did not handle the failure. -/
  | unhandled (cause : Error)
  /-- A step file asked for the failure. -/
  | forced (detail : String)
  /-- Somebody else holds the lock of the transform. -/
  | locked (transform : String)
  /-- The value of an environment variable could break out of its place in a statement. -/
  | injection (name : String)
  | database (detail : String)
  | configuration (detail : String)
  | io (detail : String)
  | json (detail : String)
  | process (detail : String)
  deriving DecidableEq, Repr

namespace Error

/-- The wording of an error. -/
def message : Error → String
  | .tokenization position detail =>
    "Tokenization error at position " ++ toString position ++ ": " ++ detail
  | .noStatements => "No statements found in step file"
  | .statement detail => "Statement parsing error: " ++ detail
  | .expression detail => "Error evaluating expression: " ++ detail
  | .operator name => "Invalid or no comparison operator provided: " ++ name
  | .variableName name => "Invalid session variable name: " ++ name
  | .recordset detail => "Recordset is inconsistent or contains invalid types: " ++ detail
  | .recordsetNotFound name => "Recordset does not exist: " ++ name
  | .capabilityNotFound kind name => "No " ++ kind.name ++ " registered as '" ++ name ++ "'"
  | .unhandled cause => "Previous error was not handled: " ++ cause.message
  | .forced detail => "Transform failed: " ++ detail
  | .locked transform => "Transform " ++ transform ++ " is locked by another process"
  | .injection name => "Environment variable " ++ name ++ " rejected by SQL injection check"
  | .database detail => "Database error: " ++ detail
  | .configuration detail => "Configuration error: " ++ detail
  | .io detail => "I/O error: " ++ detail
  | .json detail => "JSON error: " ++ detail
  | .process detail => "Process error: " ++ detail

/-- The name of the kind of an error, for error handlers in step files. -/
def kindName : Error → String
  | .tokenization .. => "Tokenization"
  | .noStatements => "NoStatementsFound"
  | .statement _ => "StatementParsing"
  | .expression _ => "ExpressionEvaluation"
  | .operator _ => "InvalidComparisonOperator"
  | .variableName _ => "InvalidVariableName"
  | .recordset _ => "InvalidRecordset"
  | .recordsetNotFound _ => "RecordsetNotFound"
  | .capabilityNotFound .. => "CapabilityNotFound"
  | .unhandled _ => "UnhandledError"
  | .forced _ => "ForcedFailure"
  | .locked _ => "TransformIsLocked"
  | .injection _ => "InjectionRejected"
  | .database _ => "Database"
  | .configuration _ => "Configuration"
  | .io _ => "Io"
  | .json _ => "Json"
  | .process _ => "Process"

/-- The full name of the kind of an error, as error handlers record it. -/
def qualifiedName (e : Error) : String :=
  "sneaql_core::error::SneaqlError::" ++ e.kindName

end Error

end StepScript
