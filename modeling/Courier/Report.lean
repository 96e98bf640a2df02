/-! The lines that a program prints: progress on standard output, warnings and errors on standard
error, each behind a label. -/
namespace Courier

/-- A line, and where it is printed. -/
inductive Output where
  | out (text : String)
  | err (text : String)
  deriving DecidableEq, Repr

namespace Report

/-- How much a line matters. -/
inductive Level where
  | info
  | warning
  | error
  deriving DecidableEq, Repr

/-- The label in front of a line. -/
def Level.label : Level → String
  | .info => "BINTRAY:"
  | .warning => "BINTRAY WARNING:"
  | .error => "BINTRAY ERROR:"

/-- A message behind its label. -/
def line (level : Level) (message : String) : String := level.label ++ " " ++ message

/-- A line of progress. -/
def info (message : String) : Output := .out (line .info message)

/-- A line about what went wrong and is passed over. -/
def warning (message : String) : Output := .err (line .warning message)

/-- A line about what ended the program. -/
def error (message : String) : Output := .err (line .error message)

end Report
end Courier
