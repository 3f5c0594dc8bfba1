/-!
# Severities

How important a log line is: a number that grows with importance. Five of them have names of their
own.
-/

namespace Rs256Cose.Log

abbrev Severity := Int

namespace Severity

def debug : Severity := 10

def info : Severity := 20

def warning : Severity := 30

def error : Severity := 40

def critical : Severity := 50

/-- No level of its own: lines are printed from `warning` on. -/
def unset : Severity := 0

/-- The word for a severity in a line. -/
def word (s : Severity) : String :=
  if s = critical then "CRITICAL"
  else if s = error then "ERROR"
  else if s = warning then "WARNING"
  else if s = info then "INFO"
  else if s = debug then "DEBUG"
  else if s = unset then "NOTSET"
  else s!"Level {s}"

/-- The severity that a level name stands for, if it is one. -/
def ofName? : String → Option Severity
  | "CRITICAL" | "FATAL" => some critical
  | "ERROR" => some error
  | "WARNING" | "WARN" => some warning
  | "INFO" => some info
  | "DEBUG" => some debug
  | "NOTSET" => some unset
  | _ => none

end Severity

end Rs256Cose.Log
