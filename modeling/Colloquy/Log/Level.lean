import Colloquy.Run.World
import Colloquy.Text.Case

/-!
# Log levels

A level is the least severity that is still logged. It is given by a word in any case. Without a
level of its own the log falls back to warnings.
-/

namespace Colloquy

/-- Least severity that is logged. -/
inductive LogLevel where
  | unset
  | atLeast (severity : Severity)
deriving Repr, DecidableEq

namespace LogLevel

def table : List (String × LogLevel) :=
  [("CRITICAL", .atLeast .critical), ("FATAL", .atLeast .critical), ("ERROR", .atLeast .error),
    ("WARN", .atLeast .warning), ("WARNING", .atLeast .warning), ("INFO", .atLeast .info),
    ("DEBUG", .atLeast .debug), ("NOTSET", .unset)]

def ofName? (name : String) : Option LogLevel := table.lookup (Text.toUpper name)

def name : LogLevel → String
  | .unset => "NOTSET"
  | .atLeast severity => severity.name

end LogLevel

def Severity.rank : Severity → Nat
  | .debug => 10
  | .info => 20
  | .warning => 30
  | .error => 40
  | .critical => 50

def LogLevel.admits : LogLevel → Severity → Bool
  | .unset, s => Severity.warning.rank ≤ s.rank
  | .atLeast least, s => least.rank ≤ s.rank

end Colloquy
