import Colloquy.Flow.Command
import Colloquy.Log.Level

/-!
# Log entries

An entry carries the conversation that it belongs to. On the console it is one line that shows the
dialog and the session, `-` if they are unknown; in a log file it is a record that also has the other
fields of its context.
-/

namespace Colloquy

structure LogEntry where
  logger : String
  severity : Severity
  message : String
  /-- Fields of the context; of two with one name the last one counts. -/
  context : Fields := []

structure LogSetup where
  level : LogLevel := .atLeast .warning
  /-- Whether there is a log file beside the console. -/
  file : Bool := false

namespace LogEntry

def rootLogger : String := "convoflow"

/-- Fields that an entry has by itself; a context may not replace them. -/
def ownFields : List String :=
  ["name", "msg", "args", "levelname", "levelno", "pathname", "filename", "module", "exc_info",
    "exc_text", "stack_info", "lineno", "funcName", "created", "msecs", "relativeCreated", "thread",
    "threadName", "processName", "process", "message", "asctime"]

def withFields (context more : Fields) : Fields :=
  more.foldl (fun fields (k, v) =>
    if fields.any (·.1 == k) then fields.map fun (k', v') => if k' == k then (k, v) else (k', v')
    else fields ++ [(k, v)]) context

def conversationField (e : LogEntry) (name : String) : Value :=
  match e.context.lookup name with
  | none | some .none => .str "-"
  | some v => v

def conversationNames : List String := ["dialog", "session_id"]

def padded (width : Nat) (s : String) : String :=
  s ++ String.ofList (List.replicate (width - s.length) ' ')

def severityWidth : Nat := 7

def consoleLine (e : LogEntry) : String :=
  padded severityWidth e.severity.name ++ " " ++ e.logger ++ " [" ++
    "/".intercalate (conversationNames.map fun name => (e.conversationField name).toText) ++ "] " ++
    e.message

def record (e : LogEntry) : Fields :=
  let others := e.context.filter fun (k, _) =>
    !conversationNames.contains k && k.toList.head? != some '_'
  [("levelname", .str e.severity.name), ("name", .str e.logger), ("message", .str e.message)] ++
    conversationNames.map (fun name => (name, e.conversationField name)) ++ others

def belongs (e : LogEntry) : Bool :=
  e.logger == rootLogger || (rootLogger ++ ".").toList.isPrefixOf e.logger.toList

end LogEntry

namespace LogSetup

def make (level : String) (file : Bool) : Outcome LogSetup :=
  match LogLevel.ofName? level with
  | some level => .ok { level, file }
  | none => .error .badValue

/-- The entries that are logged, if none of them replaces a field of its own. -/
def admitted (s : LogSetup) (entries : List LogEntry) : Outcome (List LogEntry) := do
  let logged := entries.filter fun e => s.level.admits e.severity
  if logged.any fun e => e.context.any fun (k, _) => LogEntry.ownFields.contains k then
    .error .missingKey
  return logged.filter LogEntry.belongs

end LogSetup

end Colloquy
