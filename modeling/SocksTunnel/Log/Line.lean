import SocksTunnel.Calendar.Moment
import SocksTunnel.Log.Record

/-!
Log lines: how a record is written to the console and to the log file.

A line starts with the time to the second and with the level, names the connection and the place in
the program that made the record, and ends with the message as it is. The file names the peer as
well. The console shows records from a level that depends on debugging, the file from `debug` on.
-/

namespace SocksTunnel.Log

open SocksTunnel.Calendar SocksTunnel.Text

/-- A record as it goes to the sinks: the level, the message, the place that made it, and the
connection and peer if there are any. -/
structure Entry where
  level : Level
  message : String
  module : String
  function : String
  line : Int
  connection : Option String
  peer : Option String

/-- A record made at a place in the program. -/
def Entry.ofRecord (module function : String) (line : Int) (r : Record) : Entry :=
  { level := r.level
    message := r.message
    module, function, line
    connection := r.context.map fun c => decimal c.connection
    peer := r.context.map (·.peer) }

/-- What fills a field that a record does not have. -/
def blankField : String := "-"

/-- The time and the level in front of a line. -/
def stamp (time : Moment) (level : Level) : String :=
  time.text ++ " | " ++ padRight 8 level.name ++ " | "

/-- The place that made the record, and its message. -/
def body (e : Entry) : String :=
  " | " ++ e.module ++ ":" ++ e.function ++ ":" ++ signedDecimal e.line
    ++ " - " ++ e.message ++ "\n"

/-- The line for the console. -/
def consoleLine (time : Moment) (e : Entry) : String :=
  stamp time e.level ++ "conn=" ++ e.connection.getD blankField ++ body e

/-- The line for the log file. -/
def fileLine (time : Moment) (e : Entry) : String :=
  stamp time e.level ++ "conn=" ++ e.connection.getD blankField
    ++ " peer=" ++ e.peer.getD blankField ++ body e

/-- The least level that the console shows. -/
def consoleLevel (debug : Bool) : Level := if debug then .debug else .info

/-- The least level that the file keeps. -/
def fileLevel : Level := .debug

/-- Whether a record passes a least level. -/
def passes (least : Level) (e : Entry) : Bool := least.urgency ≤ e.level.urgency

/-- The text that records leave on the console. -/
def consoleText (debug : Bool) (time : Moment) (es : List Entry) : String :=
  String.join ((es.filter (passes (consoleLevel debug))).map (consoleLine time))

/-- The text that records leave in the log file. -/
def fileText (time : Moment) (es : List Entry) : String :=
  String.join ((es.filter (passes fileLevel)).map (fileLine time))

/-- The name of the log file in its directory. -/
def fileName : String := "forwarder.log"

/-! ### Set-ups -/

/-- How logging is set up: whether the console shows debug records, and whether there is a log
file. A set-up takes the place of the one before it. -/
structure Setup where
  debug : Bool
  file : Bool
  deriving DecidableEq, Repr

/-- What records leave behind: the text on the console, and the text in the log file if there is
one. -/
structure Output where
  console : String
  file : Option String
  deriving DecidableEq, Repr

/-- The output of records under a set-up. Where logging is not set up, nothing is written. -/
def output (setup : Option Setup) (time : Moment) (es : List Entry) : Output :=
  match setup with
  | none => ⟨"", none⟩
  | some setup =>
      ⟨consoleText setup.debug time es, if setup.file then some (fileText time es) else none⟩

end SocksTunnel.Log
