import SocksTunnel.Failure

/-!
Log records: a level, the connection it belongs to, a message, and the failure that it reports.
-/

namespace SocksTunnel.Log

/-- Levels of records, from the least to the most urgent. -/
inductive Level where
  | trace
  | debug
  | info
  | success
  | warning
  | error
  | critical
  deriving DecidableEq, Repr

namespace Level

def all : List Level := [.trace, .debug, .info, .success, .warning, .error, .critical]

/-- How urgent a level is. -/
def urgency : Level → Nat
  | .trace => 5
  | .debug => 10
  | .info => 20
  | .success => 25
  | .warning => 30
  | .error => 40
  | .critical => 50

def name : Level → String
  | .trace => "TRACE"
  | .debug => "DEBUG"
  | .info => "INFO"
  | .success => "SUCCESS"
  | .warning => "WARNING"
  | .error => "ERROR"
  | .critical => "CRITICAL"

/-- A level by its name. -/
def ofName? (name : String) : Option Level := all.find? fun level => level.name == name

/-- The message for a name that no level has. -/
def unknownMessage (name : String) : String := "Level '" ++ name ++ "' does not exist"

end Level

/-- The connection that a record belongs to: its number and the peer. -/
structure Context where
  connection : Nat
  peer : String
  deriving DecidableEq, Repr

/-- A log record. -/
structure Record where
  level : Level
  context : Option Context
  message : String
  exception : Option Failure
  deriving DecidableEq

namespace Record

def debug (message : String) : Record := ⟨.debug, none, message, none⟩

def info (message : String) : Record := ⟨.info, none, message, none⟩

def warning (message : String) : Record := ⟨.warning, none, message, none⟩

def error (message : String) : Record := ⟨.error, none, message, none⟩

/-- The record of a failure that was not expected. -/
def unexpected (message : String) (failure : Failure) : Record :=
  ⟨.error, none, message, some failure⟩

/-- A record put into the context of a connection. -/
def within (context : Context) (r : Record) : Record := { r with context := some context }

/-- The number of the connection as text; a hyphen outside a connection. -/
def connectionText (r : Record) : String :=
  match r.context with
  | some c => Text.decimal c.connection
  | none => "-"

/-- The peer as text; a hyphen outside a connection. -/
def peerText (r : Record) : String :=
  match r.context with
  | some c => c.peer
  | none => "-"

end Record

end SocksTunnel.Log
