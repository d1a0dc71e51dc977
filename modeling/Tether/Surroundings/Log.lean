import Tether.Bytes.Hex
import Tether.Text.Utf8

/-! # Log

Records with a logger's name and a level, and where they go: nowhere but into
the list of records until logging is set up, then to the terminal or to a dump
file.
-/

namespace Tether

inductive Level
  | debug | info | warning | error | critical
  deriving DecidableEq, Repr

/-- The rank of a level; a logger of rank zero takes that of its parent. -/
def Level.rank : Level → Nat
  | .debug => 10
  | .info => 20
  | .warning => 30
  | .error => 40
  | .critical => 50

structure LogRecord where
  logger : String
  level : Level
  text : String
  deriving DecidableEq, Repr

inductive Outlet
  | records
  /-- The terminal, with the names of the loggers or without. -/
  | terminal (named : Bool)
  | dump
  deriving DecidableEq, Repr

/-- The names of the loggers whose ranks are set apart from the root's. -/
def gateLogger : String := "cpu.gate"
def libraryLogger : String := "paramiko"

structure Log where
  root : Nat := Level.debug.rank
  gate : Nat := 0
  library : Nat := 0
  outlet : Outlet := .records
  records : List LogRecord := []
  /-- The texts of the dump files, the open one last. -/
  dumps : List String := []
  dumpName : String := ""
  stamp : String := ""
  deriving Repr

/-- The name that records of a logger carry; the one above all others goes by a name too. -/
def displayName (logger : String) : String := if logger = "" then "root" else logger

/-- Whether a logger is `parent` or below it. -/
def isWithin (parent logger : String) : Bool :=
  logger == parent || (parent.toList ++ ['.']).isPrefixOf logger.toList

namespace Log

/-- The rank from which a logger's records count. -/
def threshold (l : Log) (logger : String) : Nat :=
  if isWithin gateLogger logger && l.gate != 0 then l.gate
  else if isWithin libraryLogger logger && l.library != 0 then l.library
  else l.root

end Log

/-- The text with every line end written as carriage return and line feed. -/
def crlf : List Char → List Char
  | [] => []
  | '\r' :: '\n' :: r => '\r' :: '\n' :: crlf r
  | '\n' :: r => '\r' :: '\n' :: crlf r
  | c :: r => c :: crlf r

def rawText (text : String) : String := String.ofList (crlf text.toList)

/-- What is said of a record, with the name of its logger or without. -/
def LogRecord.plainText (r : LogRecord) (named : Bool) : String :=
  if named then s!"{r.logger}: {r.text}" else r.text

def LogRecord.terminalText (r : LogRecord) (named : Bool) : String :=
  rawText (r.plainText named) ++ "\r\n"

def LogRecord.dumpText (r : LogRecord) (stamp : String) : String :=
  s!"{stamp} {r.logger} {r.text}\n"

end Tether
