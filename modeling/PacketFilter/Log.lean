/-
  Log lines: what a run says about itself, at three levels of detail.
-/

namespace PacketFilter

inductive LogLevel where
  | debug
  | info
  | warning
  deriving DecidableEq, Repr

namespace LogLevel

def name : LogLevel → String
  | debug => "DEBUG"
  | info => "INFO"
  | warning => "WARNING"

/-- The rank: more important levels are higher. -/
def rank : LogLevel → Nat
  | debug => 0
  | info => 1
  | warning => 2

end LogLevel

/-- A log line and the part of the program it comes from. -/
structure LogEntry where
  level : LogLevel
  source : String
  message : String
  deriving DecidableEq, Repr

namespace LogEntry

def text (e : LogEntry) : String := e.level.name ++ " " ++ e.source ++ ": " ++ e.message ++ "\n"

def atLeast (level : LogLevel) (es : List LogEntry) : List LogEntry :=
  es.filter (fun e => level.rank ≤ e.level.rank)

end LogEntry

end PacketFilter
