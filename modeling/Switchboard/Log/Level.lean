/-!
# Levels of the log

Each record of the log has a level; the levels are ordered from the gravest to
the most talkative.
-/

namespace Switchboard

/-- The levels of the log. -/
inductive Level
  | error
  | warn
  | info
  | debug
  | trace
  deriving DecidableEq, Repr

namespace Level

/-- All levels, the gravest first. -/
def all : List Level :=
  [.error, .warn, .info, .debug, .trace]

/-- The level up to which the log records unless something else is said. -/
def default : Level := .info

/-- How talkative a level is: the gravest is 1. -/
def number : Level → Nat
  | .error => 1
  | .warn => 2
  | .info => 3
  | .debug => 4
  | .trace => 5

/-- The name of a level in records. -/
def name : Level → String
  | .error => "ERROR"
  | .warn => "WARN"
  | .info => "INFO"
  | .debug => "DEBUG"
  | .trace => "TRACE"

/-- The word for a level in configurations. -/
def word : Level → String
  | .error => "error"
  | .warn => "warn"
  | .info => "info"
  | .debug => "debug"
  | .trace => "trace"

/-- The level that a word of a configuration stands for. -/
def ofWord? (word : String) : Option Level :=
  all.find? (·.word == word)

end Level
end Switchboard
