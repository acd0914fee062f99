/-!
# Log lines

What the tools say to the user beside their output, a line at a time, each with its level.
-/

namespace MissionScript

inductive Level where
  | trace
  | info
  | warn
  | error
deriving DecidableEq, Repr

def Level.name : Level → String
  | .trace => "TRACE"
  | .info => "INFO"
  | .warn => "WARN"
  | .error => "ERROR"

structure LogLine where
  level : Level
  text : String
deriving DecidableEq, Repr

def LogLine.render (line : LogLine) : String := s!"[{line.level.name}] {line.text}\n"

end MissionScript
