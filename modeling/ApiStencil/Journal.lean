import ApiStencil.Script.Console
/-!
What a run reports while it works: records of the program and of its scripts, and console lines where
they are kept apart.
-/
set_option autoImplicit false

namespace ApiStencil

namespace Journal

inductive Level where
  | error
  | warn
  | info
  | debug
  deriving DecidableEq

def Level.name : Level → String
  | .error => "error"
  | .warn => "warn"
  | .info => "info"
  | .debug => "debug"

inductive Source where
  | core
  | script
  deriving DecidableEq

def Source.name : Source → String
  | .core => "core"
  | .script => "script"

structure Record where
  level : Level
  source : Source
  text : String

/-- Where console lines go. -/
inductive Sink where
  /-- Among the records, with `script` as their source. -/
  | records
  | apart
  deriving DecidableEq

def levelOf : Console.Level → Level
  | .log | .info => .info
  | .debug => .debug
  | .warn => .warn
  | .error => .error

def recordOf (l : Console.Line) : Record := ⟨levelOf l.level, .script, l.text⟩

end Journal

structure Journal where
  records : Array Journal.Record
  console : Array Console.Line

namespace Journal

def empty : Journal := ⟨#[], #[]⟩

def add (j : Journal) (level : Level) (text : String) : Journal :=
  { j with records := j.records.push ⟨level, .core, text⟩ }

def hear (j : Journal) (sink : Sink) (lines : List Console.Line) : Journal :=
  match sink with
  | .records => { j with records := lines.foldl (fun rs l => rs.push (recordOf l)) j.records }
  | .apart => { j with console := lines.foldl Array.push j.console }

end Journal
end ApiStencil
