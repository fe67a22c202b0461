/-!
Lines that scripts write to the console.
-/
set_option autoImplicit false

namespace ApiStencil.Console

inductive Level where
  | log
  | info
  | debug
  | warn
  | error
  deriving DecidableEq

namespace Level

def all : List Level := [.log, .info, .debug, .warn, .error]

/-- The name of the method that writes at this level. -/
def name : Level → String
  | .log => "log"
  | .info => "info"
  | .debug => "debug"
  | .warn => "warn"
  | .error => "error"

end Level

structure Line where
  level : Level
  text : String

end ApiStencil.Console
