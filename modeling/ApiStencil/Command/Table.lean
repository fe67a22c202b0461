import ApiStencil.Script.Host
import ApiStencil.TemplateDir
/-!
The commands of a run by name. Scripts are run in the order in which they are found, and of two
commands with one name the later one stays.
-/
set_option autoImplicit false

namespace ApiStencil.Command

/-- Sorted by name, each name once. -/
structure Table where
  entries : List (String × Script.Command)

namespace Table

def empty : Table := ⟨[]⟩

def get? (t : Table) (name : String) : Option Script.Command := t.entries.lookup name

def names (t : Table) : List String := t.entries.map (·.1)

def insertEntry (c : Script.Command) : List (String × Script.Command) → List (String × Script.Command)
  | [] => [(c.name, c)]
  | (n, d) :: rest =>
    if c.name < n then (c.name, c) :: (n, d) :: rest
    else if n == c.name then (n, c) :: rest
    else (n, d) :: insertEntry c rest

/-- The table with a command, and the one that it replaces. -/
def insert (t : Table) (c : Script.Command) : Table × Option Script.Command :=
  (⟨insertEntry c t.entries⟩, t.get? c.name)

/-- What is reported when a command of the script at `relative` takes the place of another one. -/
def replacing (relative : String) (old : Script.Command) : String :=
  s!"duplicate registered template command '{old.name}' in {relative} replaces the one from {old.script.display}"

/-- Takes in the commands of the script at `relative`. -/
def register (relative : String) : List Script.Command → Table → Run Table
  | [], t => pure t
  | c :: rest, t => do
    Run.tell .info s!"register template command '{c.name}' from {relative}"
    let (t, replaced) := t.insert c
    if let some old := replaced then
      Run.tell .warn (replacing relative old)
    register relative rest t

/-- Runs the scripts one after another; `found` is what the former ones have registered. -/
def loadScripts (dir : TemplateDir) : List Path → List Script.Command → Script.Host → Table →
    Run (List Script.Command × Table × Script.Host)
  | [], found, host, t => pure (found, t, host)
  | p :: rest, found, host, t => do
    let relative := (← Run.ofExcept (dir.relative p)).display
    Run.tell .info s!"load template script file: {relative}"
    let source ← Run.ofFile s!"read template script file failed: {relative}" p ((← Run.files).readText p)
    let (commands, host) ← host.load p source
    let t ← register relative commands t
    loadScripts dir rest (found ++ commands) host t

/-- The commands that the scripts in a directory register, in their order, and the table of them. -/
def loadAll (host : Script.Host) (dir : TemplateDir) (extensions : List String) :
    Run (List Script.Command × Table × Script.Host) := do
  let scripts ← Run.ofExcept (dir.findFiles (← Run.files) extensions)
  loadScripts dir scripts [] host empty

/-- The commands of all scripts in a directory. -/
def load (host : Script.Host) (dir : TemplateDir) (extensions : List String) : Run (Table × Script.Host) := do
  return (← loadAll host dir extensions).2

end Table
end ApiStencil.Command
