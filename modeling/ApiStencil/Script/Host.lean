import ApiStencil.Script.Realm
import ApiStencil.Text.Quoted
import ApiStencil.World
/-!
Scripts and the commands they register. Every script has a realm of its own, which lives as long as
the host does; a script that fails leaves none.
-/
set_option autoImplicit false

namespace ApiStencil.Script

/-- A function that a script has registered: the realm it lives in and its place there. -/
structure Command where
  name : String
  script : Path
  realm : Nat
  slot : Nat

structure Host where
  timeoutMs : Option Nat
  sink : Journal.Sink
  /-- What is done to a source before it is run. -/
  transform : Path → String → Except Error String
  realms : Array Realm

namespace Host

def new (timeoutMs : Option Nat) (sink : Journal.Sink)
    (transform : Path → String → Except Error String) : Host :=
  ⟨timeoutMs, sink, transform, #[]⟩

/-- Runs a script and gives the commands that it registered, in the order of their registration. -/
def loadUntil (limit : Option Nat) (h : Host) (script : Path) (source : String) : Run (List Command × Host) := do
  let source ← Run.ofExcept (h.transform script source)
  let (outcome, lines) := Realm.startUntil limit source
  Run.hear h.sink lines
  match outcome with
  | .error text =>
    Run.tell .error s!"load template script failed: {script.display}: {text}"
    throw (.scriptLoad script text)
  | .ok (names, realm) =>
    let commands := names.zipIdx.map fun (name, slot) => ⟨name, script, h.realms.size, slot⟩
    return (commands, { h with realms := h.realms.push realm })

def load (h : Host) (script : Path) (source : String) : Run (List Command × Host) :=
  loadUntil (Realm.limit h.timeoutMs) h script source

section Load

variable {h : Host} {script : Path} {source text : String} {limit : Option Nat} (w : World)

theorem loadUntil_refused {e : Error} (htext : h.transform script source = .error e) :
    (h.loadUntil limit script source).on w = (.error e, w) := by
  rw [loadUntil, htext]
  rfl

theorem loadUntil_ended {message : String} {lines : List Console.Line} (htext : h.transform script source = .ok text)
    (hstart : Realm.startUntil limit text = (.error message, lines)) :
    (h.loadUntil limit script source).on w = (.error (.scriptLoad script message), ⟨w.files,
      (w.journal.hear h.sink lines).add .error s!"load template script failed: {script.display}: {message}"⟩) := by
  rw [loadUntil, htext]
  simp only [hstart, Run.bind_on, Run.ofExcept_on, Run.hear_on, Run.tell_on, Run.throw_on]

theorem loadUntil_started {names : List String} {realm : Realm} {lines : List Console.Line}
    (htext : h.transform script source = .ok text)
    (hstart : Realm.startUntil limit text = (.ok (names, realm), lines)) :
    (h.loadUntil limit script source).on w =
      (.ok (names.zipIdx.map fun (name, slot) => ⟨name, script, h.realms.size, slot⟩,
        { h with realms := h.realms.push realm }), ⟨w.files, w.journal.hear h.sink lines⟩) := by
  rw [loadUntil, htext]
  simp only [hstart, Run.bind_on, Run.ofExcept_on, Run.hear_on, Run.pure_on]

theorem load_refused {e : Error} (htext : h.transform script source = .error e) :
    (h.load script source).on w = (.error e, w) :=
  loadUntil_refused w htext

theorem load_ended {message : String} {lines : List Console.Line} (htext : h.transform script source = .ok text)
    (hstart : Realm.start h.timeoutMs text = (.error message, lines)) :
    (h.load script source).on w = (.error (.scriptLoad script message), ⟨w.files,
      (w.journal.hear h.sink lines).add .error s!"load template script failed: {script.display}: {message}"⟩) :=
  loadUntil_ended w htext hstart

theorem load_started {names : List String} {realm : Realm} {lines : List Console.Line}
    (htext : h.transform script source = .ok text)
    (hstart : Realm.start h.timeoutMs text = (.ok (names, realm), lines)) :
    (h.load script source).on w =
      (.ok (names.zipIdx.map fun (name, slot) => ⟨name, script, h.realms.size, slot⟩,
        { h with realms := h.realms.push realm }), ⟨w.files, w.journal.hear h.sink lines⟩) :=
  loadUntil_started w htext hstart

end Load

/-- Calls a command. The host keeps what the call did to the realm, also when it fails. -/
def handleUntil (limit : Option Nat) (h : Host) (c : Command) (args : List Json) :
    Except CallFailure Json × List Console.Line × Host :=
  match h.realms[c.realm]? with
  | none => (.error ⟨c.name, c.script, "the command belongs to another host"⟩, [], h)
  | some realm =>
    let (outcome, lines, realm) := realm.callUntil limit c.slot args
    (outcome.mapError (⟨c.name, c.script, ·⟩), lines, { h with realms := h.realms.setIfInBounds c.realm realm })

def handle (h : Host) (c : Command) (args : List Json) : Except CallFailure Json × List Console.Line × Host :=
  handleUntil (Realm.limit h.timeoutMs) h c args

def callUntil (limit : Option Nat) (h : Host) (c : Command) (args : List Json) :
    Except Error Json × List Console.Line × Host :=
  let (outcome, lines, h) := h.handleUntil limit c args
  (outcome.mapError CallFailure.error, lines, h)

def call (h : Host) (c : Command) (args : List Json) : Except Error Json × List Console.Line × Host :=
  callUntil (Realm.limit h.timeoutMs) h c args

/-- Whole seconds and a fraction without zeros at its end, or whole milliseconds below a second. -/
def duration (ms : Nat) : String :=
  if ms == 0 then "0ns"
  else if ms < 1000 then s!"{ms}ms"
  else
    let digits := (toString (1000 + ms % 1000)).toList.drop 1
    let fraction := (digits.reverse.dropWhile (· == '0')).reverse
    toString (ms / 1000) ++ (if fraction.isEmpty then "" else "." ++ String.ofList fraction) ++ "s"

def debug (h : Host) : String :=
  let timeout := match h.timeoutMs with
    | some ms => s!"Some({duration ms})"
    | none => "None"
  "ScriptHost \x7b timeout: " ++ timeout ++ ", .. \x7d"

end Host

def Command.debug (c : Command) : String :=
  "TemplateCommand \x7b name: " ++ Text.quoted c.name ++ ", source_file: " ++ c.script.debug ++ ", .. \x7d"

end ApiStencil.Script
