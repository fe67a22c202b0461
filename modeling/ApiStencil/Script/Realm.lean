import ApiStencil.Script.Invoke
import ApiStencil.Script.Library.Table
import ApiStencil.Script.Marshal
/-!
A script with all that it has made. It runs once from top to bottom; after that, functions that it has
registered are called one at a time, and each call finds what the former ones have left behind.
-/
set_option autoImplicit false

namespace ApiStencil.Script

/-- What a script works on, between two runs. -/
structure Realm where
  store : Store

namespace Realm

/-- How many polls a run may take if its time is limited. -/
def budget : Nat := 300000

/-- The poll at which the time of a run is up. No time at all is up at the first one. -/
def limit (timeoutMs : Option Nat) : Option Nat :=
  timeoutMs.map fun ms => if ms = 0 then 1 else budget

def fresh : Store :=
  { objects := Library.objects
    scopes := #[#[]]
    contexts := #[⟨some (.object Store.globalRef), none, none, .undefined, [], none⟩]
    symbols := (KnownSymbol.all.map fun s => SymbolInfo.mk (some (txt s!"Symbol.{s.name}")) false).toArray
    shared := []
    templates := []
    console := #[]
    roll := .empty
    tampered := false
    polls := 0
    deadline := none
    unheeded := false }

theorem objects_fresh : fresh.objects = Library.objects := by rw [fresh]

/-- A store with its clock set back and no lines on its console, whose time is up at a poll. -/
def awakeUntil (limit : Option Nat) (s : Store) : Store :=
  { s with polls := 0, deadline := limit, unheeded := false, console := #[] }

def awake (timeoutMs : Option Nat) (s : Store) : Store := awakeUntil (limit timeoutMs) s

def links : Links := M.links Library.natives M.callDepth

/-- Runs a step on a store that begins anew. -/
def performUntil {α : Type} (limit : Option Nat) (s : Store) (x : M α) : Except Abrupt α × Store :=
  (x links).run (awakeUntil limit s)

def perform {α : Type} (timeoutMs : Option Nat) (s : Store) (x : M α) : Except Abrupt α × Store :=
  performUntil (limit timeoutMs) s x

theorem perform_eq {α : Type} (timeoutMs : Option Nat) (s : Store) (x : M α) :
    perform timeoutMs s x = (x links).run (awake timeoutMs s) := rfl

/-- Of what has no text of its own it is only known that it has happened. -/
def unnamed : String := "Exception generated by QuickJS"

/-- The text of what ended a run. -/
def describe (v : Value) : M String := do
  match ← M.settled (do return .text (← M.toText v)) with
  | .fulfilled (.text u) => return u.toText
  | _ => return unnamed

/-- What has ended a run, as a value. -/
def cause? : Abrupt → M (Option Value)
  | .thrown v => return some v
  | .interrupted => return some (← M.newError .internal (txt "interrupted"))
  | .waiting | .skipped => return none

/-- The text of what has ended a run. The clock of the run goes on meanwhile. -/
def explain (a : Abrupt) : M String := do
  match ← cause? a with
  | some v => describe v
  | none => return unnamed

/-- The result of a step, or the text of what ended it; and the lines written to the console. -/
def finish {α : Type} (done : Except Abrupt α × Store) : Except String α × List Console.Line × Realm :=
  let (outcome, s) := done
  match outcome with
  | .ok v => (.ok v, s.console.toList, ⟨s⟩)
  | .error a =>
    let (text, s) := (explain a links).run s
    (.error (text.toOption.getD unnamed), s.console.toList, ⟨s⟩)

/-- Declares what a script declares: variables and functions as properties of the global object. -/
def declare (b : Body) : M Unit := do
  let global := Store.globalRef
  for name in b.vars do
    if !(← M.hasKey global (.name name)) then
      let _ ← M.define global (.name name) (Draft.mk (some .undefined) none none (some true) (some true) (some false))
  M.modifyScope 0 fun bs => bs ++ (b.block.names.map fun (n, changes) => Binding.mk n none changes).toArray
  for c in b.block.functions do
    let f ← M.newClosure c M.scriptEnv none
    let _ ← M.define global (.name c.name) (Draft.mk (some f) none none (some true) (some true) none)

def runScript (source : String) : M Unit := do
  match Body.read? source.toList Reader.Site.script with
  | none => M.fail .syntaxKind "unexpected token in script"
  | some b =>
    declare b
    match ← M.run M.endless (M.running b.block.stmts [] M.scriptEnv) with
    | .done (.thrown v) => M.throwValue v
    | _ => return ()

/-- How the calls that register have ended when a script runs from top to bottom, in that order. -/
def answers (timeoutMs : Option Nat) (source : String) : List (Option Registration) :=
  (perform timeoutMs fresh (runScript source)).2.roll.answers.toList

/-- The registrations that a script completes when it runs from top to bottom. -/
def registrations (timeoutMs : Option Nat) (source : String) : List Registration :=
  (perform timeoutMs fresh (runScript source)).2.registered.toList

/-- A realm whose next registration counts as its first. -/
def handedOver (r : Realm) : Realm := ⟨{ r.store with roll := .empty }⟩

/-- The names that a script has registered, if it has come to its end. -/
def started (done : Except Abrupt Unit × Store) : Except String (List String × Realm) × List Console.Line :=
  let names := done.2.roll.names.toList
  let (outcome, lines, realm) := finish done
  (outcome.map fun _ => (names, realm.handedOver), lines)

/-- Runs a script from top to bottom and gives the names that it has registered. -/
def startUntil (limit : Option Nat) (source : String) : Except String (List String × Realm) × List Console.Line :=
  started (performUntil limit fresh (runScript source))

def start (timeoutMs : Option Nat) (source : String) : Except String (List String × Realm) × List Console.Line :=
  startUntil (limit timeoutMs) source

theorem start_eq (timeoutMs : Option Nat) (source : String) :
    start timeoutMs source = started (perform timeoutMs fresh (runScript source)) := rfl

/-- The function at a place of the array of commands. -/
def slotFunction (slot : Nat) : M Value := do
  let f ← M.getMember (← Library.Globals.slotsArray) (.ofIndex slot)
  if !(← M.isCallable f) then Library.Globals.wrongKind f "function"
  return f

/-- Calls a function with values from outside and gives its result to the outside. -/
def apply (f : Value) (args : List Json) : M Json := do
  let args ← args.mapM M.ofJson
  M.handBack (← M.call f .undefined args)

/-- Calls a registered function by its place. -/
def callSlot (slot : Nat) (args : List Json) : M Json := do
  apply (← slotFunction slot) args

def callUntil (r : Realm) (limit : Option Nat) (slot : Nat) (args : List Json) :
    Except String Json × List Console.Line × Realm :=
  finish (performUntil limit r.store (callSlot slot args))

def call (r : Realm) (timeoutMs : Option Nat) (slot : Nat) (args : List Json) :
    Except String Json × List Console.Line × Realm :=
  r.callUntil (limit timeoutMs) slot args

theorem call_eq (r : Realm) (timeoutMs : Option Nat) (slot : Nat) (args : List Json) :
    r.call timeoutMs slot args = finish (perform timeoutMs r.store (callSlot slot args)) := rfl

end Realm
end ApiStencil.Script
