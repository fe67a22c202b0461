import ApiStencil.Script.Store
/-!
Steps of a script. Every step may call back into code of the script, through links that hold one level
of calls less; with no level left a call ends in an error. A step comes with two proofs: the store it
leaves follows the one it found, and it ends when it is told that time is up, or leaves a mark. So
whatever is put together from steps keeps to that too.
-/
set_option autoImplicit false

namespace ApiStencil.Script

/-- What ends a computation other than its result. -/
inductive Abrupt where
  | thrown (v : Value)
  /-- Time is up; no handler sees it. -/
  | interrupted
  /-- The body waits for a promise, for good. -/
  | waiting
  /-- A link of a chain found nothing. -/
  | skipped

structure Exec (α : Type) where
  run : Store → Except Abrupt α × Store
  follows : ∀ s : Store, s.Follows (run s).2
  timely : ∀ s : Store, s.Timely ((run s).1 = .error .interrupted) (run s).2

namespace Exec

variable {α β : Type}

@[always_inline, inline]
protected def pure (a : α) : Exec α where
  run s := (.ok a, s)
  follows s := .refl s
  timely s := .refl _ s

@[always_inline, inline]
protected def bind (x : Exec α) (f : α → Exec β) : Exec β where
  run s :=
    match x.run s with
    | (.ok a, t) => (f a).run t
    | (.error e, t) => (.error e, t)
  follows s := by
    have h := x.follows s
    rcases hx : x.run s with ⟨r, t⟩
    rw [hx] at h
    cases r with
    | error e => exact h
    | ok a => exact h.trans ((f a).follows t)
  timely s := by
    have h := x.timely s
    rcases hx : x.run s with ⟨r, t⟩
    rw [hx] at h
    cases r with
    | error e => exact h.weaken fun he => by rw [Except.error.inj he]
    | ok a => exact h.trans ((f a).timely t) nofun

@[always_inline, inline]
protected def throw (e : Abrupt) : Exec α where
  run s := (.error e, s)
  follows s := .refl s
  timely s := .refl _ s

/-- No handler sees that time is up. -/
@[always_inline, inline]
protected def tryCatch (x : Exec α) (f : Abrupt → Exec α) : Exec α where
  run s :=
    match x.run s with
    | (.ok a, t) => (.ok a, t)
    | (.error .interrupted, t) => (.error .interrupted, t)
    | (.error e, t) => (f e).run t
  follows s := by
    have h := x.follows s
    rcases hx : x.run s with ⟨r, t⟩
    rw [hx] at h
    rcases r with (_ | _ | _ | _) | a
    case error.interrupted => exact h
    case ok => exact h
    all_goals exact h.trans ((f _).follows t)
  timely s := by
    have h := x.timely s
    rcases hx : x.run s with ⟨r, t⟩
    rw [hx] at h
    rcases r with (_ | _ | _ | _) | a
    case error.interrupted => exact h
    case ok => exact h.weaken nofun
    all_goals exact h.trans ((f _).timely t) nofun

/-- How a step ends. This goes on also when time is up, but leaves a mark then. -/
@[always_inline, inline]
def outcome (x : Exec α) : Exec (Except Abrupt α) where
  run s :=
    match x.run s with
    | (.error .interrupted, t) => (.ok (.error .interrupted), { t with unheeded := true })
    | (r, t) => (.ok r, t)
  follows s := by
    have h := x.follows s
    rcases hx : x.run s with ⟨r, t⟩
    rw [hx] at h
    rcases r with (_ | _ | _ | _) | a
    case error.interrupted => exact h.trans (.of_same rfl rfl rfl)
    all_goals exact h
  timely s := by
    have h := x.timely s
    rcases hx : x.run s with ⟨r, t⟩
    rw [hx] at h
    rcases r with (_ | _ | _ | _) | a
    case error.interrupted => exact h.marked _
    all_goals exact h.weaken nofun

@[always_inline, inline]
instance : Monad Exec where
  pure := Exec.pure
  bind := Exec.bind

@[always_inline, inline]
instance : MonadExceptOf Abrupt Exec where
  throw := Exec.throw
  tryCatch := Exec.tryCatch

/-- A change of the store that each store follows, and that leaves the clock alone. -/
@[always_inline, inline]
def update (f : Store → α × Store) (h : ∀ s : Store, s.Follows (f s).2) (hclock : ∀ s : Store, s.SameClock (f s).2) :
    Exec α where
  run s := (.ok (f s).1, (f s).2)
  follows := h
  timely s := (hclock s).timely _

/-- Spends time, and asks now and then whether it is up. -/
@[always_inline, inline]
def spend (time : Nat) : Exec Unit where
  run s :=
    let n := s.polls + time
    if n / Store.pollRound != s.polls / Store.pollRound && s.deadline.any (· ≤ n) then
      (.error .interrupted, { s with polls := n })
    else (.ok (), { s with polls := n })
  follows s := by
    dsimp only
    split <;> exact .of_same rfl rfl rfl
  timely s := by
    have hle : s.polls ≤ s.polls + time := Nat.le_add_right _ _
    dsimp only
    split
    · exact ⟨rfl, hle, id, fun hne => absurd rfl hne⟩
    · rename_i hup
      exact ⟨rfl, hle, id, fun _ hs => hs.spent hup⟩

end Exec

/-- How a body that has handed out a value goes on. -/
inductive Resumption where
  | next (v : Value)
  | throw (v : Value)
  | give (v : Value)

/-- Calls into code of the script. -/
structure Links where
  call : Value → Value → List Value → Exec Value
  construct : Value → List Value → Value → Exec Value
  resume : Nat → Resumption → Exec Value
  /-- Runs a text as a script, in the view of an environment or of none. -/
  evaluate : Units → Option Env → Exec Value

abbrev M := ReaderT Links Exec

/-- A call of a function of the library. -/
structure Call where
  this : Value
  args : List Value
  /-- What `new` was applied to, or nothing. -/
  newTarget : Value
  /-- What the function has been made with. -/
  data : List Value

def Call.arg (c : Call) (i : Nat) : Value := c.args.getD i .undefined

namespace M

/-- The store as it is now. -/
@[always_inline, inline]
def look : M Store := fun _ => ⟨fun s => (.ok s, s), fun s => .refl s, fun s => .refl _ s⟩

@[always_inline, inline]
def update {α : Type} (f : Store → α × Store) (h : ∀ s : Store, s.Follows (f s).2)
    (hclock : ∀ s : Store, s.SameClock (f s).2 := by intro s; exact ⟨rfl, rfl, rfl⟩) : M α :=
  fun _ => Exec.update f h hclock

/-- A change of what is neither an object nor a registration. -/
@[always_inline, inline]
def alter (f : Store → Store) (h : ∀ s : Store, s.Follows (f s))
    (hclock : ∀ s : Store, s.SameClock (f s) := by intro s; exact ⟨rfl, rfl, rfl⟩) : M Unit :=
  update (fun s => ((), f s)) h hclock

def object (r : Nat) : M Obj := do
  return (← look).objects.getD r default

/-- Changes an object. One that can be called stays so, and no other becomes so. -/
def modifyObject (r : Nat) (f : Obj → Obj)
    (h : ∀ o, (f o).kind.callable = o.kind.callable := by intro o; first | rfl | (split <;> simp_all [Kind.callable])) :
    M Unit :=
  alter (fun s => s.change r f) (fun s => .change s r f h) fun s => .change s r f

def newObject (o : Obj) : M Nat :=
  update (fun s => (s.objects.size, { s with objects := s.objects.push o })) fun s => .push s o

/-- An object of another kind, if as many calls can be made of it. -/
def turned (k : Kind) (o : Obj) : Obj :=
  if o.kind.callable == k.callable then { o with kind := k } else o

theorem callable_turned (k : Kind) (o : Obj) : (turned k o).kind.callable = o.kind.callable := by
  unfold turned
  split
  · rename_i h
    exact (beq_iff_eq.mp h).symm
  · rfl

def setKind (r : Nat) (k : Kind) : M Unit := modifyObject r (turned k) (callable_turned k)

def kindOf (r : Nat) : M Kind := do
  return (← object r).kind

/-- The kind of an object that a value stands for. -/
def kind? : Value → M (Option Kind)
  | .object r => do return some (← kindOf r)
  | _ => pure none

def newPlain (proto : Intrinsic) (kind : Kind) : M Nat := newObject ⟨some proto.ref, true, kind, #[]⟩

def newArray (items : Array Value) : M Value := do
  return .object (← newPlain (.proto .array) (.array items))

def newList (items : List Value) : M Value := newArray items.toArray

def newSymbol (description : Option Units) (hidden : Bool) : M Nat :=
  update (fun s => (s.symbols.size, { s with symbols := s.symbols.push ⟨description, hidden⟩ }))
    fun _ => .of_same rfl rfl rfl

def isHidden (symbol : Nat) : M Bool := do
  return ((← look).symbols[symbol]?).any (·.hidden)

def newScope (bindings : Scope) : M Nat :=
  update (fun s => (s.scopes.size, { s with scopes := s.scopes.push bindings })) fun _ => .of_same rfl rfl rfl

/-- Changes what a scope binds. -/
def modifyScope (scope : Nat) (f : Scope → Scope) : M Unit :=
  alter (fun s => { s with scopes := s.scopes.modify scope f }) fun _ => .of_same rfl rfl rfl

def newContext (c : Context) : M Nat :=
  update (fun s => (s.contexts.size, { s with contexts := s.contexts.push c })) fun _ => .of_same rfl rfl rfl

def modifyContext (id : Nat) (f : Context → Context) : M Unit :=
  alter (fun s => { s with contexts := s.contexts.modify id f }) fun _ => .of_same rfl rfl rfl

def writeLine (l : Console.Line) : M Unit :=
  alter (fun s => { s with console := s.console.push l }) fun _ => .of_same rfl rfl rfl

def shown (v : Value) : Slot := .data v true true true

def concealed (v : Value) : Slot := .data v true false true

def newError (kind : ErrorKind) (text : Units) : M Value := do
  let r ← newObject
    ⟨some (Intrinsic.proto (.error kind)).ref, true, .error,
      #[(.ofString "message", concealed (.text text)), (.ofString "stack", concealed (.text #[]))]⟩
  return .object r

def throwValue {α : Type} (v : Value) : M α := throw (.thrown v)

def fail {α : Type} (kind : ErrorKind) (text : String) : M α := do
  throwValue (← newError kind (txt text))

def typeError {α : Type} (text : String) : M α := fail .type text

def rangeError {α : Type} (text : String) : M α := fail .range text

def call (f this : Value) (args : List Value) : M Value := do
  (← read).call f this args

def construct (f : Value) (args : List Value) (newTarget : Value) : M Value := do
  (← read).construct f args newTarget

/-- The result, or what was thrown. -/
def attempt {α : Type} (x : M α) : M (Except Value α) :=
  tryCatch (do return .ok (← x)) fun e =>
    match e with
    | .thrown v => pure (.error v)
    | e => throw e

/-- The outcome of `x`; running out of time counts as a failure here. -/
def settled (x : M Value) : M PromiseState := do
  match ← (fun l => (x l).outcome : M (Except Abrupt Value)) with
  | .ok v => return .fulfilled v
  | .error (.thrown v) => return .rejected v
  | .error .interrupted => return .rejected .undefined
  | .error .waiting | .error .skipped => return .pending

def newPromise (s : PromiseState) : M Value := do
  return .object (← newPlain (.proto .promise) (.promise s))

def spend (time : Nat) : M Unit := fun _ => Exec.spend time

def poll : M Unit := spend 1

end M
end ApiStencil.Script
