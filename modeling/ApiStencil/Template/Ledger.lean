import ApiStencil.Template.Set
import ApiStencil.Template.Stack
/-!
Steps of a rendering. A ledger goes along with them that takes down each command that has failed, and
each failure that a condition has passed over. A step comes with the proof that its ledger accounts for
every failure: it has been passed over, or it is what the step ends in.
-/
set_option autoImplicit false

namespace ApiStencil.Template

/-- The macros of a file, by the name that stands for it. -/
abbrev Spaces := List (String × String × List (String × MacroDef × List Node))

structure State (W : Type) where
  frames : List Frame
  /-- Blocks entered: name, template of the definition, and how far up it was found. -/
  blocks : List (String × String × Nat)
  /-- The macros in view of each template. -/
  spaces : List (String × Spaces)
  escapes : Bool
  /-- What has been written, newest first. -/
  written : List String
  world : W

/-- Calls of commands that have failed, newest first. -/
structure Ledger where
  failed : List CallFailure
  /-- Those that a condition has passed over. -/
  passedOver : List CallFailure

/-- Each failure has been passed over, but for the one that a fault comes from. -/
def Ledger.Accounts (l : Ledger) (fatal : Option CallFailure) : Prop :=
  l.failed = fatal.toList ++ l.passedOver

/-- The failed call that a step ends in. -/
def fatal? {α : Type} : Except Fault α → Option CallFailure
  | .ok _ => none
  | .error f => f.command?

structure Eval (W α : Type) where
  run : State W → Ledger → Except Fault α × State W × Ledger
  accounts : ∀ s l, l.Accounts none → (run s l).2.2.Accounts (fatal? (run s l).1)

namespace Eval

variable {W α β : Type}

@[always_inline, inline]
protected def pure (a : α) : Eval W α where
  run s l := (.ok a, s, l)
  accounts _ _ h := h

@[always_inline, inline]
protected def bind (x : Eval W α) (f : α → Eval W β) : Eval W β where
  run s l :=
    match x.run s l with
    | (.ok a, t, m) => (f a).run t m
    | (.error e, t, m) => (.error e, t, m)
  accounts s l h := by
    have hx := x.accounts s l h
    rcases he : x.run s l with ⟨r, t, m⟩
    rw [he] at hx
    cases r with
    | error e => exact hx
    | ok a => exact (f a).accounts t m hx

@[always_inline, inline]
instance : Monad (Eval W) where
  pure := Eval.pure
  bind := Eval.bind

@[always_inline, inline]
instance : MonadStateOf (State W) (Eval W) where
  get := ⟨fun s l => (.ok s, s, l), fun _ _ h => h⟩
  set s := ⟨fun _ l => (.ok (), s, l), fun _ _ h => h⟩
  modifyGet f := ⟨fun s l => (.ok (f s).1, (f s).2, l), fun _ _ h => h⟩

def problem (p : Problem) : Eval W α where
  run s l := (.error (.of p), s, l)
  accounts _ _ h := h

def ofExcept : Except Problem α → Eval W α
  | .ok a => pure a
  | .error p => problem p

/-- Calls a command. One that fails ends the step. -/
def act (f : W → Except CallFailure α × W) : Eval W α where
  run s l :=
    match f s.world with
    | (.ok a, w) => (.ok a, { s with world := w }, l)
    | (.error failure, w) =>
      (.error ⟨[], .command failure⟩, { s with world := w }, { l with failed := failure :: l.failed })
  accounts s l h := by
    cases f s.world with
    | mk r w =>
      cases r with
      | ok a => exact h
      | error failure => exact congrArg (failure :: ·) h

/-- Changes the words of a fault, not what it comes from. -/
def reworded (g : Fault → Fault) (hg : ∀ f, (g f).command? = f.command?) (x : Eval W α) : Eval W α where
  run s l :=
    match x.run s l with
    | (.ok a, t, m) => (.ok a, t, m)
    | (.error f, t, m) => (.error (g f), t, m)
  accounts s l h := by
    have hx := x.accounts s l h
    rcases he : x.run s l with ⟨r, t, m⟩
    rw [he] at hx
    cases r with
    | ok a => exact hx
    | error f => exact Eq.trans hx (by simp [fatal?, hg])

/-- Puts words around a fault. -/
def within (text : String) (x : Eval W α) : Eval W α :=
  x.reworded (·.within text) (Fault.command?_within text)

/-- Reduces a fault to its outermost words. -/
def flattened (x : Eval W α) : Eval W α :=
  x.reworded Fault.flatten Fault.command?_flatten

/-- The result, or nothing where there is a fault, which is passed over. -/
def attempt (x : Eval W α) : Eval W (Option α) where
  run s l :=
    match x.run s l with
    | (.ok a, t, m) => (.ok (some a), t, m)
    | (.error f, t, m) => (.ok none, t, { m with passedOver := f.command?.toList ++ m.passedOver })
  accounts s l h := by
    have hx := x.accounts s l h
    rcases he : x.run s l with ⟨r, t, m⟩
    rw [he] at hx
    cases r with
    | ok a => exact hx
    | error f => exact hx

/-- Runs `x`, and changes the state afterwards whatever came of it. -/
def ending (x : Eval W α) (g : State W → State W) : Eval W α where
  run s l :=
    match x.run s l with
    | (r, t, m) => (r, g t, m)
  accounts s l h := x.accounts s l h

end Eval
end ApiStencil.Template
