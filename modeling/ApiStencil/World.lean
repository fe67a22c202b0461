import ApiStencil.Error
import ApiStencil.FileSystem.Basic
import ApiStencil.Journal
/-!
What a run works on, and steps of a run. A step that fails keeps what it has done to the world.
-/
set_option autoImplicit false

namespace ApiStencil

structure World where
  files : FileSystem
  journal : Journal

abbrev Run := ExceptT Error (StateM World)

namespace Run

def tell (level : Journal.Level) (text : String) : Run Unit :=
  modify fun w => { w with journal := w.journal.add level text }

def hear (sink : Journal.Sink) (lines : List Console.Line) : Run Unit :=
  modify fun w => { w with journal := w.journal.hear sink lines }

def files : Run FileSystem := do
  return (← get).files

def setFiles (fs : FileSystem) : Run Unit :=
  modify fun w => { w with files := fs }

def ofExcept {α : Type} : Except Error α → Run α
  | .ok a => pure a
  | .error e => throw e

/-- The result of a file operation; a failure is reported as `what` with its cause, and stands for
`path`. -/
def ofFile {α : Type} (what : String) (path : Path) : Except IoError α → Run α
  | .ok a => pure a
  | .error e => do
    tell .error s!"{what}: {e.message}"
    throw (.file path e)

/-- What comes of a run that begins in a world, and the world it leaves. -/
def on {α : Type} (x : Run α) (w : World) : Except Error α × World := x.run.run w

section On

variable {α β : Type} (w : World)

@[simp]
theorem pure_on (a : α) : (pure a : Run α).on w = (.ok a, w) := rfl

@[simp]
theorem throw_on (e : Error) : (throw e : Run α).on w = (.error e, w) := rfl

theorem bind_on (x : Run α) (f : α → Run β) :
    (x >>= f).on w =
      match x.on w with
      | (.ok a, v) => (f a).on v
      | (.error e, v) => (.error e, v) := by
  show ExceptT.bindCont f (x.on w).1 (x.on w).2 = _
  rcases x.on w with ⟨r, v⟩
  cases r <;> rfl

theorem bind_on_ok {x : Run α} {f : α → Run β} {w v : World} {a : α} (h : x.on w = (.ok a, v)) :
    (x >>= f).on w = (f a).on v := by
  rw [bind_on, h]

theorem bind_on_error {x : Run α} {f : α → Run β} {w v : World} {e : Error} (h : x.on w = (.error e, v)) :
    (x >>= f).on w = (.error e, v) := by
  rw [bind_on, h]

/-- What has to have gone well for two steps to go well. -/
theorem bind_on_eq_ok {x : Run α} {f : α → Run β} {w u : World} {b : β} (h : (x >>= f).on w = (.ok b, u)) :
    ∃ a v, x.on w = (.ok a, v) ∧ (f a).on v = (.ok b, u) := by
  rw [bind_on] at h
  rcases hx : x.on w with ⟨r, v⟩
  rw [hx] at h
  cases r with
  | error e => simp at h
  | ok a => exact ⟨a, v, rfl, h⟩

/-- Two steps fail in the first one or in the second one. -/
theorem bind_on_eq_error {x : Run α} {f : α → Run β} {w u : World} {e : Error}
    (h : (x >>= f).on w = (.error e, u)) :
    x.on w = (.error e, u) ∨ ∃ a v, x.on w = (.ok a, v) ∧ (f a).on v = (.error e, u) := by
  rw [bind_on] at h
  rcases hx : x.on w with ⟨r, v⟩
  rw [hx] at h
  cases r with
  | error e' =>
    left
    simpa using h
  | ok a => exact .inr ⟨a, v, rfl, h⟩

@[simp]
theorem get_on : (get : Run World).on w = (.ok w, w) := rfl

@[simp]
theorem set_on (v : World) : (set v : Run Unit).on w = (.ok (), v) := rfl

@[simp]
theorem tell_on (level : Journal.Level) (text : String) :
    (tell level text).on w = (.ok (), { w with journal := w.journal.add level text }) := rfl

@[simp]
theorem hear_on (sink : Journal.Sink) (lines : List Console.Line) :
    (hear sink lines).on w = (.ok (), { w with journal := w.journal.hear sink lines }) := rfl

@[simp]
theorem files_on : files.on w = (.ok w.files, w) := rfl

@[simp]
theorem setFiles_on (fs : FileSystem) : (setFiles fs).on w = (.ok (), { w with files := fs }) := rfl

@[simp]
theorem ofExcept_on (x : Except Error α) : (ofExcept x).on w = (x, w) := by
  cases x <;> rfl

@[simp]
theorem ofFile_ok_on (what : String) (path : Path) (a : α) : (ofFile what path (.ok a)).on w = (.ok a, w) := rfl

@[simp]
theorem ofFile_error_on (what : String) (path : Path) (e : IoError) :
    (ofFile what path (.error e) : Run α).on w =
      (.error (.file path e), { w with journal := w.journal.add .error s!"{what}: {e.message}" }) := rfl

theorem ofExcept_on_eq {x : Except Error α} {w v : World} {r : Except Error α} (h : (ofExcept x).on w = (r, v)) :
    x = r ∧ w = v := by
  rw [ofExcept_on] at h
  cases h
  exact ⟨rfl, rfl⟩

end On

end Run
end ApiStencil
