import ApiStencil.Template.Filter.Table
import ApiStencil.Template.Function
import ApiStencil.Template.Ledger
/-!
The filters and functions that templates call by name. What is registered takes the place of what went by
its name before: the language brings its own, helpers join them, and the commands of scripts come last.
-/
set_option autoImplicit false

namespace ApiStencil.Template

/-- A command over a world `W`, as a filter and as a function. One that fails says why. -/
structure Handler (W : Type) where
  filter : Json → Args → W → Except CallFailure Json × W
  function : Args → W → Except CallFailure Json × W

/-- Commands by their names, in the order of their registration. -/
abbrev Commands (W : Type) := List (String × Handler W)

structure Registry (W : Type) where
  filter? : String → Option (Json → Args → Eval W Json)
  function? : String → Option (Args → Eval W Json)

namespace Registry

variable {W : Type}

def empty : Registry W := ⟨fun _ => none, fun _ => none⟩

def addFilter (r : Registry W) (name : String) (f : Json → Args → Eval W Json) : Registry W :=
  { r with filter? := fun n => if n == name then some f else r.filter? n }

def addFunction (r : Registry W) (name : String) (f : Args → Eval W Json) : Registry W :=
  { r with function? := fun n => if n == name then some f else r.function? n }

/-- The result of a filter or function that is no command. -/
def answered (r : Answer Json) : Eval W Json := Eval.ofExcept (r.mapError .call)

def addFilters (r : Registry W) (fs : List (String × Filter)) : Registry W :=
  fs.foldl (fun r (name, f) => r.addFilter name fun v args => answered (f v args)) r

def addFunctions (r : Registry W) (fs : List (String × Function)) : Registry W :=
  fs.foldl (fun r (name, f) => r.addFunction name fun args => answered (f args)) r

/-- What the language brings, and the helpers. -/
def library : Registry W :=
  (((empty.addFilters Filter.builtIn).addFunctions Function.builtIn).addFilters Filter.helpers).addFunctions
    Function.helpers

/-- A command becomes a function and a filter. -/
def addCommand (r : Registry W) (name : String) (h : Handler W) : Registry W :=
  (r.addFunction name fun args => Eval.act (h.function args)).addFilter name fun v args => Eval.act (h.filter v args)

def register (r : Registry W) (commands : Commands W) : Registry W :=
  commands.foldl (fun r (name, h) => r.addCommand name h) r

end Registry
end ApiStencil.Template
