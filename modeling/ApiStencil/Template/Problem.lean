import ApiStencil.Error
import ApiStencil.Template.Call
import ApiStencil.Template.Debug
/-!
What can go wrong while a template is rendered. A fault keeps the problem with what was being done
when it arose, outermost first.
-/
set_option autoImplicit false

namespace ApiStencil.Template

inductive Problem where
  | unknownVariable (name template : String)
  | unknownElement (path template evaluated : String)
  | badIndex (path : String) (cause : Problem)
  | indexKind (index path : String)
  | unknownFilter (name : String)
  | unknownFunction (name : String)
  | unknownTest (name : String)
  | call (fault : CallFault)
  | defaultNeedsValue
  | memberOfString (v : Json)
  | memberOfObject (v : Json)
  | memberOfOther
  | concatIdent (name : String)
  | concatCall (name : String)
  | notANumberComparison
  | mathVariable (name : String)
  | mathFunction (name : String)
  | mathString (s : String)
  | mathBool (b : Bool)
  | mathConcat (s : String)
  | mathTest (name : String)
  | mathOther (s : String)
  | mathFiltered
  | outOfBounds (left : Int) (sign : String) (right : Int) (kind : String)
  | moduloZero (left right : Expr)
  | logicFunction (name : String)
  | loopContainer (v : Operand)
  | loopNotObject (name : String)
  | loopNeedsKey (name : String)
  | loopUnsupported (name : String)
  | leaveOutsideLoop
  | nextOutsideLoop
  | unknownTemplate (name : String)
  | inheritanceInside (parent : String)
  | missingArgument (name argument : String)
  | unknownMacro (space name template : String)
  | unknownSpace (space template : String)
  | noParentBlock
  | tooDeep

def Problem.message : Problem → String
  | .unknownVariable name template => s!"Variable `{name}` not found in context while rendering '{template}'"
  | .unknownElement path template evaluated =>
    s!"Variable `{path}` not found in context while rendering '{template}': the evaluated version was `{evaluated}`. Maybe the index is out of bounds?"
  | .badIndex path cause => s!"Variable {path} can not be evaluated because: {cause.message}"
  | .indexKind index path =>
    s!"Only variables evaluating to String or Number can be used as index (`{index}` of `{path}`)"
  | .unknownFilter name => s!"Filter '{name}' not found"
  | .unknownFunction name => s!"Function '{name}' not found"
  | .unknownTest name => s!"Test '{name}' not found"
  | .call fault => fault.message
  | .defaultNeedsValue => "The `default` filter requires a `value` argument."
  | .memberOfString v => s!"Tried to check if {debugJson v} is in a string, but it isn't a string"
  | .memberOfObject v => s!"Tried to check if {debugJson v} is in a object, but it isn't a string"
  | .memberOfOther => "The `in` operator only supports strings, arrays and objects."
  | .concatIdent name => s!"Tried to concat a value that is not a string or a number from ident {name}"
  | .concatCall name => s!"Tried to concat a value that is not a string or a number from function call {name}"
  | .notANumberComparison => "Comparison to NaN"
  | .mathVariable name => s!"Variable `{name}` was used in a math operation but is not a number"
  | .mathFunction name => s!"Function `{name}` was used in a math operation but is not returning a number"
  | .mathString s => s!"Tried to do math with a string: `{s}`"
  | .mathBool b => s!"Tried to do math with a boolean: `{b}`"
  | .mathConcat s => s!"Tried to do math with a string concatenation: {s}"
  | .mathTest name => s!"Tried to do math with a test: {name}"
  | .mathOther s => s!"Tried to do math with {s}"
  | .mathFiltered => "Tried to do math with an expression not resulting in a number"
  | .outOfBounds left sign right kind => s!"{left} {sign} {right} results in an out of bounds {kind}"
  | .moduloZero left right => s!"Tried to do a modulo by zero: {left.debug}/{right.debug}"
  | .logicFunction name => s!"Function `{name}` was used in a logic operation but is not returning a bool"
  | .loopContainer v =>
    s!"Forloop containers have to be an ident or a function call (tried to iterate on '{v.debug}')"
  | .loopNotObject name =>
    s!"Tried to iterate using key value on variable `{name}`, but it isn't an object/map"
  | .loopNeedsKey name => s!"Tried to iterate using key value on variable `{name}`, but it is missing a key"
  | .loopUnsupported name => s!"Tried to iterate on a container (`{name}`) that has a unsupported type"
  | .leaveOutsideLoop => "Attempted `break` while not in `for loop`"
  | .nextOutsideLoop => "Attempted `continue` while not in `for loop`"
  | .unknownTemplate name => s!"Template '{name}' not found"
  | .inheritanceInside parent =>
    s!"Inheritance in included templates is currently not supported: extended `{parent}`"
  | .missingArgument name argument => s!"Macro `{name}` is missing the argument `{argument}`"
  | .unknownMacro space name template => s!"Macro `{space}::{name}` not found in template `{template}`"
  | .unknownSpace space template =>
    s!"Macro namespace `{space}` was not found in template `{template}`. Have you maybe forgotten to import it, or misspelled it?"
  | .noParentBlock => "Tried to use super() in the top level block"
  | .tooDeep => "Templates are nested too deeply"

/-- What a fault comes from. -/
inductive Cause where
  | problem (p : Problem)
  | command (failure : CallFailure)
  /-- A cause of which nothing but words around it is kept. -/
  | hidden (words : String) (cause : Cause)

namespace Cause

def message : Cause → String
  | .problem p => p.message
  | .command failure => failure.error.chain
  | .hidden words _ => words

/-- The failed call that a cause goes back to, if there is one. -/
def command? : Cause → Option CallFailure
  | .problem _ => none
  | .command failure => some failure
  | .hidden _ cause => cause.command?

end Cause

structure Fault where
  context : List String
  cause : Cause

namespace Fault

def of (problem : Problem) : Fault := ⟨[], .problem problem⟩

def command? (f : Fault) : Option CallFailure := f.cause.command?

def messages (f : Fault) : List String :=
  f.context ++ [f.cause.message]

def within (text : String) (f : Fault) : Fault :=
  { f with context := text :: f.context }

/-- The fault reduced to its outermost words. -/
def flatten (f : Fault) : Fault :=
  match f.context with
  | words :: _ => ⟨[], .hidden words f.cause⟩
  | [] => f

def text (f : Fault) : String :=
  String.intercalate ": " f.messages

theorem command?_within (text : String) (f : Fault) : (f.within text).command? = f.command? := rfl

theorem command?_flatten (f : Fault) : f.flatten.command? = f.command? := by
  unfold flatten
  split <;> rfl

end Fault
end ApiStencil.Template
