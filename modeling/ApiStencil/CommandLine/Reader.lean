import ApiStencil.CommandLine.Flag
import ApiStencil.Decimal.Read
import ApiStencil.Json.Basic
import ApiStencil.Text.Trim
/-!
What can be wrong with a command line, and the message for it.
-/
set_option autoImplicit false

namespace ApiStencil.CommandLine

inductive UsageError where
  | unknownCommand (name : String)
  | unexpectedArgument (argument : String)
  | unexpectedValue (flag : Flag) (value : String)
  | missingValue (flag : Flag)
  | badValue (flag : Flag) (value reason : String)
  | repeated (flag : Flag)
  | missingFlags (flags : List Flag)

def UsageError.message : UsageError → String
  | .unknownCommand name => s!"unrecognized subcommand '{name}'"
  | .unexpectedArgument a => s!"unexpected argument '{a}' found"
  | .unexpectedValue f v => s!"unexpected value '{v}' for '{f.display}' found; no more were expected"
  | .missingValue f => s!"a value is required for '{f.display}' but none was supplied"
  | .badValue f v reason => s!"invalid value '{v}' for '{f.display}': {reason}"
  | .repeated f => s!"the argument '{f.display}' cannot be used multiple times"
  | .missingFlags fs =>
    "the following required arguments were not provided:" ++ String.join (fs.map fun f => "\n  " ++ f.display)

/-- Why the words of a command are not worked on. -/
inductive Halt where
  | usage (e : UsageError)
  | help (long : Bool)

end ApiStencil.CommandLine

/-!
Reading the words behind a command. A value is taken in only when the next flag comes or the words end, so
an unknown word is reported before a value that does not fit.
-/

namespace ApiStencil.CommandLine

/-- A natural number of 64 bits behind `n`, or why there is none. -/
def naturalFrom (n : Nat) : List Char → Except String Nat
  | [] => .ok n
  | c :: rest =>
    if !c.isDigit then .error "invalid digit found in string"
    else
      let n := 10 * n + Decimal.digitValue c
      if n ≤ Number.maxNat then naturalFrom n rest else .error "number too large to fit in target type"

def natural (s : String) : Except String Nat :=
  match s.toList with
  | [] => .error "cannot parse integer from empty string"
  | ['+'] => .error "invalid digit found in string"
  | '+' :: rest => naturalFrom 0 rest
  | cs => naturalFrom 0 cs

/-- What a value says about its flag. -/
def givenOf (f : Flag) (v : String) : Except UsageError Given :=
  match f.value with
  | none => .ok .present
  | some .text => .ok (.text v)
  | some .path => if v.isEmpty then .error (.missingValue f) else .ok (.text v)
  | some .natural =>
    match natural v with
    | .ok n => .ok (.natural n)
    | .error reason => .error (.badValue f v reason)

/-- A flag that has not been taken in. -/
inductive Pending where
  | none
  /-- It waits for its value. -/
  | waiting (f : Flag)
  | filled (f : Flag) (v : String)

structure Progress where
  found : Findings
  pending : Pending

def take (f : Flag) (v : String) (found : Findings) : Except UsageError Findings :=
  if !f.repeats && found.has f.long then .error (.repeated f)
  else (givenOf f v).map fun g => found ++ [(f.long, g)]

/-- What is found once nothing is pending. -/
def Progress.settle (p : Progress) : Except UsageError Findings :=
  match p.pending with
  | .none => .ok p.found
  | .waiting f => .error (.missingValue f)
  | .filled f v => take f v p.found

def Progress.taking (p : Progress) (f : Flag) (v : String) : Except UsageError Progress :=
  (p.settle.bind (take f v)).map fun found => ⟨found, .none⟩

def Progress.opening (p : Progress) (f : Flag) : Except UsageError Progress :=
  p.settle.map fun found => ⟨found, .waiting f⟩

/-- A flag asked for by its name, with a value if one is attached. -/
def longFlag (flags : List Flag) (name : String) (value : Option String) (p : Progress) : Except Halt Progress :=
  let helpFlag := Flag.switch "help" ""
  let settled := fun (r : Except UsageError Progress) => r.mapError Halt.usage
  match (flags ++ [helpFlag]).find? fun f => f.long == name with
  | none => .error (.usage (.unexpectedArgument ("--" ++ name)))
  | some f =>
    match f.value, value with
    | some _, some v => settled (p.taking f v)
    | some _, none => settled (p.opening f)
    | none, some v => .error (.usage (.unexpectedValue f v))
    | none, none =>
      if f.long == helpFlag.long then
        match p.settle with
        | .ok _ => .error (.help true)
        | .error e => .error (.usage e)
      else settled (p.taking f "")

/-- A flag asked for by its letter, with what stands behind that. -/
def shortFlag (flags : List Flag) (letter : Char) (behind : List Char) (p : Progress) : Except Halt Progress :=
  match flags.find? fun f => f.short == some letter with
  | some f =>
    let next :=
      match behind with
      | [] => p.opening f
      | '=' :: v => p.taking f (String.ofList v)
      | v => p.taking f (String.ofList v)
    next.mapError Halt.usage
  | none =>
    if letter == 'h' then
      match p.settle with
      | .ok _ => .error (.help false)
      | .error e => .error (.usage e)
    else .error (.usage (.unexpectedArgument (String.ofList ['-', letter])))

/-- The parts of a word before and behind its first equals sign. -/
def splitValue (cs : List Char) : String × Option String :=
  match cs.dropWhile (· != '=') with
  | [] => (String.ofList cs, none)
  | _ :: v => (String.ofList (cs.takeWhile (· != '=')), some (String.ofList v))

/-- A word behind the command. Two hyphens alone leave no place for any further word. -/
def word (flags : List Flag) (w : String) (p : Progress) : Except Halt Progress :=
  match w.toList with
  | '-' :: '-' :: c :: cs =>
    let (name, value) := splitValue (c :: cs)
    longFlag flags name value p
  | ['-'] | [] => plain
  | '-' :: letter :: behind => shortFlag flags letter behind p
  | _ => plain
where
  plain : Except Halt Progress :=
    match p.pending with
    | .waiting f => .ok { p with pending := .filled f w }
    | _ => .error (.usage (.unexpectedArgument w))

def words (flags : List Flag) : List String → Progress → Except Halt Progress
  | [], p => .ok p
  | "--" :: [], p => .ok p
  | "--" :: w :: _, _ => .error (.usage (.unexpectedArgument w))
  | w :: rest, p => (word flags w p).bind (words flags rest)

/-- The flags among the words behind a command. -/
def read (flags : List Flag) (ws : List String) : Except Halt Findings := do
  let p ← words flags ws ⟨[], .none⟩
  let found ← p.settle.mapError Halt.usage
  let missing := flags.filter fun f => f.required && !found.has f.long
  if missing.isEmpty then return found else throw (.usage (.missingFlags missing))

end ApiStencil.CommandLine
