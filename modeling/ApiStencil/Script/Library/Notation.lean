import ApiStencil.Script.Library.Arrays
/-!
Values as JSON text and back, with the hooks that scripts may put in between.
-/
set_option autoImplicit false

namespace ApiStencil.Script.Library.Notation
open M

def hexDigits (n : Nat) : Units :=
  let digit := fun d : Nat => if d < 10 then (48 + d).toUInt16 else (87 + d).toUInt16
  #[digit (n / 4096 % 16), digit (n / 256 % 16), digit (n / 16 % 16), digit (n % 16)]

/-- A unit as it stands between quotation marks. -/
def escaped (w : UInt16) : Units :=
  match w.toNat with
  | 8 => txt "\\b"
  | 9 => txt "\\t"
  | 10 => txt "\\n"
  | 12 => txt "\\f"
  | 13 => txt "\\r"
  | 34 => txt "\\\""
  | 92 => txt "\\\\"
  | n => if n < 32 then txt "\\u" ++ hexDigits n else #[w]

/-- A text between quotation marks; a surrogate without its partner is written by its number. -/
def quoted (u : Units) : Units :=
  (u.points.foldl (fun (acc : Units) n =>
    if 0xd800 ≤ n && n < 0xe000 then acc ++ txt "\\u" ++ hexDigits n
    else if n < 0x10000 then acc ++ escaped n.toUInt16
    else acc.pushPoint n) (txt "\"")).push 34

/-- How values are written. -/
structure Style where
  replacer : Option Value
  /-- The only names that are written, if they are given. -/
  names : Option (List Units)
  gap : Units

/-- What a value is written as, after its own method and the replacer have been asked. -/
def prepared (s : Style) (holder : Value) (k : Key) (v : Value) : M Value := do
  let v ← match v with
    | .object _ | .bigint _ => do
      let f ← getNamed v "toJSON"
      if ← isCallable f then call f v [k.toValue] else pure v
    | v => pure v
  let v ← match s.replacer with
    | some f => call f holder [k.toValue, v]
    | none => pure v
  match v with
  | .object r =>
    match ← kindOf r with
    | .number _ => return .number (← toNumber v)
    | .text _ => return .text (← toText v)
    | .bool b => return .bool b
    | .bigint n => return .bigint n
    | _ => return v
  | v => return v

/-- Parts between brackets, on lines of their own if there is a gap. -/
def bracketed (open_ close : String) (gap indent : Units) (parts : List Units) : Units :=
  if parts.isEmpty then txt (open_ ++ close)
  else if gap.isEmpty then txt open_ ++ Units.join (txt ",") parts ++ txt close
  else
    let inner := txt "\n" ++ indent ++ gap
    txt open_ ++ inner ++ Units.join (txt "," ++ inner) parts ++ txt "\n" ++ indent ++ txt close

/-- The text of a value that has been prepared; some values have none. -/
def write (s : Style) : Nat → List Nat → Units → Value → M (Option Units)
  | 0, _, _, _ => rangeError "Maximum call stack size exceeded"
  | n + 1, path, indent, v => do
    match v with
    | .null => return some (txt "null")
    | .bool b => return some (txt (if b then "true" else "false"))
    | .text u => return some (quoted u)
    | .number x => return some (if x.isNaN || x.isInf then txt "null" else numberText x)
    | .bigint _ => typeError "BigInt are forbidden in JSON.stringify"
    | .undefined | .symbol _ => return none
    | .object r =>
      if ← isCallable v then return none
      if path.contains r then typeError "circular reference"
      poll
      let path := r :: path
      if ← Arrays.isArray v then
        let parts ← (List.range (← lengthOf v)).mapM fun i => do
          let item ← prepared s v (.ofIndex i) (← getIndex v (.ofNat i))
          return (← write s n path (indent ++ s.gap) item).getD (txt "null")
        return some (bracketed "[" "]" s.gap indent parts)
      else
        let names ← match s.names with
          | some names => pure names
          | none => Objects.shownNames r
        let parts ← names.filterMapM fun name => do
          let item ← prepared s v (.name name) (← getFrom r (.name name) v)
          match ← write s n path (indent ++ s.gap) item with
          | some u => return some (quoted name ++ (if s.gap.isEmpty then txt ":" else txt ": ") ++ u)
          | none => return none
        return some (bracketed "\x7b" "\x7d" s.gap indent parts)

/-- The text of a value, if it has one. -/
def textOf (s : Style) (v : Value) : M (Option Units) := do
  let holder ← newPlain (.proto .object) .plain
  create holder (.name #[]) v
  write s 10000 [] #[] (← prepared s (.object holder) (.name #[]) v)

def plainStyle : Style := ⟨none, none, #[]⟩

/-- The names that a list of values stands for. -/
def namesIn (v : Value) : M (List Units) := do
  let names ← (List.range (← lengthOf v)).filterMapM fun i => do
    match ← getIndex v (.ofNat i) with
    | .text u => return some u
    | .number x => return some (numberText x)
    | .object r =>
      match ← kindOf r with
      | .text _ | .number _ => return some (← toText (.object r))
      | _ => return none
    | _ => return none
  return names.eraseDups

def gapOf (v : Value) : M Units := do
  let v ← match v with
    | .object r =>
      match ← kindOf r with
      | .number _ => pure (Value.number (← toNumber v))
      | .text _ => pure (.text (← toText v))
      | _ => pure v
    | v => pure v
  match v with
  | .number _ => return Units.rep (txt " ") (← toClamped v 10 0) #[]
  | .text u => return u.extract 0 10
  | _ => return #[]

def stringify (c : Call) : M Value := do
  let replacer ← if ← isCallable (c.arg 1) then pure (some (c.arg 1)) else pure none
  let names ← if replacer.isNone && (← Arrays.isArray (c.arg 1)) then do pure (some (← namesIn (c.arg 1))) else pure none
  match ← textOf ⟨replacer, names, ← gapOf (c.arg 2)⟩ (c.arg 0) with
  | some u => text u
  | none => undefined

def malformed {α : Type} : M α := fail .syntaxKind "invalid JSON text"

def unit (u : Units) (i : Nat) : Char := Units.charOf ((u.getD i 0).toNat)

def skipBlanks (u : Units) : Nat → Nat → Nat
  | 0, i => i
  | n + 1, i =>
    match u[i]? with
    | some w => if w == 32 || (9 ≤ w && w ≤ 13 && w != 11 && w != 12) then skipBlanks u n (i + 1) else i
    | none => i

/-- Four hexadecimal digits. -/
def hexAt? (u : Units) (i : Nat) : Option Nat :=
  if i + 4 ≤ u.size then Decimal.ofBase? 16 ((u.extract i (i + 4)).toList.map fun w => Units.charOf w.toNat) else none

/-- The rest of a text in quotation marks, and the place behind it. -/
def readText (u : Units) : Nat → Nat → Units → Option (Units × Nat)
  | 0, _, _ => none
  | n + 1, i, acc =>
    match u[i]? with
    | none => none
    | some 34 => some (acc, i + 1)
    | some 92 =>
      match unit u (i + 1) with
      | '"' => readText u n (i + 2) (acc.push 34)
      | '\\' => readText u n (i + 2) (acc.push 92)
      | '/' => readText u n (i + 2) (acc.push 47)
      | 'b' => readText u n (i + 2) (acc.push 8)
      | 'f' => readText u n (i + 2) (acc.push 12)
      | 'n' => readText u n (i + 2) (acc.push 10)
      | 'r' => readText u n (i + 2) (acc.push 13)
      | 't' => readText u n (i + 2) (acc.push 9)
      | 'u' => (hexAt? u (i + 2)).bind fun w => readText u n (i + 6) (acc.push w.toUInt16)
      | _ => none
    | some w => if w < 32 then none else readText u n (i + 1) (acc.push w)

/-- A number, and the place behind it. -/
def readNumber (u : Units) (i : Nat) : Option (Float × Nat) := do
  let cs := (u.extract i (i + 400)).toList.map fun w => Units.charOf w.toNat
  let (negative, rest) := match cs with
    | '-' :: rest => (true, rest)
    | cs => (false, cs)
  let (whole, rest) := Decimal.spanDigits rest
  guard (!whole.isEmpty && (whole.length == 1 || whole.head? != some '0'))
  let (fraction, rest) ← match rest with
    | '.' :: rest => do
      let (ds, rest) := Decimal.spanDigits rest
      guard (!ds.isEmpty)
      pure (ds, rest)
    | rest => pure ([], rest)
  let (exponent, rest) ← match rest with
    | e :: rest =>
      if e == 'e' || e == 'E' then do
        let (sign, rest) := match rest with
          | '-' :: rest => (['-'], rest)
          | '+' :: rest => ([], rest)
          | rest => ([], rest)
        let (ds, rest) := Decimal.spanDigits rest
        let n ← Decimal.signedOfBase? 10 (sign ++ ds)
        pure (n, rest)
      else pure (0, e :: rest)
    | [] => pure (0, [])
  let x := Decimal.nearest whole fraction exponent
  return (if negative then -x else x, i + (cs.length - rest.length))

mutual

def readValue (u : Units) : Nat → Nat → M (Value × Nat)
  | 0, _ => malformed
  | n + 1, i => do
    poll
    let i := skipBlanks u u.size i
    match unit u i with
    | '"' =>
      match readText u (u.size + 1) (i + 1) #[] with
      | some (t, j) => return (.text t, j)
      | none => malformed
    | '[' =>
      let j := skipBlanks u u.size (i + 1)
      if unit u j == ']' then return (← newList [], j + 1) else readItems u n j #[]
    | '\x7b' =>
      let r ← newPlain (.proto .object) .plain
      let j := skipBlanks u u.size (i + 1)
      if unit u j == '\x7d' then return (.object r, j + 1) else readFields u n j r
    | 't' => if u.standsAt (txt "true") i then return (.bool true, i + 4) else malformed
    | 'f' => if u.standsAt (txt "false") i then return (.bool false, i + 5) else malformed
    | 'n' => if u.standsAt (txt "null") i then return (.null, i + 4) else malformed
    | _ =>
      match readNumber u i with
      | some (x, j) => return (.number x, j)
      | none => malformed

def readItems (u : Units) : Nat → Nat → Array Value → M (Value × Nat)
  | 0, _, _ => malformed
  | n + 1, i, acc => do
    let (v, j) ← readValue u n i
    let j := skipBlanks u u.size j
    match unit u j with
    | ',' => readItems u n (j + 1) (acc.push v)
    | ']' => return (← newArray (acc.push v), j + 1)
    | _ => malformed

def readFields (u : Units) : Nat → Nat → Nat → M (Value × Nat)
  | 0, _, _ => malformed
  | n + 1, i, r => do
    let i := skipBlanks u u.size i
    if unit u i != '"' then malformed
    match readText u (u.size + 1) (i + 1) #[] with
    | none => malformed
    | some (k, j) =>
      let j := skipBlanks u u.size j
      if unit u j != ':' then malformed
      let (v, j) ← readValue u n (j + 1)
      create r (.name k) v
      let j := skipBlanks u u.size j
      match unit u j with
      | ',' => readFields u n (j + 1) r
      | '\x7d' => return (.object r, j + 1)
      | _ => malformed

end

/-- Asks a function what to put in place of each value, innermost first. -/
def revived (f : Value) : Nat → Value → Key → M Value
  | 0, _, _ => rangeError "Maximum call stack size exceeded"
  | n + 1, holder, k => do
    let v ← getMember holder k
    match v with
    | .object r =>
      let keys ←
        if ← Arrays.isArray v then pure ((List.range (← lengthOf v)).map Key.ofIndex)
        else pure ((← Objects.shownNames r).map Key.name)
      for key in keys do
        match ← revived f n v key with
        | .undefined =>
          let _ ← deleteKey r key
        | new =>
          let _ ← define r key (.shown new)
    | _ => pure ()
    call f holder [k.toValue, v]

def parse (c : Call) : M Value := do
  let u ← toText (c.arg 0)
  let (v, i) ← readValue u (u.size + 2) 0
  if skipBlanks u u.size i != u.size then malformed
  if ← isCallable (c.arg 1) then
    let holder ← newPlain (.proto .object) .plain
    create holder (.name #[]) v
    revived (c.arg 1) 10000 (.object holder) (.name #[])
  else return v

def rows : List Native :=
  [.method (.fixture .json) "parse" 2 parse, .method (.fixture .json) "stringify" 3 stringify]

end ApiStencil.Script.Library.Notation
