import ApiStencil.Script.Library.Native
/-!
Points in time, in milliseconds since the start of 1970. Local time is universal time.
-/
set_option autoImplicit false

namespace ApiStencil.Script.Library.Dates
open M

def proto : Intrinsic := .proto .date

def maker : Intrinsic := .maker .date

def msPerDay : Int := 86400000

/-- Days since the start of 1970 of a day in the calendar; `month` counts from zero and may be any
integer. -/
def dayNumber (year month day : Int) : Int :=
  let y := year + month / 12
  let m := month % 12
  let shifted := if m < 2 then y - 1 else y
  let era := shifted / 400
  let yearOfEra := shifted % 400
  let dayOfYear := (153 * ((m + 10) % 12) + 2) / 5
  era * 146097 + yearOfEra * 365 + yearOfEra / 4 - yearOfEra / 100 + dayOfYear - 719468 + (day - 1)

structure Fields where
  year : Int
  month : Int
  day : Int
  hour : Int
  minute : Int
  second : Int
  milli : Int
  weekday : Int

/-- The calendar's view of a time. -/
def fieldsOf (t : Int) : Fields :=
  let days := t / msPerDay
  let ms := t % msPerDay
  let z := days + 719468
  let era := z / 146097
  let dayOfEra := z % 146097
  let yearOfEra := (dayOfEra - dayOfEra / 1460 + dayOfEra / 36524 - dayOfEra / 146096) / 365
  let dayOfYear := dayOfEra - (365 * yearOfEra + yearOfEra / 4 - yearOfEra / 100)
  let mp := (5 * dayOfYear + 2) / 153
  let day := dayOfYear - (153 * mp + 2) / 5 + 1
  let month := if mp < 10 then mp + 2 else mp - 10
  let year := yearOfEra + era * 400 + (if month < 2 then 1 else 0)
  ⟨year, month, day, ms / 3600000, ms / 60000 % 60, ms / 1000 % 60, ms % 1000, (days + 4) % 7⟩

/-- A time, or no number where it is out of range. -/
def clipped (t : Int) : Float := if t.natAbs ≤ 8640000000000000 then Float.ofInt t else 0.0 / 0.0

def timeOf (f : Fields) : Int :=
  dayNumber f.year f.month f.day * msPerDay + f.hour * 3600000 + f.minute * 60000 + f.second * 1000 + f.milli

def monthNames : List String :=
  ["Jan", "Feb", "Mar", "Apr", "May", "Jun", "Jul", "Aug", "Sep", "Oct", "Nov", "Dec"]

def dayNames : List String := ["Sun", "Mon", "Tue", "Wed", "Thu", "Fri", "Sat"]

def padded (width : Nat) (n : Int) : String :=
  let ds := toString n.natAbs
  String.ofList (List.replicate (width - ds.length) '0') ++ ds

def yearText (y : Int) : String := if y < 0 then "-" ++ padded 4 y else padded 4 y

def isoText (f : Fields) : String :=
  let year :=
    if f.year < 0 then "-" ++ padded 6 f.year else if f.year > 9999 then "+" ++ padded 6 f.year else padded 4 f.year
  s!"{year}-{padded 2 (f.month + 1)}-{padded 2 f.day}T{padded 2 f.hour}:{padded 2 f.minute}:{padded 2 f.second}." ++
    padded 3 f.milli ++ "Z"

def dayName (f : Fields) : String := dayNames.getD f.weekday.toNat ""

def monthName (f : Fields) : String := monthNames.getD f.month.toNat ""

def dateText (f : Fields) : String :=
  s!"{dayName f} {monthName f} {padded 2 f.day} {yearText f.year}"

def clockText (f : Fields) : String := s!"{padded 2 f.hour}:{padded 2 f.minute}:{padded 2 f.second}"

def timeText (f : Fields) : String := clockText f ++ " GMT+0000"

def localDate (f : Fields) : String := s!"{padded 2 (f.month + 1)}/{padded 2 f.day}/{yearText f.year}"

def localTime (f : Fields) : String :=
  let hour := if f.hour % 12 == 0 then 12 else f.hour % 12
  s!"{padded 2 hour}:{padded 2 f.minute}:{padded 2 f.second} " ++ (if f.hour < 12 then "AM" else "PM")

/-- Digits of a given number, as a number. -/
def digits? (n : Nat) (cs : List Char) : Option (Int × List Char) :=
  if cs.length < n || !(cs.take n).all Char.isDigit then none
  else some (Decimal.naturalOf (cs.take n), cs.drop n)

def mark? (c : Char) (cs : List Char) : Option (List Char) :=
  match cs with
  | d :: rest => if d == c then some rest else none
  | [] => none

/-- The distance from universal time, in minutes. -/
def zone? (cs : List Char) : Option Int :=
  match cs with
  | [] => some 0
  | ['Z'] | ['z'] => some 0
  | sign :: rest => do
    guard (sign == '+' || sign == '-')
    let (h, rest) ← digits? 2 rest
    let rest := (mark? ':' rest).getD rest
    let (m, rest) ← digits? 2 rest
    guard rest.isEmpty
    return (if sign == '-' then -1 else 1) * (60 * h + m)

def isoYear? (cs : List Char) : Option (Int × List Char) :=
  match cs with
  | '+' :: rest => digits? 6 rest
  | '-' :: rest => (digits? 6 rest).map fun (y, rest) => (-y, rest)
  | cs => digits? 4 cs

/-- A time of day with its zone, in milliseconds. -/
def clock? (cs : List Char) : Option Int := do
  let (h, rest) ← digits? 2 cs
  let (m, rest) ← digits? 2 (← mark? ':' rest)
  let (s, rest) ← match mark? ':' rest with
    | some rest => digits? 2 rest
    | none => some (0, rest)
  let (ms, rest) ← match (mark? '.' rest) <|> (mark? ',' rest) with
    | some rest =>
      let ds := rest.takeWhile Char.isDigit
      if ds.isEmpty then none
      else some ((Decimal.naturalOf ((ds ++ ['0', '0', '0']).take 3) : Int), rest.drop ds.length)
    | none => some (0, rest)
  let zone ← zone? rest
  guard (h ≤ 24 && m < 60 && s < 60)
  return h * 3600000 + m * 60000 + s * 1000 + ms - zone * 60000

def isoTime? (cs : List Char) : Option Int := do
  let (year, rest) ← isoYear? cs
  let (month, rest) ← match mark? '-' rest with
    | some rest => digits? 2 rest
    | none => some (1, rest)
  let (day, rest) ← match mark? '-' rest with
    | some rest => digits? 2 rest
    | none => some (1, rest)
  guard (1 ≤ month && month ≤ 12 && 1 ≤ day && day ≤ 31)
  let days := dayNumber year (month - 1) day * msPerDay
  match rest with
  | [] => return days
  | c :: rest =>
    guard (c == 'T' || c == 't' || c == ' ')
    return days + (← clock? rest)

/-- Words and numbers of a date written out. -/
def wordsOf (cs : List Char) : List String :=
  (String.ofList (cs.map fun c => if c == ',' || c == '-' || c == '/' then ' ' else c)).splitOn " " |>.filter (· != "")

def monthOf? (s : String) : Option Int :=
  let start := String.ofList ((s.toList.take 3).map Char.toLower)
  ((monthNames.map String.toLower).findIdx? (· == start)).map Int.ofNat

def numberOf? (s : String) : Option Int :=
  if !s.isEmpty && s.toList.all Char.isDigit then some (Decimal.naturalOf s.toList) else none

/-- A date with the name of its month, or with numbers alone, and a time of day behind it. -/
def wordyTime? (cs : List Char) : Option Int := do
  let words := wordsOf cs
  let isClock := fun (w : String) => w.toList.any (· == ':')
  let rest := words.filter fun w => !isClock w
  let clock ← match words.find? isClock with
    | none => some 0
    | some w => (clock? w.toList) <|> (clock? ('0' :: w.toList))
  let afternoon := rest.any fun w => w == "PM" || w == "pm"
  let clock := if afternoon && clock < 43200000 then clock + 43200000 else clock
  let numbers := rest.filterMap numberOf?
  let (month, day, year) ← match rest.findSome? monthOf?, numbers with
    | some m, [d, y] => some (m, d, y)
    | some m, [y] => some (m, 1, y)
    | none, [m, d, y] => if m > 31 then some (d - 1, y, m) else some (m - 1, d, y)
    | _, _ => none
  guard (0 ≤ month && month ≤ 11 && 1 ≤ day && day ≤ 31)
  let year := if year < 50 then year + 2000 else if year < 100 then year + 1900 else year
  return dayNumber year month day * msPerDay + clock

def parsed (u : Units) : Float :=
  let cs := u.trimStart.trimEnd.toText.toList
  match (isoTime? cs) <|> (wordyTime? cs) with
  | some t => clipped t
  | none => 0.0 / 0.0

/-- Whole numbers for all values, if all are finite. -/
def wholes (vs : List Value) : M (Option (List Int)) := do
  let xs ← vs.mapM toNumber
  return if xs.all (fun x => !x.isNaN && !x.isInf) then some (xs.map integerOf) else none

/-- The time of fields given one by one; years of two digits belong to the twentieth century. -/
def composed (args : List Value) : M Float := do
  match ← wholes args with
  | none => return 0.0 / 0.0
  | some ns =>
    let year := ns.getD 0 0
    let year := if 0 ≤ year && year ≤ 99 then year + 1900 else year
    return clipped (timeOf
      ⟨year, ns.getD 1 0, ns.getD 2 1, ns.getD 3 0, ns.getD 4 0, ns.getD 5 0, ns.getD 6 0, 0⟩)

def textOf (t : Float) (f : Fields → String) : Value :=
  if t.isNaN then .ofString "Invalid Date" else .ofString (f (fieldsOf (integerOf t)))

def make (c : Call) : M Value := do
  match c.newTarget with
  | .undefined => return textOf 0.0 fun f => s!"{dateText f} {timeText f}"
  | _ =>
    let t ← match c.args with
      | [] => pure 0.0
      | [v] =>
        match ← kind? v with
        | some (.date t) => pure t
        | _ =>
          match ← toPrimitive v .none with
          | .text u => pure (parsed u)
          | p =>
            let x ← toNumber p
            pure (if x.isNaN || x.isInf then 0.0 / 0.0 else clipped (integerOf x))
      | args => composed args
    return .object (← newInstance c .date (.date t))

def thisTime (c : Call) : M (Nat × Float) := do
  match c.this with
  | .object r =>
    match ← kindOf r with
    | .date t => return (r, t)
    | _ => typeError "not a Date object"
  | _ => typeError "not a Date object"

def part (f : Fields → Int) (c : Call) : M Value := do
  let (_, t) ← thisTime c
  return .number (if t.isNaN then t else Float.ofInt (f (fieldsOf (integerOf t))))

def written (f : Fields → String) (c : Call) : M Value := do
  return textOf (← thisTime c).2 f

/-- Changes some fields of a time, the first `most` of those that `put` knows. -/
def change (most : Nat) (put : Fields → List Int → Fields) (c : Call) : M Value := do
  let (r, t) ← thisTime c
  let vs := if c.args.isEmpty then [Value.undefined] else c.args.take most
  let given ← wholes vs
  if t.isNaN then return .number t
  let new := match given with
    | none => 0.0 / 0.0
    | some ns => clipped (timeOf (put (fieldsOf (integerOf t)) ns))
  setKind r (.date new)
  return .number new

def putMilli (f : Fields) (ns : List Int) : Fields := { f with milli := ns.getD 0 f.milli }

def putSecond (f : Fields) (ns : List Int) : Fields := putMilli { f with second := ns.getD 0 f.second } (ns.drop 1)

def putMinute (f : Fields) (ns : List Int) : Fields := putSecond { f with minute := ns.getD 0 f.minute } (ns.drop 1)

def putHour (f : Fields) (ns : List Int) : Fields := putMinute { f with hour := ns.getD 0 f.hour } (ns.drop 1)

def putDay (f : Fields) (ns : List Int) : Fields := { f with day := ns.getD 0 f.day }

def putMonth (f : Fields) (ns : List Int) : Fields := putDay { f with month := ns.getD 0 f.month } (ns.drop 1)

def putYear (f : Fields) (ns : List Int) : Fields := putMonth { f with year := ns.getD 0 f.year } (ns.drop 1)

/-- Sets the year also where there was no valid time. -/
def setYear (c : Call) : M Value := do
  let (r, t) ← thisTime c
  if t.isNaN then setKind r (.date 0.0)
  change 3 putYear c

def setTime (c : Call) : M Value := do
  let (r, _) ← thisTime c
  let x ← toNumber (c.arg 0)
  let t := if x.isNaN || x.isInf then 0.0 / 0.0 else clipped (integerOf x)
  setKind r (.date t)
  return .number t

def toISOString (c : Call) : M Value := do
  let (_, t) ← thisTime c
  if t.isNaN then rangeError "Date value is NaN"
  return .ofString (isoText (fieldsOf (integerOf t)))

def toJSON (c : Call) : M Value := do
  let o := Value.object (← toObject c.this)
  match ← toPrimitive o .number with
  | .number x => if x.isNaN || x.isInf then return .null else invoke o (.ofString "toISOString") []
  | _ => invoke o (.ofString "toISOString") []

def primitive (c : Call) : M Value := do
  let _ ← needObject c.this
  match c.arg 0 with
  | .text u =>
    match u.toText with
    | "string" | "default" => primitiveBy c.this ["toString", "valueOf"]
    | "number" => primitiveBy c.this ["valueOf", "toString"]
    | _ => typeError "invalid hint"
  | _ => typeError "invalid hint"

/-- A getter of local time and the same of universal time. -/
def both (name : String) (f : Fields → Int) : List Native :=
  [.method proto ("get" ++ name) 0 (part f), .method proto ("getUTC" ++ name) 0 (part f)]

def bothSet (name : String) (most : Nat) (put : Fields → List Int → Fields) : List Native :=
  [.method proto ("set" ++ name) most (change most put), .method proto ("setUTC" ++ name) most (change most put)]

def utcText (f : Fields) : String :=
  s!"{dayName f}, {padded 2 f.day} {monthName f} {yearText f.year} {clockText f} GMT"

def rows : List Native :=
  [.maker .date 7 make, .method maker "now" 0 (fun _ => return .number 0.0),
    .method maker "parse" 1 (fun c => do return .number (parsed (← toText (c.arg 0)))),
    .method maker "UTC" 7 (fun c => do return .number (← composed (if c.args.isEmpty then [.undefined] else c.args))),
    .method proto "valueOf" 0 (fun c => do return .number (← thisTime c).2),
    .method proto "getTime" 0 (fun c => do return .number (← thisTime c).2),
    .method proto "toString" 0 (written fun f => s!"{dateText f} {timeText f}"),
    .symbolMethod proto .toPrimitive 1 primitive, .method proto "toUTCString" 0 (written utcText),
    .method proto "toGMTString" 0 (written utcText), .method proto "toISOString" 0 toISOString,
    .method proto "toDateString" 0 (written dateText), .method proto "toTimeString" 0 (written timeText),
    .method proto "toLocaleString" 0 (written fun f => s!"{localDate f}, {localTime f}"),
    .method proto "toLocaleDateString" 0 (written localDate), .method proto "toLocaleTimeString" 0 (written localTime),
    .method proto "getTimezoneOffset" 0 (part fun _ => 0), .method proto "getYear" 0 (part fun f => f.year - 1900),
    .method proto "setTime" 1 setTime, .method proto "setFullYear" 3 setYear,
    .method proto "setUTCFullYear" 3 setYear, .method proto "toJSON" 1 toJSON] ++
  both "FullYear" (·.year) ++ both "Month" (·.month) ++ both "Date" (·.day) ++ both "Hours" (·.hour) ++
  both "Minutes" (·.minute) ++ both "Seconds" (·.second) ++ both "Milliseconds" (·.milli) ++ both "Day" (·.weekday) ++
  bothSet "Milliseconds" 1 putMilli ++ bothSet "Seconds" 2 putSecond ++ bothSet "Minutes" 3 putMinute ++
  bothSet "Hours" 4 putHour ++ bothSet "Date" 1 putDay ++ bothSet "Month" 2 putMonth

end ApiStencil.Script.Library.Dates
