import ApiStencil.Script.Library.Collections
import ApiStencil.Script.Library.Dates
import ApiStencil.Script.Library.Errors
import ApiStencil.Script.Library.Globals
import ApiStencil.Script.Library.Mathematics
import ApiStencil.Script.Library.Numbers
import ApiStencil.Script.Library.Patterns
import ApiStencil.Script.Library.Promises
import ApiStencil.Script.Library.Reflect
import ApiStencil.Script.Library.Symbols
import ApiStencil.Script.Library.Views
/-!
All functions of the library in one table, and the objects that a new script finds.
-/
set_option autoImplicit false

namespace ApiStencil.Script.Library

def found : List Native :=
  Objects.rows ++ Functions.rows ++ Errors.rows ++ Arrays.rows ++ Texts.rows ++ Numbers.rows ++ Symbols.rows ++
    Mathematics.rows ++ Notation.rows ++ Reflect.rows ++ Walks.rows ++ Patterns.rows ++ Dates.rows ++
    Collections.rows ++ Promises.rows ++ Views.rows ++ Globals.rows

def isInner (i : Inner) (n : Native) : Bool :=
  match n.role with
  | .inner j => i == j
  | _ => false

/-- The rows in the order of their numbers; those with a number of their own come first. -/
def table : Array Native :=
  let inner := Inner.all.filterMap fun i => found.find? (isInner i)
  let others := found.filter fun n => !Inner.all.any fun i => isInner i n
  (inner ++ others).toArray

def natives (id : Nat) (c : Call) : M Value :=
  match table[id]? with
  | some n => n.run c
  | none => M.undefined

/-- What an object of the library inherits from. -/
def protoOf : Intrinsic → Option Nat
  | .proto .object => none
  | .proto (.error .error) => some (Intrinsic.proto .object).ref
  | .proto (.error _) => some (Intrinsic.proto (.error .error)).ref
  | .proto (.view _) => some (Intrinsic.proto .anyView).ref
  | .proto _ => some (Intrinsic.proto .object).ref
  | .maker (.error .error) => some (Intrinsic.proto .function).ref
  | .maker (.error _) => some (Intrinsic.maker (.error .error)).ref
  | .maker (.view _) => some (Intrinsic.maker .anyView).ref
  | .maker _ => some (Intrinsic.proto .function).ref
  | .fixture f =>
    match f with
    | .arrayWalk | .mapWalk | .setWalk | .textWalk | .regexWalk | .helperWalk | .wrappedWalk | .generator =>
      some (Intrinsic.proto .iterator).ref
    | .generatorFunction | .asyncFunction | .asyncGeneratorFunction => some (Intrinsic.proto .function).ref
    | .asyncGenerator => some (Intrinsic.fixture .asyncIterator).ref
    | .slots => some (Intrinsic.proto .array).ref
    | _ => some (Intrinsic.proto .object).ref

def fixed (v : Value) : Slot := .data v false false false

def readOnly (v : Value) : Slot := .data v false false true

def ref (i : Intrinsic) : Value := .object i.ref

def tagged (i : Intrinsic) (tag : String) : Intrinsic × Key × Slot :=
  (i, KnownSymbol.toStringTag.key, readOnly (.ofString tag))

def number (i : Intrinsic) (name : String) (x : Float) : Intrinsic × Key × Slot := (i, .ofString name, fixed (.number x))

def concealed (i : Intrinsic) (name : String) (v : Value) : Intrinsic × Key × Slot := (i, .ofString name, M.concealed v)

/-- Properties that are values. -/
def constants : List (Intrinsic × Key × Slot) :=
  let global := Intrinsic.fixture .global
  let pairs := Family.all.flatMap fun f =>
    let made := [concealed (.proto f) "constructor" (ref (.maker f))]
    let named := if f == .anyView then [] else [concealed global f.name (ref (.maker f))]
    if f == .proxy then named
    else made ++ [(Intrinsic.maker f, Key.ofString "prototype", fixed (ref (.proto f)))] ++ named
  let errors := ErrorKind.all.flatMap fun k =>
    [concealed (.proto (.error k)) "name" (.ofString k.name), concealed (.proto (.error k)) "message" (.ofString "")]
  let symbols := KnownSymbol.all.map fun s => (Intrinsic.maker .symbol, Key.ofString s.name, fixed (.symbol s.id))
  let widths := ViewType.all.flatMap fun t =>
    [number (.maker (.view t)) "BYTES_PER_ELEMENT" (Float.ofNat t.width),
      number (.proto (.view t)) "BYTES_PER_ELEMENT" (Float.ofNat t.width)]
  let walks := [Fixture.arrayWalk, .mapWalk, .setWalk, .textWalk, .regexWalk, .helperWalk, .wrappedWalk].map fun f =>
    (Intrinsic.fixture f, Key.ofString "next", Slot.builtin Inner.walkNext.id (txt "next") 0 false)
  let limits := [("MAX_VALUE", Float.ofBits 0x7fefffffffffffff), ("MIN_VALUE", Float.ofBits 1),
    ("NaN", 0.0 / 0.0), ("NEGATIVE_INFINITY", -1.0 / 0.0), ("POSITIVE_INFINITY", 1.0 / 0.0),
    ("EPSILON", Float.ofBits 0x3cb0000000000000), ("MAX_SAFE_INTEGER", 9007199254740991.0),
    ("MIN_SAFE_INTEGER", -9007199254740991.0)].map fun (n, x) => number (.maker .number) n x
  let math := [("E", 2.718281828459045), ("LN10", 2.302585092994046), ("LN2", 0.6931471805599453),
    ("LOG2E", 1.4426950408889634), ("LOG10E", 0.4342944819032518), ("PI", 3.141592653589793),
    ("SQRT1_2", 0.7071067811865476), ("SQRT2", 1.4142135623730951)].map fun (n, x) => number (.fixture .math) n x
  let tags := [tagged global "global", tagged (.fixture .math) "Math", tagged (.fixture .json) "JSON",
    tagged (.fixture .reflect) "Reflect", tagged (.fixture .arrayWalk) "Array Iterator",
    tagged (.fixture .mapWalk) "Map Iterator", tagged (.fixture .setWalk) "Set Iterator",
    tagged (.fixture .textWalk) "String Iterator", tagged (.fixture .regexWalk) "RegExp String Iterator",
    tagged (.fixture .helperWalk) "Iterator Helper", tagged (.fixture .generator) "Generator",
    tagged (.fixture .generatorFunction) "GeneratorFunction", tagged (.fixture .asyncFunction) "AsyncFunction",
    tagged (.fixture .asyncGenerator) "AsyncGenerator",
    tagged (.fixture .asyncGeneratorFunction) "AsyncGeneratorFunction", tagged (.proto .iterator) "Iterator",
    tagged (.proto .symbol) "Symbol", tagged (.proto .bigint) "BigInt", tagged (.proto .map) "Map",
    tagged (.proto .set) "Set", tagged (.proto .weakMap) "WeakMap", tagged (.proto .weakSet) "WeakSet",
    tagged (.proto .weakRef) "WeakRef", tagged (.proto .promise) "Promise", tagged (.proto .buffer) "ArrayBuffer",
    tagged (.proto .dataView) "DataView"]
  pairs ++ errors ++ symbols ++ widths ++ walks ++ limits ++ math ++ tags ++
    (M.functionSlots 0 #[]).toList.map (fun (k, s) => (Intrinsic.proto .function, k, s)) ++
    [(.fixture .generatorFunction, .ofString "prototype", readOnly (ref (.fixture .generator))),
      (.fixture .generator, .ofString "constructor", readOnly (ref (.fixture .generatorFunction))),
      (.fixture .asyncGeneratorFunction, .ofString "prototype", readOnly (ref (.fixture .asyncGenerator))),
      (.fixture .asyncGenerator, .ofString "constructor", readOnly (ref (.fixture .asyncGeneratorFunction))),
      (global, .ofString "eval", .builtin Inner.evaluate.id (txt "eval") 1 false),
      (global, .ofString "Math", M.concealed (ref (.fixture .math))),
      (global, .ofString "JSON", M.concealed (ref (.fixture .json))),
      (global, .ofString "Reflect", M.concealed (ref (.fixture .reflect))),
      (global, .ofString "globalThis", M.concealed (ref global)), (global, .ofString "undefined", fixed .undefined),
      number global "NaN" (0.0 / 0.0), number global "Infinity" (1.0 / 0.0),
      (global, .ofString "console", M.shown (ref (.fixture .console))),
      (global, Obj.tableKey, M.shown (ref (.fixture .slots)))]

/-- The kind of an object of the library; makers are known by their rows. -/
def kindOf : Intrinsic → Kind
  | .proto .function => .native Inner.nothing.id []
  | .proto .array | .fixture .slots => .array #[]
  | .proto .text => .text #[]
  | .proto .number => .number 0.0
  | .proto .bool => .bool false
  | _ => .plain

/-- The property, or the object itself, that a row stands for. -/
def place (objects : Array Obj) (n : Native) (id : Nat) : Array Obj :=
  let add := fun (s : Slot) => objects.modify n.home.ref fun o => { o with slots := o.slots.push (n.key, s) }
  match n.role with
  | .method => add (.builtin id n.name n.arity false)
  | .listed => add (.builtin id n.name n.arity true)
  | .getter => add (.builtinPair id none n.name)
  | .setter =>
    objects.modify n.home.ref fun o =>
      { o with slots := o.slots.map fun (k, s) => match s with
        | .builtinPair g none name => if k == n.key then (k, .builtinPair g (some id) name) else (k, s)
        | s => (k, s) }
  | .maker =>
    objects.modify n.home.ref fun o =>
      { o with kind := .native id [], slots := M.functionSlots n.arity n.name ++ o.slots }
  | .inner _ => objects

/-- The objects that a new script finds, in the order of their numbers. -/
def objects : Array Obj :=
  let bare := (Intrinsic.all.map fun i => Obj.mk (protoOf i) true (kindOf i) #[]).toArray
  let withRows := table.toList.zipIdx.foldl (fun os (n, id) => place os n id) bare
  constants.foldl (fun os (i, k, s) => os.modify i.ref fun o => { o with slots := o.slots.push (k, s) }) withRows

end ApiStencil.Script.Library
