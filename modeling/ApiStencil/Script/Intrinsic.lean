/-!
Objects that every script finds: what values of each kind inherit from, the functions that make them,
and the global object. Each has its number in the store once and for all.
-/
set_option autoImplicit false

namespace ApiStencil.Script

inductive ViewType where
  | int8
  | uint8
  | uint8Clamped
  | int16
  | uint16
  | int32
  | uint32
  | bigInt64
  | bigUint64
  | float32
  | float64
  deriving DecidableEq

namespace ViewType

def all : List ViewType :=
  [.int8, .uint8, .uint8Clamped, .int16, .uint16, .int32, .uint32, .bigInt64, .bigUint64, .float32, .float64]

def name : ViewType → String
  | .int8 => "Int8Array"
  | .uint8 => "Uint8Array"
  | .uint8Clamped => "Uint8ClampedArray"
  | .int16 => "Int16Array"
  | .uint16 => "Uint16Array"
  | .int32 => "Int32Array"
  | .uint32 => "Uint32Array"
  | .bigInt64 => "BigInt64Array"
  | .bigUint64 => "BigUint64Array"
  | .float32 => "Float32Array"
  | .float64 => "Float64Array"

def width : ViewType → Nat
  | .int8 | .uint8 | .uint8Clamped => 1
  | .int16 | .uint16 => 2
  | .int32 | .uint32 | .float32 => 4
  | .bigInt64 | .bigUint64 | .float64 => 8

end ViewType

/-- The kinds of errors. -/
inductive ErrorKind where
  | error
  | type
  | range
  | syntaxKind
  | reference
  | eval
  | uri
  | internal
  | aggregate
  deriving DecidableEq

namespace ErrorKind

def all : List ErrorKind := [.error, .type, .range, .syntaxKind, .reference, .eval, .uri, .internal, .aggregate]

def name : ErrorKind → String
  | .error => "Error"
  | .type => "TypeError"
  | .range => "RangeError"
  | .syntaxKind => "SyntaxError"
  | .reference => "ReferenceError"
  | .eval => "EvalError"
  | .uri => "URIError"
  | .internal => "InternalError"
  | .aggregate => "AggregateError"

end ErrorKind

/-- The families of values that have a maker and an object that their members inherit from. -/
inductive Family where
  | object
  | function
  | array
  | text
  | number
  | bool
  | symbol
  | bigint
  | error (kind : ErrorKind)
  | iterator
  | date
  | regex
  | map
  | set
  | weakMap
  | weakSet
  | weakRef
  | promise
  | proxy
  | buffer
  | dataView
  | anyView
  | view (type : ViewType)
  deriving DecidableEq

namespace Family

def all : List Family :=
  [.object, .function, .array, .text, .number, .bool, .symbol, .bigint] ++ ErrorKind.all.map .error ++
    [.iterator, .date, .regex, .map, .set, .weakMap, .weakSet, .weakRef, .promise, .proxy, .buffer, .dataView,
      .anyView] ++ ViewType.all.map .view

def name : Family → String
  | .object => "Object"
  | .function => "Function"
  | .array => "Array"
  | .text => "String"
  | .number => "Number"
  | .bool => "Boolean"
  | .symbol => "Symbol"
  | .bigint => "BigInt"
  | .error k => k.name
  | .iterator => "Iterator"
  | .date => "Date"
  | .regex => "RegExp"
  | .map => "Map"
  | .set => "Set"
  | .weakMap => "WeakMap"
  | .weakSet => "WeakSet"
  | .weakRef => "WeakRef"
  | .promise => "Promise"
  | .proxy => "Proxy"
  | .buffer => "ArrayBuffer"
  | .dataView => "DataView"
  | .anyView => "TypedArray"
  | .view t => t.name

/-- The place of a family in `all`. -/
def index : Family → Nat
  | .object => 0
  | .function => 1
  | .array => 2
  | .text => 3
  | .number => 4
  | .bool => 5
  | .symbol => 6
  | .bigint => 7
  | .error k => 8 + k.ctorIdx
  | .iterator => 17
  | .date => 18
  | .regex => 19
  | .map => 20
  | .set => 21
  | .weakMap => 22
  | .weakSet => 23
  | .weakRef => 24
  | .promise => 25
  | .proxy => 26
  | .buffer => 27
  | .dataView => 28
  | .anyView => 29
  | .view t => 30 + t.ctorIdx

end Family

/-- Objects without a maker of their own. -/
inductive Fixture where
  | global
  | math
  | json
  | reflect
  | arrayWalk
  | mapWalk
  | setWalk
  | textWalk
  | regexWalk
  | helperWalk
  | wrappedWalk
  | generator
  | generatorFunction
  | asyncFunction
  | asyncGenerator
  | asyncGeneratorFunction
  | asyncIterator
  | console
  | slots
  deriving DecidableEq

def Fixture.all : List Fixture :=
  [.global, .math, .json, .reflect, .arrayWalk, .mapWalk, .setWalk, .textWalk, .regexWalk, .helperWalk,
    .wrappedWalk, .generator, .generatorFunction, .asyncFunction, .asyncGenerator, .asyncGeneratorFunction,
    .asyncIterator, .console, .slots]

inductive Intrinsic where
  /-- What the members of a family inherit from. -/
  | proto (f : Family)
  | maker (f : Family)
  | fixture (f : Fixture)
  deriving DecidableEq

namespace Intrinsic

def ref : Intrinsic → Nat
  | .proto f => 2 * f.index
  | .maker f => 2 * f.index + 1
  | .fixture f => 82 + f.ctorIdx

/-- All of them, in the order of their numbers. -/
def all : List Intrinsic :=
  Family.all.flatMap (fun f => [.proto f, .maker f]) ++ Fixture.all.map .fixture

theorem all_refs : all.map ref = List.range all.length := by decide

end Intrinsic

/-- Functions of the library that others make or look for. -/
inductive Inner where
  | walkNext
  | evaluate
  | nothing
  | fulfill
  | reject
  | revoke
  deriving DecidableEq

namespace Inner

def all : List Inner := [.walkNext, .evaluate, .nothing, .fulfill, .reject, .revoke]

/-- The number of its row. -/
def id (i : Inner) : Nat := i.ctorIdx

end Inner

/-- Symbols with a meaning for the language. -/
inductive KnownSymbol where
  | iterator
  | asyncIterator
  | hasInstance
  | toPrimitive
  | toStringTag
  | species
  | isConcatSpreadable
  | unscopables
  | «match»
  | matchAll
  | replace
  | search
  | split
  deriving DecidableEq

namespace KnownSymbol

def all : List KnownSymbol :=
  [.iterator, .asyncIterator, .hasInstance, .toPrimitive, .toStringTag, .species, .isConcatSpreadable,
    .unscopables, .match, .matchAll, .replace, .search, .split]

def name : KnownSymbol → String
  | .iterator => "iterator"
  | .asyncIterator => "asyncIterator"
  | .hasInstance => "hasInstance"
  | .toPrimitive => "toPrimitive"
  | .toStringTag => "toStringTag"
  | .species => "species"
  | .isConcatSpreadable => "isConcatSpreadable"
  | .unscopables => "unscopables"
  | .match => "match"
  | .matchAll => "matchAll"
  | .replace => "replace"
  | .search => "search"
  | .split => "split"

def id (s : KnownSymbol) : Nat := s.ctorIdx

end KnownSymbol
end ApiStencil.Script
