/-!
UTF-8 as lists of bytes. `scan` reads one item after another: a character, or a malformed sequence of
the longest extent that could still have become one.
-/
set_option autoImplicit false

namespace ApiStencil

abbrev Bytes := List UInt8

namespace Utf8

def encode (s : String) : Bytes :=
  s.toList.flatMap String.utf8EncodeChar

def isTail (b : UInt8) : Bool :=
  0x80 ≤ b && b ≤ 0xbf

/-- Bounds of the second byte behind a leading byte of a sequence of three or four. -/
def secondBounds (lead : UInt8) : UInt8 × UInt8 :=
  if lead == 0xe0 then (0xa0, 0xbf)
  else if lead == 0xed then (0x80, 0x9f)
  else if lead == 0xf0 then (0x90, 0xbf)
  else if lead == 0xf4 then (0x80, 0x8f)
  else (0x80, 0xbf)

def low6 (b : UInt8) : Nat := b.toNat % 64

/-- The first item of a non-empty list of bytes, and the number of bytes that it takes after the
first. `none` is a malformed sequence. -/
def item (lead : UInt8) (rest : Bytes) : Option Char × Nat :=
  if lead < 0x80 then (some (Char.ofNat lead.toNat), 0)
  else if lead < 0xc2 || 0xf4 < lead then (none, 0)
  else if lead < 0xe0 then
    match rest with
    | b :: _ => if isTail b then (some (Char.ofNat (lead.toNat % 32 * 64 + low6 b)), 1) else (none, 0)
    | [] => (none, 0)
  else
    let (lo, hi) := secondBounds lead
    match rest with
    | [] => (none, 0)
    | b :: rest =>
      if !(lo ≤ b && b ≤ hi) then (none, 0)
      else match rest with
        | [] => (none, 1)
        | c :: rest =>
          if !isTail c then (none, 1)
          else if lead < 0xf0 then
            (some (Char.ofNat (lead.toNat % 16 * 4096 + low6 b * 64 + low6 c)), 2)
          else match rest with
            | [] => (none, 2)
            | d :: _ =>
              if !isTail d then (none, 2)
              else
                (some (Char.ofNat (lead.toNat % 8 * 262144 + low6 b * 4096 + low6 c * 64 + low6 d)), 3)

def scan (bs : Bytes) : List (Option Char × Bytes) :=
  go bs.length bs
where
  go : Nat → Bytes → List (Option Char × Bytes)
    | 0, _ => []
    | _ + 1, [] => []
    | fuel + 1, b :: rest =>
      let (c, n) := item b rest
      (c, b :: rest.take n) :: go fuel (rest.drop n)

/-- The text, if every item is a character. -/
def decode? (bs : Bytes) : Option String :=
  ((scan bs).mapM (fun (item : Option Char × Bytes) => item.1)).map String.ofList

/-- The text with a replacement character for each malformed sequence. -/
def lossy (bs : Bytes) : String :=
  String.ofList ((scan bs).map fun (item : Option Char × Bytes) => item.1.getD '\ufffd')

end Utf8
end ApiStencil
