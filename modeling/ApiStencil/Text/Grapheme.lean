import ApiStencil.Text.Class
/-!
Extended grapheme clusters: what a reader takes for one character. Break rules are those of the
standard's default segmentation.
-/
set_option autoImplicit false

namespace ApiStencil.Text

inductive ClusterClass where
  | cr | lf | control | extend | joiner | regional | pre | spacing
  | leading | vowel | trailing | syllableLV | syllableLVT | picture | other
  deriving DecidableEq

def clusterClass (c : Char) : ClusterClass :=
  let n := c.toNat
  if c == '\r' then .cr
  else if c == '\n' then .lf
  else if n < 32 || (127 ≤ n && n < 160) then .control
  else if n < 128 then .other
  else if n == 0x200d then .joiner
  else if Span.member Table.graphemeExtend c then .extend
  else if Span.member Table.graphemeControl c then .control
  else if 0x1f1e6 ≤ n && n ≤ 0x1f1ff then .regional
  else if Span.member Table.graphemePrepend c then .pre
  else if Span.member Table.spacingMark c then .spacing
  else if (0x1100 ≤ n && n ≤ 0x115f) || (0xa960 ≤ n && n ≤ 0xa97c) then .leading
  else if (0x1160 ≤ n && n ≤ 0x11a7) || (0xd7b0 ≤ n && n ≤ 0xd7c6) then .vowel
  else if (0x11a8 ≤ n && n ≤ 0x11ff) || (0xd7cb ≤ n && n ≤ 0xd7fb) then .trailing
  else if 0xac00 ≤ n && n ≤ 0xd7a3 then
    if (n - 0xac00) % 28 == 0 then .syllableLV else .syllableLVT
  else if Span.member Table.pictographic c then .picture
  else .other

/-- What the rules need to know of the characters before a possible break. -/
structure ClusterState where
  last : ClusterClass
  /-- The cluster so far is a picture followed by extenders. -/
  picture : Bool
  /-- The cluster so far ends in a picture, extenders and a joiner. -/
  joined : Bool
  /-- Number of regional indicators that end the cluster so far. -/
  regionals : Nat

def ClusterState.start (c : ClusterClass) : ClusterState :=
  { last := c, picture := c == .picture, joined := false, regionals := if c == .regional then 1 else 0 }

def ClusterState.push (s : ClusterState) (c : ClusterClass) : ClusterState :=
  { last := c
    picture := c == .picture || (s.picture && c == .extend)
    joined := s.picture && c == .joiner
    regionals := if c == .regional then s.regionals + 1 else 0 }

def ClusterState.continues (s : ClusterState) (c : ClusterClass) : Bool :=
  match s.last, c with
  | .cr, .lf => true
  | .cr, _ | .lf, _ | .control, _ => false
  | _, .cr | _, .lf | _, .control => false
  | _, .extend | _, .joiner | _, .spacing => true
  | .pre, _ => true
  | .leading, .leading | .leading, .vowel | .leading, .syllableLV | .leading, .syllableLVT => true
  | .syllableLV, .vowel | .syllableLV, .trailing | .vowel, .vowel | .vowel, .trailing => true
  | .syllableLVT, .trailing | .trailing, .trailing => true
  | .joiner, .picture => s.joined
  | .regional, .regional => s.regionals % 2 == 1
  | _, _ => false

/-- The clusters of a text; `open_` is the cluster being read, last character first. -/
def clustersFrom (state : ClusterState) (open_ : List Char) : List Char → List (List Char)
  | [] => [open_.reverse]
  | c :: rest =>
    let cls := clusterClass c
    if state.continues cls then clustersFrom (state.push cls) (c :: open_) rest
    else open_.reverse :: clustersFrom (.start cls) [c] rest

def clusters : List Char → List (List Char)
  | [] => []
  | c :: rest => clustersFrom (.start (clusterClass c)) [c] rest

end ApiStencil.Text
