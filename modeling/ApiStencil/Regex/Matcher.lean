import ApiStencil.Regex.Tree
/-!
Leftmost matching that tries alternatives in order. The matcher of a tree takes what has to follow as
a function, so each construct is one equation.
-/
set_option autoImplicit false

namespace ApiStencil
namespace Regex

/-- A position in the subject and the spans of the groups so far. -/
structure State where
  position : Nat
  groups : Array (Option (Nat × Nat))
  deriving Inhabited

abbrev Matcher := State → (State → Option State) → Option State

def before? (subject : Array Nat) (position : Nat) : Option Nat :=
  if position == 0 then none else subject[position - 1]?

def Place.holds (rules : Rules) (subject : Array Nat) (position : Nat) (p : Place) : Bool :=
  let behind := before? subject position
  let ahead := subject[position]?
  let word := fun x : Option Nat => x.any rules.isWord
  match p with
  | .textStart => behind.isNone
  | .textEnd => ahead.isNone
  | .lineStart => behind.all rules.isLineEnd
  | .lineEnd => ahead.all rules.isLineEnd
  | .wordEdge => word behind != word ahead
  | .notWordEdge => word behind == word ahead
  | .wordStart => !word behind && word ahead
  | .wordEnd => word behind && !word ahead
  | .afterNonWord => !word behind
  | .beforeNonWord => !word ahead

/-- One symbol of a set, read forwards or backwards. -/
def symbol (subject : Array Nat) (backwards : Bool) (test : Nat → Bool) : Matcher := fun s k =>
  if backwards then
    match before? subject s.position with
    | some n => if test n then k { s with position := s.position - 1 } else none
    | none => none
  else
    match subject[s.position]? with
    | some n => if test n then k { s with position := s.position + 1 } else none
    | none => none

/-- Whether the same text as `lo .. lo + n` stands at `position`. -/
def sameText (subject : Array Nat) (fold : Bool) (lo position : Nat) : Nat → Bool
  | 0 => true
  | n + 1 =>
    sameText subject fold lo position n &&
      match subject[lo + n]?, subject[position + n]? with
      | some a, some b => a == b || (fold && (caseVariants a).any (caseVariants b).contains)
      | _, _ => false

/-- The text of a group once more; a group that took no part matches the empty text. -/
def backReference (subject : Array Nat) (backwards fold : Bool) (index : Nat) : Matcher := fun s k =>
  match s.groups.getD index none with
  | none => k s
  | some (lo, hi) =>
    let n := hi - lo
    if backwards then
      if n ≤ s.position && sameText subject fold lo (s.position - n) n then
        k { s with position := s.position - n }
      else none
    else if sameText subject fold lo s.position n then k { s with position := s.position + n }
    else none

/-- Rounds of `step`: at least `least`, at most `most`. -/
def rounds (step : Matcher) (refusesEmpty greedy : Bool) : Nat → Nat → Option Nat → Matcher
  | 0, _, _ => fun s k => k s
  | fuel + 1, least, most => fun s k =>
    if most == some 0 then k s
    else
      let again := fun _ : Unit => step s fun s' =>
        if s'.position == s.position && least == 0 then (if refusesEmpty then none else k s')
        else rounds step refusesEmpty greedy fuel (least - 1) (most.map (· - 1)) s' k
      if least > 0 then again ()
      else if greedy then
        match again () with
        | some r => some r
        | none => k s
      else
        match k s with
        | some r => some r
        | none => again ()

def forget (groups : List Nat) (s : State) : State :=
  { s with groups := groups.foldl (fun gs i => gs.setIfInBounds i none) s.groups }

def Node.matcher (rules : Rules) (subject : Array Nat) : Bool → Node → Matcher
  | _, .empty => fun s k => k s
  | rev, .set members fold => symbol subject rev (if fold then members.holdsFolded else members.holds)
  | _, .place p => fun s k => if p.holds rules subject s.position then k s else none
  | rev, .seq a b =>
    if rev then fun s k => matcher rules subject rev b s fun s => matcher rules subject rev a s k
    else fun s k => matcher rules subject rev a s fun s => matcher rules subject rev b s k
  | rev, .alt a b => fun s k =>
    match matcher rules subject rev a s k with
    | some r => some r
    | none => matcher rules subject rev b s k
  | rev, .rep body least most greedy =>
    let inner := body.groups
    let step : Matcher := fun s k =>
      matcher rules subject rev body (if rules.forgets then forget inner s else s) k
    rounds step rules.refusesEmpty greedy (least + subject.size + 2) least most
  | rev, .group index body => fun s k =>
    matcher rules subject rev body s fun s' =>
      let span := if rev then (s'.position, s.position) else (s.position, s'.position)
      k { s' with groups := s'.groups.setIfInBounds index (some span) }
  | rev, .back index fold => backReference subject rev fold index
  | _, .look ahead negated body => fun s k =>
    match matcher rules subject (!ahead) body s some with
    | some s' => if negated then none else k { s' with position := s.position }
    | none => if negated then k s else none

end Regex

/-- The spans of the match that begins at `position`: the whole first, then each group. -/
def Regex.matchAt? (r : Regex) (subject : Array Nat) (position : Nat) :
    Option (Array (Option (Nat × Nat))) :=
  let start : Regex.State := ⟨position, Array.replicate (r.groupCount + 1) none⟩
  (r.root.matcher r.rules subject false start some).map fun s =>
    s.groups.setIfInBounds 0 (some (position, s.position))

/-- The first match at or behind `position`. -/
def Regex.search? (r : Regex) (subject : Array Nat) (position : Nat) :
    Option (Array (Option (Nat × Nat))) :=
  go (subject.size + 1 - position) position
where
  go : Nat → Nat → Option (Array (Option (Nat × Nat)))
    | 0, _ => none
    | fuel + 1, at_ =>
      match r.matchAt? subject at_ with
      | some found => some found
      | none => go fuel (at_ + 1)

end ApiStencil
