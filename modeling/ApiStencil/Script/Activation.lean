import ApiStencil.Script.Expr
/-!
Running statements. A body that is being run is what comes next and what is to be done when that has
ended, so that it can stop anywhere and go on later.
-/
set_option autoImplicit false

namespace ApiStencil.Script

mutual

def Pattern.names : Pattern → List Units
  | .name n => [n]
  | .place _ => []
  | .array items rest => itemNames items ++ restNames rest
  | .object fields rest => fieldNames fields ++ restNames rest

def restNames : Option Pattern → List Units
  | none => []
  | some p => p.names

def itemNames : List PatternItem → List Units
  | [] => []
  | ⟨target, _⟩ :: rest => restNames target ++ itemNames rest

def fieldNames : List PatternField → List Units
  | [] => []
  | ⟨_, target, _⟩ :: rest => target.names ++ fieldNames rest

end

/-- What comes of one step of a body. -/
inductive Step where
  | go (a : Activation)
  | handOut (v : Value) (a : Activation)
  | done (c : Completion)

/-- How far a body has come. -/
inductive Ending where
  | done (c : Completion)
  | handedOut (v : Value) (a : Activation)

namespace M

def ended (c : Completion) (frames : List Frame) (env : Env) : Activation := ⟨.inr c, frames, env⟩

def running (stmts : List Stmt) (frames : List Frame) (env : Env) : Activation := ⟨.inl stmts, frames, env⟩

/-- A scope with what a block declares; its functions are there from the start. -/
def openBlock (env : Env) (b : Block) : M Env := do
  let functions := b.functions.map fun c => Binding.mk c.name none true
  let names := b.names.map fun (n, changes) => Binding.mk n none changes
  let env ← Env.within env (functions ++ names).toArray
  for c in b.functions do
    startName env c.name (← newClosure c env none)
  return env

def enterBlock (env : Env) (frames : List Frame) (b : Block) : M Activation := do
  if b.functions.isEmpty && b.names.isEmpty then return running b.stmts frames env
  return running b.stmts (.restore env :: frames) (← openBlock env b)

def declareItem (env : Env) (binder : Binder) (p : Pattern) (init : Option Expr) : M Unit := do
  match init with
  | some e =>
    let v ← value env e
    bind depth env (binder != .var) p v
  | none => if binder != .var then bind depth env true p .undefined

/-- The names that `for` goes through in an object and those it inherits from. -/
def keysInside : Nat → Option Nat → List Key → M (List Units)
  | 0, _, _ => return []
  | _, none, _ => return []
  | n + 1, some r, seen => do
    let ks ← ownKeys r
    let shownHere ← ks.filterMapM fun k => do
      match k with
      | .symbol _ => return none
      | .name u =>
        if seen.contains k then return none
        else
          match ← ownSlot? r k with
          | some s => return if s.enumerable then some u else none
          | none => return none
    let above ← keysInside n (← proto? r) (ks ++ seen)
    return shownHere ++ above

/-- What a round of a loop binds, in a scope of its own if it declares names. -/
def bindHead (env : Env) (head : LoopHead) (v : Value) : M Env := do
  match head with
  | .assign target =>
    bind depth env false target v
    return env
  | .declare .var target =>
    bind depth env false target v
    return env
  | .declare binder target =>
    let names := target.names.map fun n => Binding.mk n none (binder == .vary)
    let env ← Env.within env names.toArray
    bind depth env true target v
    return env

def nextKey (env : Env) (frames : List Frame) (head : LoopHead) (body : Stmt) (labels : List Units) (r : Nat) :
    List Units → M Activation
  | [] => return ended .normal frames env
  | u :: rest => do
    poll
    if ← hasKey r (.name u) then
      let inner ← bindHead env head (.text u)
      return running [body] (.restore env :: .overKeys head body labels r rest :: frames) inner
    else nextKey env frames head body labels r rest

def nextValue (env : Env) (frames : List Frame) (head : LoopHead) (body : Stmt) (labels : List Units) (it : Iter) :
    M Activation := do
  poll
  match ← nextOf it with
  | none => return ended .normal frames env
  | some v =>
    let inner ← closingOnFailure it (bindHead env head v)
    return running [body] (.restore env :: .overValues head body labels it :: frames) inner

/-- The environment of the next round, with copies of the names that each round has its own of. -/
def freshRound (env : Env) (fresh : List Units) : M Env := do
  if fresh.isEmpty then return env
  match env.scopes with
  | [] => return env
  | scope :: rest => return { env with scopes := (← newScope ((← look).scopes.getD scope #[])) :: rest }

def holds (env : Env) (test : Option Expr) : M Bool := do
  match test with
  | none => return true
  | some e => return truthy (← value env e)

def nextRound (env : Env) (frames : List Frame) (fresh : List Units) (test update : Option Expr) (body : Stmt)
    (labels : List Units) : M Activation := do
  poll
  if ← holds env test then
    return running [body] (.loop fresh test update body labels :: frames) env
  else return ended .normal frames env

/-- The statements from the first case that fits on. -/
def selectCase (env : Env) (v : Value) (cases : List (Option Expr × List Stmt)) : M (List Stmt) := do
  match ← matching cases with
  | some found => return found.flatMap (·.2)
  | none => return (cases.dropWhile fun c => c.1.isSome).flatMap (·.2)
where
  matching : List (Option Expr × List Stmt) → M (Option (List (Option Expr × List Stmt)))
    | [] => return none
    | (some e, stmts) :: rest => do
      if strictEqual v (← value env e) then return some ((some e, stmts) :: rest) else matching rest
    | (none, _) :: rest => matching rest

/-- Begins a statement; `labels` are the labels right in front of it. -/
def enter (env : Env) (frames : List Frame) : List Units → Stmt → M Step
  | labels, .labeled name body =>
    match body with
    | .labeled _ _ | .whileDo _ _ | .doWhile _ _ | .loop _ _ _ _ _ _ | .overKeys _ _ _ | .overValues _ _ _ =>
      enter env frames (name :: labels) body
    | _ => return .go (running [body] (.labeled (name :: labels) :: frames) env)
  | labels, s => do
    match s with
    | .empty | .labeled _ _ => return .go (ended .normal frames env)
    | .expr e =>
      let _ ← value env e
      return .go (ended .normal frames env)
    | .declare binder items =>
      for (p, init) in items do
        declareItem env binder p init
      return .go (ended .normal frames env)
    | .classOf code =>
      let v ← evalClass depth env code
      startName env code.title v
      return .go (ended .normal frames env)
    | .give e =>
      let v ← match e with
        | some e => value env e
        | none => pure .undefined
      return .go (ended (.give v) frames env)
    | .throw e => throwValue (← value env e)
    | .cond test yes no =>
      if truthy (← value env test) then return .go (running [yes] frames env)
      else return .go (running no.toList frames env)
    | .whileDo test body =>
      poll
      if truthy (← value env test) then return .go (running [body] (.whileDo test body labels :: frames) env)
      else return .go (ended .normal frames env)
    | .doWhile body test =>
      poll
      return .go (running [body] (.doWhile body test labels :: frames) env)
    | .loop start names fresh test update body =>
      let outer := env
      let (env, frames) ←
        if names.isEmpty then pure (env, frames)
        else do
          let env ← Env.within env (names.map fun (n, changes) => Binding.mk n none changes).toArray
          pure (env, Frame.restore outer :: frames)
      match start with
      | some (.declare binder items) =>
        for (p, init) in items do
          declareItem env binder p init
      | some (.expr e) =>
        let _ ← value env e
      | _ => pure ()
      return .go (← nextRound (← freshRound env fresh) frames fresh test update body labels)
    | .overKeys head source body =>
      let v ← value env source
      if v.isNullish then return .go (ended .normal frames env)
      let r ← toObject v
      return .go (← nextKey env frames head body labels r (← keysInside reach (some r) []))
    | .overValues head source body =>
      let it ← iterate (← value env source)
      return .go (← nextValue env frames head body labels it)
    | .leave label => return .go (ended (.leave label) frames env)
    | .next label => return .go (ended (.next label) frames env)
    | .attempt body handler last =>
      return .go (← enterBlock env (.attempt handler last env :: frames) body)
    | .select e b cases =>
      let v ← value env e
      let inner ← if b.functions.isEmpty && b.names.isEmpty then pure env else openBlock env b
      return .go (running (← selectCase inner v cases) (.restore env :: .select :: frames) inner)
    | .block b => return .go (← enterBlock env frames b)
    | .handOut into arg =>
      let v ← match arg with
        | some e => value env e
        | none => pure .undefined
      return .handOut v (ended .normal (.handOut into :: frames) env)
    | .handOutFrom into source =>
      let it ← iterate (← value env source)
      match ← nextOf it with
      | some v => return .handOut v (ended .normal (.handOutFrom into it :: frames) env)
      | none => return .go (ended .normal frames env)

/-- Whether a jump is meant for a loop with these labels. -/
def reaches (labels : List Units) : Option Units → Bool
  | none => true
  | some l => labels.contains l

/-- What a loop does when its body has ended: goes on, stops, or hands the ending on. -/
inductive LoopTurn where
  | again
  | stop
  | pass

def loopTurn (labels : List Units) : Completion → LoopTurn
  | .normal => .again
  | .next l => if reaches labels l then .again else .pass
  | .leave l => if reaches labels l then .stop else .pass
  | .give _ | .thrown _ => .pass

/-- Hands an ending to the innermost frame. -/
def leave (c : Completion) (env : Env) (frames : List Frame) : Frame → M Activation
  | .rest stmts =>
    match c with
    | .normal => return running stmts frames env
    | c => return ended c frames env
  | .restore env => return ended c frames env
  | .labeled labels =>
    match c with
    | .leave (some l) => return ended (if labels.contains l then .normal else c) frames env
    | c => return ended c frames env
  | .select =>
    match c with
    | .leave none => return ended .normal frames env
    | c => return ended c frames env
  | .whileDo test body labels => do
    match loopTurn labels c with
    | .again =>
      poll
      if truthy (← value env test) then return running [body] (.whileDo test body labels :: frames) env
      else return ended .normal frames env
    | .stop => return ended .normal frames env
    | .pass => return ended c frames env
  | .doWhile body test labels => do
    match loopTurn labels c with
    | .again =>
      poll
      if truthy (← value env test) then return running [body] (.doWhile body test labels :: frames) env
      else return ended .normal frames env
    | .stop => return ended .normal frames env
    | .pass => return ended c frames env
  | .loop fresh test update body labels => do
    match loopTurn labels c with
    | .again =>
      let env ← freshRound env fresh
      match update with
      | some e =>
        let _ ← value env e
      | none => pure ()
      nextRound env frames fresh test update body labels
    | .stop => return ended .normal frames env
    | .pass => return ended c frames env
  | .overKeys head body labels r keys => do
    match loopTurn labels c with
    | .again => nextKey env frames head body labels r keys
    | .stop => return ended .normal frames env
    | .pass => return ended c frames env
  | .overValues head body labels it => do
    match loopTurn labels c, c with
    | .again, _ => nextValue env frames head body labels it
    | .stop, _ =>
      closeIter it
      return ended .normal frames env
    | .pass, .thrown _ =>
      let _ ← attempt (closeIter it)
      return ended c frames env
    | .pass, _ =>
      closeIter it
      return ended c frames env
  | .attempt handler last env => do
    match c, handler with
    | .thrown v, some (param, block) =>
      let frames := if last.isSome then .attempt none last env :: frames else frames
      match param with
      | none => enterBlock env frames block
      | some p =>
        let inner ← Env.within env (p.names.map fun n => Binding.mk n none true).toArray
        bind depth inner true p v
        enterBlock inner (.restore env :: frames) block
    | c, _ =>
      match last with
      | some block => enterBlock env (.last c :: frames) block
      | none => return ended c frames env
  | .last ending =>
    match c with
    | .normal => return ended ending frames env
    | c => return ended c frames env
  | .handOut _ | .handOutFrom _ _ => return ended c frames env

/-- The frames that see what is thrown while a frame is being left. -/
def framesBehind : Frame → List Frame → List Frame
  | .attempt (some _) last env, frames => if last.isSome then .attempt none last env :: frames else frames
  | _, frames => frames

def step (a : Activation) : M Step := do
  match a.next with
  | .inl [] => return .go { a with next := .inr .normal }
  | .inl [s] =>
    match ← attempt (enter a.env a.frames [] s) with
    | .ok next => return next
    | .error v => return .go { a with next := .inr (.thrown v) }
  | .inl (s :: rest) =>
    let frames := Frame.rest rest :: a.frames
    match ← attempt (enter a.env frames [] s) with
    | .ok next => return next
    | .error v => return .go { a with next := .inr (.thrown v) }
  | .inr c =>
    match a.frames with
    | [] => return .done c
    | f :: frames =>
      match ← attempt (leave c a.env frames f) with
      | .ok a => return .go a
      | .error v => return .go ⟨.inr (.thrown v), framesBehind f frames, a.env⟩

/-- Runs a body until it ends or hands out a value. -/
def run : Nat → Activation → M Ending
  | 0, _ => throw .interrupted
  | n + 1, a => do
    match ← step a with
    | .go a => run n a
    | .handOut v a => return .handedOut v a
    | .done c => return .done c

/-- More steps than there is time for. -/
def endless : Nat := 1152921504606846976

/-- Goes on with a body that has handed out a value. -/
def goOn (a : Activation) (r : Resumption) : M Ending := do
  let resumed := fun (frames : List Frame) (c : Completion) => run endless (ended c frames a.env)
  match a.frames with
  | .handOut into :: frames =>
    match r with
    | .next v =>
      startName a.env into v
      resumed frames .normal
    | .throw v => resumed frames (.thrown v)
    | .give v => resumed frames (.give v)
  | .handOutFrom into it :: frames =>
    let handOn := fun (r : Value) => do
      if !r.isObject then typeError "iterator must return an object"
      if truthy (← getNamed r "done") then return Except.ok (← getNamed r "value")
      else return Except.error (← getNamed r "value")
    let forward : M (Completion ⊕ Value) := do
      match r with
      | .next v =>
        match ← handOn (← callOrFail it.next it.object [v]) with
        | .ok v =>
          startName a.env into v
          return .inl .normal
        | .error v => return .inr v
      | .throw v =>
        match ← method? it.object (.ofString "throw") with
        | some f =>
          match ← handOn (← call f it.object [v]) with
          | .ok v =>
            startName a.env into v
            return .inl .normal
          | .error v => return .inr v
        | none =>
          closeIter it
          typeError "iterator does not have a throw method"
      | .give v =>
        match ← method? it.object (.ofString "return") with
        | some f =>
          match ← handOn (← call f it.object [v]) with
          | .ok v => return .inl (.give v)
          | .error v => return .inr v
        | none => return .inl (.give v)
    match ← attempt forward with
    | .ok (.inl c) => resumed frames c
    | .ok (.inr v) => return .handedOut v a
    | .error v => resumed frames (.thrown v)
  | frames =>
    match r with
    | .next _ => run endless a
    | .throw v => resumed frames (.thrown v)
    | .give v => resumed frames (.give v)

end M
end ApiStencil.Script
