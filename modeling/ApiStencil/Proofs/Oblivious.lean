import ApiStencil.Proofs.Precedence
/-!
What a rendering can tell of its world: only what its commands tell it. In worlds that commands cannot tell
apart every template comes to the same text, the same fault and the same ledger.
-/
set_option autoImplicit false

namespace ApiStencil
namespace Template

variable {W : Type}

namespace Eval

variable {α β : Type}

instance : LawfulMonad (Eval W) :=
  .mk' (Eval W) (fun x => run_inj (by
    funext s l
    show (x >>= Pure.pure).run s l = _
    rw [bind_run]
    rcases x.run s l with ⟨e | a, t, m⟩ <;> rfl)) (fun _ _ => rfl) bind_bind

variable {R : W → W → Prop}

/-- A step that cannot tell worlds apart: in two that are alike it comes to the same, and leaves two that are
alike. -/
def Oblivious (R : W → W → Prop) (x : Eval W α) : Prop :=
  ∀ s l w, R s.world w → ∃ r t m v, R t.world v ∧ x.run s l = (r, t, m) ∧
    x.run { s with world := w } l = (r, { t with world := v }, m)

namespace Oblivious

theorem pure (a : α) : Oblivious R (Pure.pure a : Eval W α) := fun s l w h => ⟨.ok a, s, l, w, h, rfl, rfl⟩

theorem problem (p : Problem) : Oblivious R (Eval.problem p : Eval W α) := fun s l w h => ⟨_, s, l, w, h, rfl, rfl⟩

theorem ofExcept (x : Except Problem α) : Oblivious R (Eval.ofExcept x : Eval W α) := by
  cases x with
  | ok a => exact pure a
  | error p => exact problem p

theorem bind {x : Eval W α} {f : α → Eval W β} (hx : Oblivious R x) (hf : ∀ a, Oblivious R (f a)) :
    Oblivious R (x >>= f) := by
  intro s l w h
  obtain ⟨r, t, m, v, hv, hs, hw⟩ := hx s l w h
  rw [bind_run, bind_run, hs, hw]
  cases r with
  | error e => exact ⟨_, _, _, v, hv, rfl, rfl⟩
  | ok a => exact hf a t m v hv

/-- Whatever is read of a state, it is not the world. -/
theorem reading {f : State W → Eval W α} (hf : ∀ s, Oblivious R (f s))
    (hsame : ∀ s w, f { s with world := w } = f s) : Oblivious R (get >>= f) := by
  intro s l w h
  obtain ⟨r, t, m, v, hv, hs, hw⟩ := hf s s l w h
  refine ⟨r, t, m, v, hv, hs, ?_⟩
  rw [← hw, ← hsame s w]
  rfl

/-- Whatever is changed of a state, it is not the world. -/
theorem changing {g : State W → State W} (hg : ∀ s w, g { s with world := w } = { g s with world := w }) :
    Oblivious R (modify g : Eval W Unit) := by
  intro s l w h
  have hworld := congrArg State.world (hg s s.world)
  exact ⟨.ok (), g s, l, w, hworld ▸ h, rfl, by rw [← hg]; rfl⟩

theorem act {f : W → Except CallFailure α × W} (hf : ∀ a b, R a b → (f a).1 = (f b).1 ∧ R (f a).2 (f b).2) :
    Oblivious R (Eval.act f) := by
  intro s l w h
  obtain ⟨hsame, hworlds⟩ := hf _ _ h
  simp only [Eval.act]
  rcases hs : f s.world with ⟨e | a, v⟩
  · rcases hw : f w with ⟨e' | a', v'⟩
    · rw [hs, hw] at hsame hworlds
      cases hsame
      exact ⟨_, _, _, v', hworlds, rfl, rfl⟩
    · rw [hs, hw] at hsame
      cases hsame
  · rcases hw : f w with ⟨e' | a', v'⟩
    · rw [hs, hw] at hsame
      cases hsame
    · rw [hs, hw] at hsame hworlds
      cases hsame
      exact ⟨_, _, _, v', hworlds, rfl, rfl⟩

theorem reworded {x : Eval W α} (hx : Oblivious R x) (g : Fault → Fault) (hg : ∀ f, (g f).command? = f.command?) :
    Oblivious R (x.reworded g hg) := by
  intro s l w h
  obtain ⟨r, t, m, v, hv, hs, hw⟩ := hx s l w h
  simp only [Eval.reworded, hs, hw]
  cases r with
  | ok a => exact ⟨_, _, _, v, hv, rfl, rfl⟩
  | error f => exact ⟨_, _, _, v, hv, rfl, rfl⟩

theorem within {x : Eval W α} (hx : Oblivious R x) (text : String) : Oblivious R (Eval.within text x) :=
  hx.reworded _ _

theorem flattened {x : Eval W α} (hx : Oblivious R x) : Oblivious R (Eval.flattened x) := hx.reworded _ _

theorem attempt {x : Eval W α} (hx : Oblivious R x) : Oblivious R x.attempt := by
  intro s l w h
  obtain ⟨r, t, m, v, hv, hs, hw⟩ := hx s l w h
  simp only [Eval.attempt, hs, hw]
  cases r with
  | ok a => exact ⟨_, _, _, v, hv, rfl, rfl⟩
  | error f => exact ⟨_, _, _, v, hv, rfl, rfl⟩

theorem ending {x : Eval W α} (hx : Oblivious R x) {g : State W → State W}
    (hg : ∀ s w, g { s with world := w } = { g s with world := w }) : Oblivious R (x.ending g) := by
  intro s l w h
  obtain ⟨r, t, m, v, hv, hs, hw⟩ := hx s l w h
  have hworld := congrArg State.world (hg t t.world)
  simp only [Eval.ending, hs, hw]
  exact ⟨r, g t, m, v, hworld ▸ hv, rfl, by rw [hg]⟩

theorem mapM {f : α → Eval W β} (hf : ∀ a, Oblivious R (f a)) (as : List α) : Oblivious R (as.mapM f) := by
  induction as with
  | nil => exact pure _
  | cons a as ih =>
    rw [List.mapM_cons]
    exact (hf a).bind fun _ => ih.bind fun _ => pure _

end Oblivious

section Steps

theorem oblivious_pushFrame (f : Frame) : Oblivious R (pushFrame f : Eval W Unit) := .changing fun _ _ => rfl

theorem oblivious_popFrame : Oblivious R (popFrame : Eval W Unit) := .changing fun _ _ => rfl

theorem oblivious_activeTemplate : Oblivious R (activeTemplate : Eval W String) :=
  .reading (fun _ => .pure _) fun _ _ => rfl

theorem oblivious_assign (key : String) (global : Bool) (v : Json) : Oblivious R (assign key global v : Eval W Unit) :=
  .changing fun _ _ => rfl

theorem oblivious_topLoop : Oblivious R (topLoop : Eval W (Option Loop)) := .reading (fun _ => .pure _) fun _ _ => rfl

theorem oblivious_setLoopState (s : LoopState) (outside : Problem) :
    Oblivious R (setLoopState s outside : Eval W Unit) := by
  refine oblivious_topLoop.bind fun top => ?_
  cases top with
  | none => exact .problem _
  | some _ => exact .changing fun _ _ => rfl

theorem oblivious_advanceLoop : Oblivious R (advanceLoop : Eval W Unit) := .changing fun _ _ => rfl

theorem oblivious_leavesBody : Oblivious R (leavesBody : Eval W Bool) := oblivious_topLoop.bind fun _ => .pure _

theorem oblivious_leavesLoop : Oblivious R (leavesLoop : Eval W Bool) := oblivious_topLoop.bind fun _ => .pure _

theorem oblivious_emit (s : String) : Oblivious R (emit s : Eval W Unit) := .changing fun _ _ => rfl

theorem Oblivious.plainly {x : Eval W α} (hx : Oblivious R x) : Oblivious R (Eval.plainly x) :=
  .reading (fun _ => (Oblivious.changing fun _ _ => rfl).bind fun _ => hx.ending fun _ _ => rfl) fun _ _ => rfl

theorem Oblivious.captured {x : Eval W Unit} (hx : Oblivious R x) : Oblivious R (Eval.captured x) := by
  refine .reading (fun _ => (Oblivious.changing fun _ _ => rfl).bind fun _ => ?_) fun _ _ => rfl
  have hwritten : Oblivious R (do
      x
      return (← get).written) := hx.bind fun _ => .reading (fun _ => .pure _) fun _ _ => rfl
  exact (hwritten.ending fun _ _ => rfl).bind fun _ => .pure _

theorem oblivious_inOrder {step : Node → Eval W Unit} (hstep : ∀ n, Oblivious R (step n)) (ns : List Node) :
    Oblivious R (inOrder step ns) := by
  induction ns with
  | nil => exact .pure _
  | cons n rest ih =>
    refine (hstep n).bind fun _ => oblivious_leavesBody.bind fun leaves => ?_
    split
    · exact ih
    · exact .pure _

theorem oblivious_piped {step : Json → Call → Eval W Json} (hstep : ∀ v c, Oblivious R (step v c)) (cs : List Call)
    (v : Json × Bool) : Oblivious R (piped step v cs) := by
  induction cs generalizing v with
  | nil => exact .pure _
  | cons c rest ih =>
    rw [piped]
    split
    · exact ih v
    · exact (hstep v.1 c).bind fun _ => ih _

theorem oblivious_rounds {body : Eval W Unit} (hbody : Oblivious R body) (n : Nat) : Oblivious R (rounds body n) := by
  induction n with
  | zero => exact .pure _
  | succ n ih =>
    refine hbody.bind fun _ => oblivious_leavesLoop.bind fun leaves => ?_
    split
    · exact oblivious_advanceLoop.bind fun _ => ih
    · exact .pure _

end Steps

end Eval

open Eval

/-- Filters and functions that cannot tell worlds apart. -/
structure Registry.Oblivious (R : W → W → Prop) (r : Registry W) : Prop where
  filter : ∀ {name f}, r.filter? name = some f → ∀ v args, Eval.Oblivious R (f v args)
  function : ∀ {name f}, r.function? name = some f → ∀ args, Eval.Oblivious R (f args)

namespace Env

variable {R : W → W → Prop} {env : Env W}

/-- With fuel `n` nothing that is evaluated can tell worlds apart. -/
structure ObliviousAt (R : W → W → Prop) (env : Env W) (n : Nat) : Prop where
  args : ∀ named, Oblivious R (env.args n named)
  call : ∀ c, Oblivious R (env.call n c)
  filtered : ∀ v c, Oblivious R (env.filtered n v c)
  test : ∀ name negated testName es, Oblivious R (env.test n name negated testName es)
  member : ∀ l r negated, Oblivious R (env.member n l r negated)
  concatPart : ∀ v, Oblivious R (env.concatPart n v)
  defaultValue : ∀ cs, Oblivious R (env.defaultValue n cs)
  operand : ∀ v negated cs, Oblivious R (env.operand n v negated cs)
  expr : ∀ e, Oblivious R (env.expr n e)
  exprNumber : ∀ e, Oblivious R (env.exprNumber n e)
  number : ∀ v, Oblivious R (env.number n v)
  truth : ∀ e, Oblivious R (env.truth n e)
  expand : ∀ space name es, Oblivious R (env.expand n space name es)
  body : ∀ ns, Oblivious R (env.body n ns)
  loop : ∀ key item container ns otherwise, Oblivious R (env.loop n key item container ns otherwise)
  branches : ∀ bs otherwise, Oblivious R (env.branches n bs otherwise)
  block : ∀ name ns, Oblivious R (env.block n name ns)
  parentBlock : Oblivious R (env.parentBlock n)
  embed : ∀ names optional, Oblivious R (env.embed n names optional)
  node : ∀ nd, Oblivious R (env.node n nd)

theorem oblivious_found (name : String) : Oblivious R (env.found name) := .reading (fun _ => .pure _) fun _ _ => rfl

theorem oblivious_ident (name : String) : Oblivious R (env.ident name) :=
  (oblivious_found name).bind fun _ => .ofExcept _

theorem oblivious_macroView : Oblivious R env.macroView := by
  refine .reading (fun s => ?_) fun _ _ => rfl
  split
  · exact .pure _
  · split
    · exact .pure _
    · exact oblivious_activeTemplate

theorem oblivious_findMacro (space name : String) : Oblivious R (env.findMacro space name) := by
  refine oblivious_macroView.bind fun view => .reading (fun s => ?_) fun _ _ => rfl
  split
  · exact .problem _
  · split
    · exact .problem _
    · exact .pure _

theorem oblivious_runFilter (henv : env.registry.Oblivious R) (name : String) (v : Json) (args : Args) :
    Oblivious R (env.runFilter name v args) := by
  unfold runFilter
  split
  · rename_i f hf
    exact (henv.filter hf v args).within _
  · exact .problem _

theorem oblivious_runFunction (henv : env.registry.Oblivious R) (name : String) (args : Args) :
    Oblivious R (env.runFunction name args) := by
  unfold runFunction
  split
  · rename_i f hf
    exact (henv.function hf args).within _
  · exact .problem _

theorem obliviousAt_zero : env.ObliviousAt R 0 where
  args _ := .problem _
  call _ := .problem _
  filtered _ _ := .problem _
  test _ _ _ _ := .problem _
  member _ _ _ := .problem _
  concatPart _ := .problem _
  defaultValue _ := .problem _
  operand _ _ _ := .problem _
  expr _ := .problem _
  exprNumber _ := .problem _
  number _ := .problem _
  truth _ := .problem _
  expand _ _ _ := .problem _
  body _ := .problem _
  loop _ _ _ _ _ := .problem _
  branches _ _ := .problem _
  block _ _ := .problem _
  parentBlock := .problem _
  embed _ _ := .problem _
  node _ := .problem _

namespace ObliviousAt

variable {n : Nat} (h : env.ObliviousAt R n)

include h

theorem args_succ (named : List (String × Expr)) : Oblivious R (env.args (n + 1) named) := by
  rw [Env.args]
  exact .mapM (fun x => (h.expr x.2).plainly.bind fun _ => .pure _) named

theorem call_succ (henv : env.registry.Oblivious R) (c : Call) : Oblivious R (env.call (n + 1) c) := by
  rw [Env.call]
  have hrest : Oblivious R (do
      let values ← within s!"Function call '{c.name}' failed" (env.args n c.args)
      env.runFunction c.name values) :=
    ((h.args c.args).within _).bind fun values => oblivious_runFunction henv c.name values
  split
  · exact (Oblivious.problem _).bind fun _ => hrest
  · exact hrest

theorem filtered_succ (henv : env.registry.Oblivious R) (v : Json) (c : Call) :
    Oblivious R (env.filtered (n + 1) v c) := by
  rw [Env.filtered]
  have hrest : Oblivious R (do
      let values ← within s!"Filter call '{c.name}' failed" (env.args n c.args)
      env.runFilter c.name v values) :=
    ((h.args c.args).within _).bind fun values => oblivious_runFilter henv c.name v values
  split
  · exact (Oblivious.problem _).bind fun _ => hrest
  · exact hrest

theorem test_succ (name : String) (negated : Bool) (testName : String) (es : List Expr) :
    Oblivious R (env.test (n + 1) name negated testName es) := by
  rw [Env.test]
  split
  · exact .problem _
  · refine (Oblivious.mapM (fun e => (h.expr e).plainly.within _) es).bind fun values => ?_
    refine (oblivious_found name).bind fun v => ?_
    split
    · exact .pure _
    · exact (Oblivious.problem _).within _

theorem member_succ (l r : Expr) (negated : Bool) : Oblivious R (env.member (n + 1) l r negated) := by
  rw [Env.member]
  exact (h.expr l).bind fun _ => (h.expr r).bind fun _ => (Oblivious.ofExcept _).bind fun _ => .pure _

theorem concatPart_succ (v : Operand) : Oblivious R (env.concatPart (n + 1) v) := by
  rw [Env.concatPart.eq_def]
  cases v with
  | ident name =>
    refine (oblivious_ident name).bind fun v => ?_
    split
    · exact .pure _
    · exact .problem _
  | call c =>
    refine (h.call c).bind fun v => ?_
    split
    · exact .pure _
    · exact .problem _
  | _ => exact .pure _

theorem defaultValue_succ (cs : List Call) : Oblivious R (env.defaultValue (n + 1) cs) := by
  rw [Env.defaultValue]
  split
  · exact h.expr _
  · exact .problem _

theorem operand_succ (v : Operand) (negated : Bool) (cs : List Call) : Oblivious R (env.operand (n + 1) v negated cs) := by
  rw [Env.operand.eq_def]
  cases v with
  | array items => exact (Oblivious.mapM h.expr items).bind fun _ => .pure _
  | member l r neg => exact (h.member l r neg).bind fun _ => .pure _
  | string s => exact .pure _
  | concat parts => exact (Oblivious.mapM h.concatPart parts).bind fun _ => .pure _
  | int i => exact .pure _
  | float x => exact .pure _
  | bool b => exact .pure _
  | ident name =>
    have hdefault := (h.defaultValue cs).bind fun v => Oblivious.pure (R := R) (v, name != contextName, false)
    refine (oblivious_found name).bind fun v => ?_
    split
    · split
      · exact hdefault
      · exact .pure _
    · exact .pure _
    · split
      · exact hdefault
      · split
        · exact .pure _
        · exact .problem _
  | call c => exact (h.call c).bind fun _ => .pure _
  | macroCall space name es => exact (h.expand space name es).bind fun _ => .pure _
  | test ident neg name es => exact (h.test ident neg name es).bind fun _ => .pure _
  | logic l op r => exact (h.truth _).bind fun _ => .pure _
  | math l op r =>
    refine (h.number _).flattened.bind fun x => ?_
    cases x with
    | some x => exact .pure _
    | none => exact .pure _

theorem expr_succ (e : Expr) : Oblivious R (env.expr (n + 1) e) := by
  obtain ⟨v, negated, cs⟩ := e
  rw [Env.expr]
  refine (h.operand v negated cs).bind fun x => ?_
  obtain ⟨first, escapes, final⟩ := x
  dsimp only
  split
  · exact .pure _
  · refine (oblivious_piped h.filtered cs _).bind fun y => ?_
    obtain ⟨r, escapes⟩ := y
    dsimp only
    split
    · exact .pure _
    · split
      · refine .reading (fun s => ?_) fun _ _ => rfl
        split
        · exact .pure _
        · exact .pure _
      · exact .pure _

theorem exprNumber_succ (e : Expr) : Oblivious R (env.exprNumber (n + 1) e) := by
  rw [Env.exprNumber]
  split
  · exact h.number _
  · refine (h.expr e).bind fun v => ?_
    split
    · exact .pure _
    · exact .problem _

theorem number_succ (v : Operand) : Oblivious R (env.number (n + 1) v) := by
  rw [Env.number.eq_def]
  cases v with
  | ident name =>
    refine (oblivious_ident name).bind fun v => ?_
    split
    · exact .pure _
    · exact .problem _
  | int i => exact .pure _
  | float x => exact .pure _
  | math l op r =>
    refine (h.exprNumber l).bind fun a => (h.exprNumber r).bind fun b => ?_
    split
    · exact .ofExcept _
    · exact .pure _
  | call c =>
    refine (h.call c).bind fun v => ?_
    split
    · exact .pure _
    · exact .problem _
  | _ => exact .problem _

theorem truth_succ (e : Expr) : Oblivious R (env.truth (n + 1) e) := by
  obtain ⟨v, negated, cs⟩ := e
  rw [Env.truth.eq_def]
  cases v with
  | logic l op r =>
    cases op with
    | or | and =>
      -- the right side is asked only if the left one does not decide
      refine (h.truth l).bind fun b => ?_
      split
      all_goals first | exact .pure _ | exact (h.truth r).bind fun _ => .pure _
    | gt | gte | lt | lte =>
      refine (h.exprNumber l).bind fun a => (h.exprNumber r).bind fun b => ?_
      split
      · exact .pure _
      · exact .problem _
    | eq | notEq =>
      refine (h.expr l).bind fun a => (h.expr r).bind fun b => ?_
      split
      all_goals exact .pure _
  | ident name => exact (h.expr _).attempt.bind fun _ => .pure _
  | math _ _ _ | int _ | float _ =>
    refine (h.number _).bind fun x => ?_
    cases x with
    | some x => exact .pure _
    | none => exact .pure _
  | member l r neg => exact (h.member l r neg).bind fun _ => .pure _
  | test ident neg name es => exact (h.test ident neg name es).bind fun _ => .pure _
  | bool b => exact .pure _
  | string s => exact .pure _
  | call c =>
    refine (h.call c).bind fun v => ?_
    split
    · exact .pure _
    · exact .problem _
  | concat parts =>
    refine (h.expr _).bind fun v => ?_
    split
    · exact .pure _
    · exact .pure _
  | macroCall space name es => exact (h.expand space name es).bind fun _ => .pure _
  | array items => exact .pure _

theorem expand_succ (space name : String) (es : List (String × Expr)) : Oblivious R (env.expand (n + 1) space name es) := by
  rw [Env.expand]
  refine (oblivious_findMacro space name).bind fun found => ?_
  refine (Oblivious.mapM (fun x => ?_) _).bind fun locals => ?_
  · obtain ⟨param, otherwise⟩ := x
    dsimp only
    split
    · exact (h.expr _).plainly.bind fun _ => .pure _
    · exact (h.expr _).plainly.bind fun _ => .pure _
    · exact .problem _
  · refine (oblivious_pushFrame _).bind fun _ => (h.body _).captured.bind fun s => ?_
    exact oblivious_popFrame.bind fun _ => .pure _

theorem body_succ (ns : List Node) : Oblivious R (env.body (n + 1) ns) := by
  rw [Env.body]
  exact oblivious_inOrder h.node ns

theorem loop_succ (key : Option String) (item : String) (container : Expr) (ns otherwise : List Node) :
    Oblivious R (env.loop (n + 1) key item container ns otherwise) := by
  rw [Env.loop]
  split
  · exact .problem _
  · refine (h.expr container).plainly.bind fun v => (Oblivious.ofExcept _).bind fun entries => ?_
    split
    · exact h.body otherwise
    · refine oblivious_activeTemplate.bind fun active => (oblivious_pushFrame _).bind fun _ => ?_
      exact (oblivious_rounds (h.body ns) _).bind fun _ => oblivious_popFrame

theorem branches_succ (bs : List Branch) (otherwise : List Node) : Oblivious R (env.branches (n + 1) bs otherwise) := by
  cases bs with
  | nil =>
    rw [Env.branches]
    exact h.body otherwise
  | cons b rest =>
    obtain ⟨_, e, ns⟩ := b
    rw [Env.branches]
    refine (h.truth e).bind fun holds => ?_
    split
    · exact h.body ns
    · exact h.branches rest otherwise

theorem block_succ (name : String) (ns : List Node) : Oblivious R (env.block (n + 1) name ns) := by
  rw [Env.block]
  refine oblivious_activeTemplate.bind fun active => ?_
  dsimp only
  split
  · exact (Oblivious.changing fun _ _ => rfl).bind fun _ => h.body _
  · exact (Oblivious.pure _).bind fun _ => h.body _

theorem parentBlock_succ : Oblivious R (env.parentBlock (n + 1)) := by
  rw [Env.parentBlock]
  refine .reading (fun s => ?_) fun _ _ => rfl
  split
  · exact .problem _
  · split
    · exact .problem _
    · refine (Oblivious.changing fun _ _ => rfl).bind fun _ => (h.body _).bind fun _ => ?_
      exact .changing fun _ _ => rfl

theorem embed_succ (names : List String) (optional : Bool) : Oblivious R (env.embed (n + 1) names optional) := by
  rw [Env.embed]
  split
  · refine (Oblivious.changing fun _ _ => rfl).bind fun _ => (oblivious_pushFrame _).bind fun _ => ?_
    exact (h.body _).bind fun _ => oblivious_popFrame
  · split
    · exact .pure _
    · exact .problem _

theorem node_succ (nd : Node) : Oblivious R (env.node (n + 1) nd) := by
  rw [Env.node.eq_def]
  cases nd with
  | comment _ | load _ _ _ | definition _ _ _ _ => exact .pure _
  | text s | raw _ s _ => exact oblivious_emit _
  | print _ e => exact (h.expr e).bind fun _ => oblivious_emit _
  | set _ key value global => exact (h.expr value).plainly.bind fun _ => oblivious_assign _ _ _
  | filter _ f ns _ =>
    refine (h.body ns).captured.bind fun s => ?_
    split
    · exact oblivious_emit _
    · exact (h.filtered _ _).bind fun _ => oblivious_emit _
  | cond bs _ otherwise _ => exact h.branches bs otherwise
  | loop _ key item container ns otherwise _ => exact h.loop key item container ns otherwise
  | leave _ => exact oblivious_setLoopState _ _
  | next _ => exact oblivious_setLoopState _ _
  | block _ name ns _ => exact h.block name ns
  | parent => exact h.parentBlock
  | embed _ names optional => exact h.embed names optional
  | extend _ name => exact .problem _

theorem succ (henv : env.registry.Oblivious R) : env.ObliviousAt R (n + 1) where
  args := h.args_succ
  call := h.call_succ henv
  filtered := h.filtered_succ henv
  test := h.test_succ
  member := h.member_succ
  concatPart := h.concatPart_succ
  defaultValue := h.defaultValue_succ
  operand := h.operand_succ
  expr := h.expr_succ
  exprNumber := h.exprNumber_succ
  number := h.number_succ
  truth := h.truth_succ
  expand := h.expand_succ
  body := h.body_succ
  loop := h.loop_succ
  branches := h.branches_succ
  block := h.block_succ
  parentBlock := h.parentBlock_succ
  embed := h.embed_succ
  node := h.node_succ

end ObliviousAt

/-- Where no filter and no function can tell worlds apart, nothing that is evaluated can. -/
theorem obliviousAt (henv : env.registry.Oblivious R) (n : Nat) : env.ObliviousAt R n := by
  induction n with
  | zero => exact obliviousAt_zero
  | succ n ih => exact ih.succ henv

end Env

namespace Registry

variable {R : W → W → Prop} {r : Registry W}

namespace Oblivious

theorem empty : (Registry.empty : Registry W).Oblivious R where
  filter := fun {_ _} h => by cases h
  function := fun {_ _} h => by cases h

theorem addFilter (h : r.Oblivious R) (name : String) {f : Json → Args → Eval W Json}
    (hf : ∀ v args, Eval.Oblivious R (f v args)) : (r.addFilter name f).Oblivious R := by
  refine ⟨fun {n g} hg => ?_, h.function⟩
  simp only [Registry.addFilter] at hg
  split at hg
  · cases hg
    exact hf
  · exact h.filter hg

theorem addFunction (h : r.Oblivious R) (name : String) {f : Args → Eval W Json}
    (hf : ∀ args, Eval.Oblivious R (f args)) : (r.addFunction name f).Oblivious R := by
  refine ⟨h.filter, fun {n g} hg => ?_⟩
  simp only [Registry.addFunction] at hg
  split at hg
  · cases hg
    exact hf
  · exact h.function hg

theorem addFilters (h : r.Oblivious R) (fs : List (String × Filter)) : (r.addFilters fs).Oblivious R := by
  induction fs generalizing r with
  | nil => exact h
  | cons x fs ih => exact ih (h.addFilter x.1 fun _ _ => .ofExcept _)

theorem addFunctions (h : r.Oblivious R) (fs : List (String × Function)) : (r.addFunctions fs).Oblivious R := by
  induction fs generalizing r with
  | nil => exact h
  | cons x fs ih => exact ih (h.addFunction x.1 fun _ => .ofExcept _)

theorem library : (Registry.library : Registry W).Oblivious R :=
  (((empty.addFilters _).addFunctions _).addFilters _).addFunctions _

end Oblivious

end Registry

/-- A command that cannot tell worlds apart. -/
structure Handler.Oblivious (R : W → W → Prop) (h : Handler W) : Prop where
  filter : ∀ v args a b, R a b → (h.filter v args a).1 = (h.filter v args b).1 ∧ R (h.filter v args a).2 (h.filter v args b).2
  function : ∀ args a b, R a b → (h.function args a).1 = (h.function args b).1 ∧ R (h.function args a).2 (h.function args b).2

theorem Registry.Oblivious.register {R : W → W → Prop} {r : Registry W} (h : r.Oblivious R) {commands : Commands W}
    (hc : ∀ x ∈ commands, x.2.Oblivious R) : (r.register commands).Oblivious R := by
  induction commands generalizing r with
  | nil => exact h
  | cons x rest ih =>
    have hx := hc x (by simp)
    refine ih ?_ fun y hy => hc y (List.mem_cons_of_mem _ hy)
    exact (h.addFunction x.1 fun args => .act (hx.function args)).addFilter x.1 fun v args => .act (hx.filter v args)

/-- Renderings that come to the same, in worlds that are alike. -/
structure Rendering.Alike (R : W → W → Prop) (x y : Rendering W) : Prop where
  text : x.text = y.text
  fault : x.fault = y.fault
  ledger : x.ledger = y.ledger
  world : R x.world y.world

theorem Rendering.of_oblivious {R : W → W → Prop} {x : Eval W Unit} (hx : Oblivious R x) (env : Env W) (s : State W)
    (l : Ledger) {w : W} (h : R s.world w) :
    (Rendering.of env (x.run s l)).Alike R (Rendering.of env (x.run { s with world := w } l)) := by
  obtain ⟨r, t, m, v, hv, hs, hw⟩ := hx s l w h
  rw [hs, hw]
  cases r with
  | ok _ => exact ⟨rfl, rfl, rfl, hv⟩
  | error f => exact ⟨rfl, rfl, rfl, hv⟩

/-- A template sees of the world what its commands see of it. -/
theorem Set.render_oblivious {R : W → W → Prop} (set : Set) {commands : Commands W}
    (hc : ∀ x ∈ commands, x.2.Oblivious R) (context : List (String × Json)) (t : Template) {a b : W} (h : R a b) :
    (set.render commands context t a).Alike R (set.render commands context t b) := by
  have henv := Registry.Oblivious.library.register hc
  exact Rendering.of_oblivious ((Env.obliviousAt henv maxDepth).body _) _ _ ⟨[], []⟩ h

end Template

/-- A command hears nothing of the journal that it is heard by. -/
theorem Command.handler_oblivious (c : Script.Command) :
    (Command.handler c).Oblivious fun (a b : Command.Stage) => a.1 = b.1 := by
  have hinvoke (args : List Json) (a b : Command.Stage) (h : a.1 = b.1) :
      (Command.invoke c args a).1 = (Command.invoke c args b).1 ∧
        (Command.invoke c args a).2.1 = (Command.invoke c args b).2.1 := by
    obtain ⟨host, j⟩ := a
    obtain ⟨host', k⟩ := b
    cases h
    exact ⟨rfl, rfl⟩
  exact ⟨fun v args => hinvoke _, fun args => hinvoke _⟩

namespace Renderer

/-- What a template comes to does not depend on what has been reported before. -/
theorem Prepared.rendering_oblivious (p : Prepared) (context : List (String × Json)) (t : Template)
    (host : Script.Host) (j k : Journal) :
    (p.rendering context t (host, j)).Alike (fun a b => a.1 = b.1) (p.rendering context t (host, k)) := by
  refine Template.Set.render_oblivious p.set (fun x hx => ?_) context _ rfl
  obtain ⟨⟨name, c⟩, -, rfl⟩ := List.mem_map.mp hx
  exact Command.handler_oblivious c

end Renderer
end ApiStencil
