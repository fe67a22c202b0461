import ApiStencil.Proofs.Thrown
/-!
Lines of the console. A method of the console puts its arguments into words one after another and writes them as one
line. An argument has the words of its JSON text, or of the text that it is turned into, or none; the code of the
script that is run for them may do and throw what it likes, the method returns.
-/
set_option autoImplicit false

namespace ApiStencil.Script

namespace Library.Notation
open Script.Units

end Library.Notation

namespace M

variable {α β : Type}

/-- Whatever the step gives is so. -/
def Only (P : α → Prop) (x : M α) : Prop := ∀ (l : Links) (s : Store) (a : α) (t : Store), (x l).run s = (.ok a, t) → P a

namespace Only

variable {P : α → Prop} {Q : β → Prop} {x : M α}

theorem pure {a : α} (h : P a) : Only P (Pure.pure a) := by
  intro l s b t hb
  cases hb
  exact h

theorem bind {f : α → M β} (hx : Only P x) (hf : ∀ a, P a → Only Q (f a)) : Only Q (x >>= f) := by
  intro l s b u hb
  obtain ⟨a, t, ha, hb⟩ := bind_run_eq_ok hb
  exact hf a (hx l s a t ha) l t b u hb

theorem bind_right {f : α → M β} (hf : ∀ a, Only Q (f a)) : Only Q (x >>= f) := by
  intro l s b u hb
  obtain ⟨a, t, -, hb⟩ := bind_run_eq_ok hb
  exact hf a l t b u hb

theorem ite {c : Prop} [Decidable c] {y : M α} (hx : Only P x) (hy : Only P y) : Only P (if c then x else y) := by
  split
  · exact hx
  · exact hy

theorem mapM {f : α → M β} (hf : ∀ a, Only Q (f a)) (as : List α) : Only (fun bs => ∀ b ∈ bs, Q b) (as.mapM f) := by
  induction as with
  | nil => exact .pure nofun
  | cons a as ih =>
    rw [List.mapM_cons]
    exact (hf a).bind fun b hb => ih.bind fun bs hbs => .pure (List.forall_mem_cons.mpr ⟨hb, hbs⟩)

theorem filterMapM {f : α → M (Option β)} (hf : ∀ a, Only (fun b => ∀ c ∈ b, Q c) (f a)) (as : List α) :
    Only (fun bs => ∀ b ∈ bs, Q b) (as.filterMapM f) := by
  induction as with
  | nil => exact .pure nofun
  | cons a as ih =>
    rw [List.filterMapM_cons]
    refine (hf a).bind fun b hb => ?_
    cases b with
    | none => exact ih
    | some b => exact ih.bind fun bs hbs => .pure (List.forall_mem_cons.mpr ⟨hb b rfl, hbs⟩)

end Only
end M

namespace Library.Notation
open M Script.Units

/-- The JSON text of a value, as a script gets it. -/
def jsonOf (v : Value) : M Value := stringify ⟨.undefined, [v], .undefined, []⟩

theorem jsonOf_eq (v : Value) :
    jsonOf v = (do
      match ← textOf plainStyle v with
      | some u => return .text u
      | none => return .undefined) := by
  have hcallable : isCallable .undefined = pure false := rfl
  have harray : Arrays.isArray .undefined = pure false := rfl
  have hgap : gapOf .undefined = pure #[] := rfl
  unfold jsonOf stringify
  simp [Call.arg, hcallable, harray, hgap, plainStyle]
  rfl

end Library.Notation

namespace Library.Globals
open M Notation

section Wording

variable (l : Links)

/-- `JSON.stringify` gives no text of a value, or fails. -/
inductive Unwritten (v : Value) (s : Store) : Store → Prop where
  | nothing {t : Store} (h : (jsonOf v l).run s = (.ok .undefined, t)) : Unwritten v s t
  | failed {a : Abrupt} {t : Store} (h : (jsonOf v l).run s = (.error a, t)) : Unwritten v s (t.afterEnd a)

/-- How a value is put into words: as its JSON text if there is one, else as the text that it is turned into, else as
`undefined`, when that fails, or gives half a pair of surrogates that no line can hold. -/
inductive Worded (v : Value) (s : Store) : String → Store → Prop where
  | json {text : String} {t : Store} (h : (jsonOf v l).run s = (.ok (.text (txt text)), t)) : Worded v s text t
  | coerced {text : String} {t u : Store} (hjson : Unwritten l v s t) (h : (toText v l).run t = (.ok (txt text), u)) :
    Worded v s text u
  | failed {a : Abrupt} {t u : Store} (hjson : Unwritten l v s t) (h : (toText v l).run t = (.error a, u)) :
    Worded v s "undefined" (u.afterEnd a)
  | torn {w : Units} {t u : Store} (hjson : Unwritten l v s t) (h : (toText v l).run t = (.ok w, u)) (hw : ¬w.Whole) :
    Worded v s "undefined" u

/-- Values are put into words one after another, each with what the one before has left. -/
inductive Says : List Value → Store → List String → Store → Prop where
  | nil (s : Store) : Says [] s [] s
  | cons {v : Value} {vs : List Value} {s t u : Store} {text : String} {texts : List String} (h : Worded l v s text t)
    (rest : Says vs t texts u) : Says (v :: vs) s (text :: texts) u

variable {l} {v : Value} {s t u : Store} {text : String}

theorem consoleText_eq (v : Value) :
    consoleText v = (do
      match ← settled (jsonOf v) with
      | .fulfilled (.text u) => return u.toText
      | _ => plainText v) := by
  rw [jsonOf_eq]
  rfl

theorem consoleText_run_of_unwritten (h : Unwritten l v s t) :
    (consoleText v l).run s = (plainText v l).run t := by
  rw [consoleText_eq, bind_run]
  cases h with
  | nothing h => rw [settled_run_ok h]
  | failed h =>
    obtain ⟨p, hp, hnot⟩ := settled_run_error h
    rw [hp]
    cases p with
    | fulfilled v => exact absurd rfl (hnot v)
    | _ => rfl

theorem plainText_run_ok {w : Units} (h : (toText v l).run t = (.ok w, u)) :
    (plainText v l).run t = (.ok (if w.points.all Nat.isValidChar then w.toText else "undefined"), u) := by
  have htext : ((do return .text (← toText v) : M Value) l).run t = (.ok (.text w), u) := by
    rw [bind_run, h]
    rfl
  rw [plainText, bind_run, settled_run_ok htext]
  rfl

theorem plainText_run_error {a : Abrupt} (h : (toText v l).run t = (.error a, u)) :
    (plainText v l).run t = (.ok "undefined", u.afterEnd a) := by
  have htext : ((do return .text (← toText v) : M Value) l).run t = (.error a, u) := by rw [bind_run, h]
  obtain ⟨p, hp, hnot⟩ := settled_run_error htext
  rw [plainText, bind_run, hp]
  cases p with
  | fulfilled v => exact absurd rfl (hnot v)
  | _ => rfl

theorem Worded.run (h : Worded l v s text t) : (consoleText v l).run s = (.ok text, t) := by
  cases h with
  | json h =>
    rw [consoleText_eq, bind_run, settled_run_ok h]
    exact congrArg (fun text => (Except.ok text, t)) (Units.toText_txt text)
  | coerced hjson h =>
    rw [consoleText_run_of_unwritten hjson, plainText_run_ok h, if_pos ((Units.whole_iff _).mp (Units.whole_txt text)),
      Units.toText_txt]
  | failed hjson h => rw [consoleText_run_of_unwritten hjson, plainText_run_error h]
  | torn hjson h hw =>
    rw [consoleText_run_of_unwritten hjson, plainText_run_ok h, if_neg fun hall => hw ((Units.whole_iff _).mpr hall)]

theorem Says.run {vs : List Value} {texts : List String} (h : Says l vs s texts t) :
    (vs.mapM consoleText l).run s = (.ok texts, t) := by
  induction h with
  | nil s => rfl
  | cons h _ ih =>
    rw [List.mapM_cons, bind_run, h.run]
    dsimp only
    rw [bind_run, ih]
    rfl

end Wording

/-- The method of the console for a level. -/
def method (level : Console.Level) : Native := .listed (.fixture .console) level.name 0 (write level)

end Library.Globals

namespace Library

end Library

end ApiStencil.Script
