import ApiStencil.Proofs.CodeUnits
import ApiStencil.Proofs.Registering
/-!
What is told of a value that a script throws. It is the text that `String` makes of the value, as long as the value
is no symbol: one of these is turned into a text like any other value, which fails.
-/
set_option autoImplicit false

namespace ApiStencil.Script

/-- What is there when an end has been taken for an outcome; that time is up is not heeded then. -/
def Store.afterEnd (s : Store) : Abrupt → Store
  | .interrupted => { s with unheeded := true }
  | _ => s

namespace M

variable {x : M Value} {l : Links} {s t : Store}

theorem settled_run_ok {v : Value} (h : (x l).run s = (.ok v, t)) :
    (settled x l).run s = (.ok (.fulfilled v), t) := by
  have houtcome : ((x l).outcome).run s = (.ok (.ok v), t) := by simp only [Exec.outcome, h]
  rw [settled, bind_run, houtcome]
  rfl

theorem settled_run_error {a : Abrupt} (h : (x l).run s = (.error a, t)) :
    ∃ p, (settled x l).run s = (.ok p, t.afterEnd a) ∧ ∀ v, p ≠ .fulfilled v := by
  have houtcome : ((x l).outcome).run s = (.ok (.error a), t.afterEnd a) := by
    simp only [Exec.outcome, h]
    cases a <;> rfl
  rw [settled, bind_run, houtcome]
  cases a <;> refine ⟨_, rfl, fun v hv => ?_⟩ <;> cases hv

end M

namespace Realm

/-- What `String` makes of a value. -/
def stringOf (v : Value) : M Value := Library.Texts.make ⟨.undefined, [v], .undefined, []⟩

/-- Of this value `String` makes this text, in this store. -/
def Reads (s : Store) (v : Value) (text : String) : Prop := ∃ t, (stringOf v links).run s = (.ok (.text (txt text)), t)

def IsSymbol (v : Value) : Prop := ∃ n, v = .symbol n

theorem stringOf_of_not {v : Value} (hv : ¬IsSymbol v) : stringOf v = do return .text (← M.toText v) := by
  cases v with
  | symbol n => exact absurd ⟨n, rfl⟩ hv
  | _ => rfl

/-- A symbol has a text, too. -/
theorem reads_symbol {n : Nat} {s : Store} {i : SymbolInfo} {text : String} (hn : s.symbols[n]? = some i)
    (hd : i.description.getD #[] = txt text) : Reads s (.symbol n) ("Symbol(" ++ text ++ ")") := by
  refine ⟨s, ?_⟩
  show (Except.ok (Value.text (txt "Symbol(" ++ ((s.symbols[n]?).bind (·.description)).getD #[] ++ txt ")")), s) = _
  rw [hn, Option.bind_some, hd]
  refine congrArg (fun u => (Except.ok (Value.text u), s)) (Array.toList_inj.mp ?_)
  simp [Units.toList_txt, List.flatMap_append]

theorem describe_of_reads {v : Value} {text : String} {s : Store} (hv : ¬IsSymbol v) (h : Reads s v text) :
    ∃ t, (describe v links).run s = (.ok text, t) := by
  obtain ⟨t, ht⟩ := h
  rw [stringOf_of_not hv] at ht
  refine ⟨t, ?_⟩
  rw [describe, M.bind_run, M.settled_run_ok ht]
  show (Except.ok (txt text).toText, t) = _
  rw [Units.toText_txt]

theorem describe_symbol (n : Nat) (s : Store) : ∃ t, (describe (.symbol n) links).run s = (.ok unnamed, t) := by
  have hbreaks : (M.toText (.symbol n)).Breaks := M.breaks_fail _ _
  obtain ⟨a, t, ha⟩ := hbreaks.bind_left (fun u => pure (Value.text u)) links s
  obtain ⟨p, hp, hnot⟩ := M.settled_run_error ha
  refine ⟨t.afterEnd a, ?_⟩
  rw [describe, M.bind_run, hp]
  cases p with
  | fulfilled v => exact absurd rfl (hnot v)
  | _ => rfl

section Finish

variable {α : Type} {v : Value} {s : Store}

theorem finish_thrown {text : String} {t : Store} (h : (describe v links).run s = (.ok text, t)) :
    (finish ((.error (.thrown v), s) : Except Abrupt α × Store)).1 = .error text := by
  have hexplain : (explain (.thrown v) links).run s = (describe v links).run s := rfl
  simp only [finish, hexplain, h]
  rfl

/-- Of a thrown value that is no symbol its text is told. -/
theorem finish_of_reads {text : String} (hv : ¬IsSymbol v) (h : Reads s v text) :
    (finish ((.error (.thrown v), s) : Except Abrupt α × Store)).1 = .error text := by
  obtain ⟨t, ht⟩ := describe_of_reads hv h
  exact finish_thrown ht

/-- Of a thrown symbol nothing is told. -/
theorem finish_symbol (hv : IsSymbol v) :
    (finish ((.error (.thrown v), s) : Except Abrupt α × Store)).1 = .error unnamed := by
  obtain ⟨n, rfl⟩ := hv
  obtain ⟨t, ht⟩ := describe_symbol n s
  exact finish_thrown ht

end Finish

end Realm

namespace Host

variable {h : Host} {message : String}

theorem load_of_finish {script : Path} {source text : String} (w : World) (htext : h.transform script source = .ok text)
    (hrun : (Realm.finish (Realm.perform h.timeoutMs Realm.fresh (Realm.runScript text))).1 = .error message) :
    ((h.load script source).on w).1 = .error (.scriptLoad script message) := by
  have hstart : (Realm.start h.timeoutMs text).1 = .error message := by
    rw [Realm.start_eq]
    simp only [Realm.started, hrun, Except.map]
  rw [load_ended w htext (Prod.ext hstart rfl)]

theorem call_of_finish {c : Command} {r : Realm} {args : List Json} (hr : h.realms[c.realm]? = some r)
    (hrun : (Realm.finish (Realm.perform h.timeoutMs r.store (Realm.callSlot c.slot args))).1 = .error message) :
    (h.call c args).1 = .error (.scriptCall c.name c.script message) := by
  have hfailed : (h.handle c args).1 = .error ⟨c.name, c.script, message⟩ := by
    simp only [handle, handleUntil, hr]
    exact congrArg (Except.mapError _) hrun
  exact congrArg (Except.mapError CallFailure.error) hfailed

/-- When a script or a command throws a value of which `String` makes a text, and which is no symbol, the load or the
call fails with that text. -/
theorem thrown_told (h : Host) {v : Value} {s : Store} {message : String} (hv : ¬Realm.IsSymbol v)
    (hreads : Realm.Reads s v message) :
    (∀ (script : Path) (source text : String) (w : World), h.transform script source = .ok text →
      Realm.perform h.timeoutMs Realm.fresh (Realm.runScript text) = (.error (.thrown v), s) →
      ((h.load script source).on w).1 = .error (.scriptLoad script message)) ∧
    ∀ (c : Command) (r : Realm) (args : List Json), h.realms[c.realm]? = some r →
      Realm.perform h.timeoutMs r.store (Realm.callSlot c.slot args) = (.error (.thrown v), s) →
      (h.call c args).1 = .error (.scriptCall c.name c.script message) := by
  refine ⟨fun script source text w htext hrun => load_of_finish w htext ?_, fun c r args hr hrun => call_of_finish hr ?_⟩
  · rw [hrun]
    exact Realm.finish_of_reads hv hreads
  · rw [hrun]
    exact Realm.finish_of_reads hv hreads

/-- Whether a run has ended with an object thrown, of which `String` makes this text. -/
def throwsObject (run : Except Abrupt Unit × Store) (text : String) : Bool :=
  match run with
  | (.error (.thrown (.object r)), s) =>
    match ((Realm.stringOf (.object r) Realm.links).run s).1 with
    | .ok (.text u) => u == txt text
    | _ => false
  | _ => false

/-- A script that throws an object with a text of its own. -/
def speaking : String := "throw \x7b toString() \x7b return 'told' \x7d \x7d"

set_option maxRecDepth 100000 in
theorem speaking_throws :
    throwsObject (Realm.perform plain.timeoutMs Realm.fresh (Realm.runScript speaking)) "told" = true := by
  rw [Realm.fresh_stocked]
  decide +kernel

theorem of_throwsObject {run : Except Abrupt Unit × Store} {text : String} (h : throwsObject run text = true) :
    ∃ v s, run = (.error (.thrown v), s) ∧ ¬Realm.IsSymbol v ∧ Realm.Reads s v text := by
  unfold throwsObject at h
  split at h
  · rename_i r s
    refine ⟨_, s, rfl, nofun, ?_⟩
    rcases hs : (Realm.stringOf (.object r) Realm.links).run s with ⟨x, t⟩
    rw [hs] at h
    split at h
    · rename_i u hx
      obtain rfl : x = .ok (.text u) := hx
      exact ⟨t, by rw [hs, beq_iff_eq.mp h]⟩
    · exact absurd h (by simp)
  · exact absurd h (by simp)

theorem speaking_told : ∃ v s, ¬Realm.IsSymbol v ∧ Realm.Reads s v "told" ∧
    Realm.perform plain.timeoutMs Realm.fresh (Realm.runScript speaking) = (.error (.thrown v), s) ∧
    ((plain.load ⟨[]⟩ speaking).on nowhere).1 = .error (.scriptLoad ⟨[]⟩ "told") := by
  obtain ⟨v, s, hrun, hv, hreads⟩ := of_throwsObject speaking_throws
  exact ⟨v, s, hv, hreads, hrun, (thrown_told plain hv hreads).1 ⟨[]⟩ speaking speaking nowhere rfl hrun⟩

/-- Whether a run has ended with a symbol thrown that has this description. -/
def throwsSymbol (run : Except Abrupt Unit × Store) (text : String) : Bool :=
  match run with
  | (.error (.thrown (.symbol n)), s) => s.symbols[n]?.any fun i => i.description == some (txt text)
  | _ => false

set_option maxRecDepth 100000 in
theorem symbol_throws :
    throwsSymbol (Realm.perform plain.timeoutMs Realm.fresh (Realm.runScript "throw Symbol('x')")) "x" = true := by
  rw [Realm.fresh_stocked]
  decide +kernel

theorem of_throwsSymbol {run : Except Abrupt Unit × Store} {text : String} (h : throwsSymbol run text = true) :
    ∃ v s, run = (.error (.thrown v), s) ∧ Realm.IsSymbol v ∧ Realm.Reads s v ("Symbol(" ++ text ++ ")") := by
  unfold throwsSymbol at h
  split at h
  · rename_i n s
    obtain ⟨i, hi, hd⟩ := (Option.any_eq_true ..).mp h
    refine ⟨_, s, rfl, ⟨n, rfl⟩, Realm.reads_symbol hi ?_⟩
    rw [beq_iff_eq.mp hd]
    rfl
  · exact absurd h (by simp)

/-- Of a symbol `String` makes a text that is not told. -/
theorem symbol_untold : ∃ v s,
    Realm.perform plain.timeoutMs Realm.fresh (Realm.runScript "throw Symbol('x')") = (.error (.thrown v), s) ∧
    Realm.Reads s v "Symbol(x)" ∧
    ∃ message, ((plain.load ⟨[]⟩ "throw Symbol('x')").on nowhere).1 = .error (.scriptLoad ⟨[]⟩ message) ∧
      message ≠ "Symbol(x)" := by
  obtain ⟨v, s, hrun, hv, hreads⟩ := of_throwsSymbol symbol_throws
  refine ⟨v, s, hrun, hreads, Realm.unnamed, load_of_finish nowhere rfl ?_, by decide⟩
  rw [hrun]
  exact Realm.finish_symbol hv

end Host

end ApiStencil.Script
