import ApiStencil.Proofs.Registering
/-!
Runs whose time is up. A step that is told so ends, and so does whatever it is a step of; only where the end of
a step is taken as its outcome may a run go on, and then it leaves a mark. A run without the mark that has been
told that its time is up has no result.
-/
set_option autoImplicit false

namespace ApiStencil.Script

/-- A step that is told that time is up, and leaves no mark, is interrupted. -/
theorem Exec.interrupted_of_late {α : Type} (x : Exec α) {s : Store} (hs : s.Prompt)
    (hlate : (x.run s).2.late = true) (hheeded : (x.run s).2.unheeded = false) :
    (x.run s).1 = .error .interrupted := by
  refine Classical.byContradiction fun hgone => ?_
  have hmarked := (x.timely s).prompt hgone hs hlate
  rw [hheeded] at hmarked
  cases hmarked

namespace M

variable {α β : Type}

/-- A step that always gives a result. -/
def Completes (x : M α) : Prop := ∀ (l : Links) (s : Store), ∃ a t, (x l).run s = (.ok a, t)

namespace Completes

theorem pure (a : α) : Completes (Pure.pure a) := fun _ s => ⟨a, s, rfl⟩

theorem bind {x : M α} {f : α → M β} (hx : x.Completes) (hf : ∀ a, (f a).Completes) : (x >>= f).Completes := by
  intro l s
  obtain ⟨a, t, h⟩ := hx l s
  obtain ⟨b, u, hu⟩ := hf a l t
  exact ⟨b, u, by rw [bind_run, h]; exact hu⟩

theorem mapM {f : α → M β} (hf : ∀ a, (f a).Completes) (as : List α) : (as.mapM f).Completes := by
  induction as with
  | nil => exact .pure []
  | cons a as ih =>
    rw [List.mapM_cons]
    exact (hf a).bind fun _ => ih.bind fun _ => .pure _

end Completes

theorem completes_outcome (x : M α) : Completes fun l => (x l).outcome := by
  intro l s
  simp only [Exec.outcome]
  split
  · exact ⟨_, _, rfl⟩
  · exact ⟨_, _, rfl⟩

theorem completes_settled (x : M Value) : (settled x).Completes := by
  refine (completes_outcome x).bind fun r => ?_
  rcases r with (_ | _ | _ | _) | _ <;> exact .pure _

theorem completes_plainText (v : Value) : (Library.Globals.plainText v).Completes := by
  refine (completes_settled _).bind fun p => ?_
  split <;> exact .pure _

theorem completes_consoleText (v : Value) : (Library.Globals.consoleText v).Completes := by
  refine (completes_settled _).bind fun p => ?_
  split
  · exact .pure _
  · exact completes_plainText v

/-- A method of the console goes well whatever the code does that puts its arguments into words, also when that
code is told that time is up. -/
theorem completes_write (level : Console.Level) (c : Call) : (Library.Globals.write level c).Completes :=
  (Completes.mapM completes_consoleText c.args).bind fun _ => .bind (fun _ _ => ⟨_, _, rfl⟩) fun _ => .pure _

end M

namespace Realm

/-- Whether a run with a time limit has asked for the time when it was up. -/
def expired (timeoutMs : Option Nat) (s : Store) : Bool :=
  (limit timeoutMs).any (· ≤ s.polls / Store.pollRound * Store.pollRound)

theorem limit_pos (timeoutMs : Option Nat) : ∀ n ∈ limit timeoutMs, 0 < n := by
  intro n hn
  obtain ⟨ms, -, rfl⟩ := Option.map_eq_some_iff.mp hn
  split
  · exact Nat.one_pos
  · exact Nat.succ_pos _

/-- Before the first poll nobody has looked at the clock. -/
theorem prompt_awakeUntil {limit : Option Nat} (hlimit : ∀ n ∈ limit, 0 < n) (s : Store) :
    (awakeUntil limit s).Prompt := by
  intro hlate
  obtain ⟨n, hn, hle⟩ := (Option.any_eq_true _ _).mp hlate
  have hpos := hlimit n hn
  simp [awakeUntil] at hle
  omega

section Perform

variable {α : Type} {timeoutMs limit : Option Nat} {s : Store} {x : M α}

/-- A run does not move the time at which it is to end. -/
theorem deadline_performUntil : (performUntil limit s x).2.deadline = limit :=
  ((x links).timely (awakeUntil limit s)).deadline

theorem late_perform : (perform timeoutMs s x).2.late = expired timeoutMs (perform timeoutMs s x).2 := by
  rw [Store.late, perform, deadline_performUntil, expired]

theorem perform_interrupted (hexpired : expired timeoutMs (perform timeoutMs s x).2 = true)
    (hheeded : (perform timeoutMs s x).2.unheeded = false) : (perform timeoutMs s x).1 = .error .interrupted :=
  (x links).interrupted_of_late (prompt_awakeUntil (limit_pos timeoutMs) s) (late_perform.trans hexpired) hheeded

end Perform

theorem finish_error {α : Type} {done : Except Abrupt α × Store} {a : Abrupt} (h : done.1 = .error a) :
    ∃ message, (finish done).1 = .error message := by
  obtain ⟨outcome, t⟩ := done
  cases h
  exact ⟨_, rfl⟩

end Realm

namespace Host

theorem call_of_error {h : Host} {c : Command} {args : List Json} {r : Realm} {message : String}
    (hr : h.realms[c.realm]? = some r) (hcall : (r.call h.timeoutMs c.slot args).1 = .error message) :
    (h.call c args).1 = .error (.scriptCall c.name c.script message) := by
  rw [Realm.call] at hcall
  simp only [call, callUntil, handleUntil, hr, hcall]
  rfl

/-- If time is up while a script is loaded, the load fails, and if it is up while a command is called, the call
fails, unless something has gone on in spite of it. -/
theorem no_result_past_deadline (h : Host) :
    (∀ script source text w, h.transform script source = .ok text →
      Realm.expired h.timeoutMs (Realm.perform h.timeoutMs Realm.fresh (Realm.runScript text)).2 = true →
      (Realm.perform h.timeoutMs Realm.fresh (Realm.runScript text)).2.unheeded = false →
        ∃ message v, (h.load script source).on w = (.error (.scriptLoad script message), v)) ∧
      ∀ c args r, h.realms[c.realm]? = some r →
        Realm.expired h.timeoutMs (Realm.perform h.timeoutMs r.store (Realm.callSlot c.slot args)).2 = true →
        (Realm.perform h.timeoutMs r.store (Realm.callSlot c.slot args)).2.unheeded = false →
          ∃ message, (h.call c args).1 = .error (.scriptCall c.name c.script message) := by
  refine ⟨fun script source text w htext hexpired hheeded => ?_, fun c args r hr hexpired hheeded => ?_⟩
  · obtain ⟨message, lines, hstart⟩ := Realm.start_of_error (Realm.perform_interrupted hexpired hheeded)
    exact ⟨message, _, load_ended w htext hstart⟩
  · obtain ⟨message, hcall⟩ := Realm.finish_error (Realm.perform_interrupted hexpired hheeded)
    exact ⟨message, call_of_error hr hcall⟩

/-- A host with a time limit that runs scripts as they are. -/
def limited : Host := .new (some 60) .records fun _ source => .ok source

/-- A text that takes up the time of a run at once. -/
def lengthy : String := "for (let i = 0; i < 25; i++) 'x'.repeat(4000000);"

def lengthyCommand : String := "registerTemplateCommand('spin', () => \x7b " ++ lengthy ++ " \x7d)"

/-- The host that has loaded the script with the command. -/
def withLengthy : Host := { limited with realms := #[Realm.kept limited.timeoutMs lengthyCommand] }

def spin : Command := ⟨"spin", ⟨[]⟩, 0, 0⟩

theorem withLengthy_realm : withLengthy.realms[spin.realm]? = some (Realm.kept limited.timeoutMs lengthyCommand) := by
  rw [withLengthy, spin, List.getElem?_toArray, List.getElem?_cons_zero]

/-- Whether time is up in a run that leaves this store, and the run has heeded it. -/
def overruns (h : Host) (s : Store) : Bool := Realm.expired h.timeoutMs s && !s.unheeded

theorem of_overruns {h : Host} {s : Store} (hs : overruns h s = true) :
    Realm.expired h.timeoutMs s = true ∧ s.unheeded = false := by
  simpa [overruns] using hs

set_option maxRecDepth 100000 in
/-- Time is up in both, while the script is loaded and while its command is called. -/
theorem lengthy_overruns :
    overruns limited (Realm.perform limited.timeoutMs Realm.fresh (Realm.runScript lengthy)).2 = true ∧
      overruns withLengthy (Realm.perform withLengthy.timeoutMs (Realm.kept limited.timeoutMs lengthyCommand).store
        (Realm.callSlot spin.slot [])).2 = true := by
  rw [Realm.kept, Realm.fresh_stocked]
  decide +kernel

/-- The load of a text that takes too long fails, and so does a call of a command that does. -/
theorem lengthy_fails :
    (∃ message v, (limited.load ⟨[]⟩ lengthy).on nowhere = (.error (.scriptLoad ⟨[]⟩ message), v)) ∧
      ∃ message, (withLengthy.call spin []).1 = .error (.scriptCall spin.name spin.script message) := by
  refine ⟨?_, ?_⟩
  · obtain ⟨hexpired, hheeded⟩ := of_overruns lengthy_overruns.1
    exact (no_result_past_deadline limited).1 ⟨[]⟩ lengthy lengthy nowhere rfl hexpired hheeded
  · obtain ⟨hexpired, hheeded⟩ := of_overruns lengthy_overruns.2
    exact (no_result_past_deadline withLengthy).2 spin [] _ withLengthy_realm hexpired hheeded

/-- A script that takes too long while the console puts an argument into words. -/
def muffling : String := "console.log(\x7b toJSON() \x7b " ++ lengthy ++ " for (;;); \x7d \x7d)"

/-- Whether a run has come to its end although time is up. -/
def outlasts (run : Except Abrupt Unit × Store) : Bool :=
  match run with
  | (.ok (), t) => Realm.expired limited.timeoutMs t
  | _ => false

theorem of_outlasts {run : Except Abrupt Unit × Store} (h : outlasts run = true) :
    run.1 = .ok () ∧ Realm.expired limited.timeoutMs run.2 = true := by
  unfold outlasts at h
  split at h
  · exact ⟨rfl, h⟩
  · cases h

set_option maxRecDepth 100000 in
theorem muffling_outlasts :
    outlasts (Realm.perform limited.timeoutMs Realm.fresh (Realm.runScript muffling)) = true := by
  rw [Realm.fresh_stocked]
  decide +kernel

/-- The load goes well although its time is up. -/
theorem muffling_loaded :
    Realm.expired limited.timeoutMs (Realm.perform limited.timeoutMs Realm.fresh (Realm.runScript muffling)).2 = true ∧
      ∃ commands k v, (limited.load ⟨[]⟩ muffling).on nowhere = (.ok (commands, k), v) := by
  obtain ⟨hok, hexpired⟩ := of_outlasts muffling_outlasts
  obtain ⟨lines, hstart⟩ := Realm.start_of_ok hok
  exact ⟨hexpired, _, _, _, load_started nowhere rfl hstart⟩

end Host

end ApiStencil.Script
