import Mathlib.Data.Nat.Find
import Mathlib.Order.Monotone.Basic
import ApiStencil.Proofs.Deadlines
import ApiStencil.Proofs.Sessions
import ApiStencil.Script.Watchdog
/-!
Runs of a host one after another, each with a clock of its own. Whatever has been run before and for however long,
nothing is left of its deadline, so the time of a run is up when it has itself taken as long as it may.
-/
set_option autoImplicit false

namespace ApiStencil.Script

/-- The instants at which a run begins and comes to each of its polls. -/
structure Clock where
  instant : Nat → Nat
  forward : Monotone instant

namespace Watchdog

open Classical in
/-- The first poll at which the deadline is past, if a run ever comes to it. -/
noncomputable def countdown (w : Watchdog) (c : Clock) : Option Nat :=
  if h : ∃ n, 0 < n ∧ w.expired (c.instant n) = true then some (Nat.find h) else none

variable {w : Watchdog} {c : Clock}

theorem expired_mono {m n : Nat} (hmn : m ≤ n) (h : w.expired (c.instant m) = true) : w.expired (c.instant n) = true := by
  obtain ⟨d, hd, hle⟩ := (Option.any_eq_true _ _).mp h
  exact (Option.any_eq_true _ _).mpr ⟨d, hd, decide_eq_true ((of_decide_eq_true hle).trans (c.forward hmn))⟩

/-- A run finds its time up at the polls at which the deadline is past. -/
theorem countdown_any {n : Nat} (hn : 0 < n) : (w.countdown c).any (· ≤ n) = w.expired (c.instant n) := by
  rw [Bool.eq_iff_iff]
  unfold countdown
  split
  · rename_i h
    rw [Option.any_some, decide_eq_true_eq]
    exact ⟨fun hle => expired_mono hle (Nat.find_spec h).2, fun hup => Nat.find_le ⟨hn, hup⟩⟩
  · rename_i h
    exact ⟨nofun, fun hup => absurd ⟨n, hn, hup⟩ h⟩

theorem countdown_pos : ∀ n ∈ w.countdown c, 0 < n := by
  intro n hn
  unfold countdown at hn
  split at hn
  · rename_i h
    obtain rfl := Option.some.inj hn
    exact (Nat.find_spec h).1
  · cases hn

/-- A countdown is told by the polls at which it is over. -/
theorem countdown_eq {limit : Option Nat} (hpos : ∀ n ∈ limit, 0 < n)
    (h : ∀ n, 0 < n → limit.any (· ≤ n) = w.expired (c.instant n)) : w.countdown c = limit := by
  have hsame {n : Nat} (hn : 0 < n) : (∃ m ∈ w.countdown c, m ≤ n) ↔ ∃ m ∈ limit, m ≤ n := by
    have hany := Bool.eq_iff_iff.mp ((countdown_any hn).trans (h n hn).symm)
    simpa only [Option.any_eq_true, decide_eq_true_eq, Option.mem_def] using hany
  cases hcount : w.countdown c with
  | none =>
    rw [hcount] at hsame
    cases hlimit : limit with
    | none => rfl
    | some n =>
      have hno := (hsame (hpos n hlimit)).mpr ⟨n, hlimit, Nat.le_refl n⟩
      simp at hno
  | some m =>
    have hm := countdown_pos m hcount
    obtain ⟨n, hn, hle⟩ := (hsame hm).mp ⟨m, hcount, Nat.le_refl m⟩
    obtain ⟨m', hm', hge⟩ := (hsame (hpos n hn)).mpr ⟨n, hn, Nat.le_refl n⟩
    obtain rfl := Option.some.inj (hcount.symm.trans hm')
    rw [hn, Nat.le_antisymm hle hge]

/-- What counts is how long a run takes and how long it may, and not when it has begun. -/
theorem countdown_arm_eq {w' : Watchdog} {c' : Clock} (hnone : w.deadline = none) (hnone' : w'.deadline = none)
    (htimeout : w'.timeout = w.timeout)
    (helapsed : ∀ n, c'.instant n - c'.instant 0 = c.instant n - c.instant 0) :
    (w'.arm (c'.instant 0)).countdown c' = (w.arm (c.instant 0)).countdown c := by
  refine countdown_eq countdown_pos fun n hn => ?_
  rw [countdown_any hn, expired, expired, deadline_arm hnone, deadline_arm hnone', htimeout]
  cases w.timeout with
  | none => rfl
  | some timeout =>
    have h := helapsed n
    have hle := c.forward (Nat.zero_le n)
    have hle' := c'.forward (Nat.zero_le n)
    have hiff : c.instant 0 + timeout ≤ c.instant n ↔ c'.instant 0 + timeout ≤ c'.instant n := by omega
    simp [hiff]

end Watchdog

/-- A clock that shows the end of a time limit when the budget of a run is spent. -/
def Clock.steady (start timeout : Nat) : Clock where
  instant n := start + n * timeout / Realm.budget
  forward _ _ h := Nat.add_le_add_left (Nat.div_le_div_right (Nat.mul_le_mul_right timeout h)) start

theorem Clock.elapsed_steady (start timeout n : Nat) :
    (steady start timeout).instant n - (steady start timeout).instant 0 = n * timeout / Realm.budget := by
  simp only [steady, Nat.zero_mul, Nat.zero_div, Nat.add_zero, Nat.add_sub_cancel_left]

theorem Clock.steady_over {timeout n : Nat} (hn : 0 < n) (budget : Nat) (hbudget : 0 < budget) :
    timeout ≤ n * timeout / budget ↔ (if timeout = 0 then 1 else budget) ≤ n := by
  rw [Nat.le_div_iff_mul_le hbudget, Nat.mul_comm n]
  split
  · rename_i hzero
    simpa [hzero] using Nat.one_le_of_lt hn
  · rename_i hsome
    exact Nat.mul_le_mul_left_iff (Nat.pos_of_ne_zero hsome)

/-- A host runs scripts and calls commands by such a clock. -/
theorem Watchdog.countdown_steady (timeoutMs : Option Nat) (start : Nat) :
    ((new timeoutMs).arm start).countdown (.steady start ((new timeoutMs).timeout.getD 0)) = Realm.limit timeoutMs := by
  refine countdown_eq (Realm.limit_pos timeoutMs) fun n hn => ?_
  rw [expired, deadline_arm rfl]
  cases timeoutMs with
  | none => rfl
  | some ms =>
    have hover : Watchdog.nanoseconds ms ≤ n * (Watchdog.nanoseconds ms) / Realm.budget ↔
        (if Watchdog.nanoseconds ms = 0 then 1 else Realm.budget) ≤ n := Clock.steady_over hn Realm.budget (by decide)
    have hzero : nanoseconds ms = 0 ↔ ms = 0 := by rw [nanoseconds]; omega
    rw [new, Realm.limit, Option.map_some, Option.map_some, Option.map_some, Option.getD_some, Option.any_some,
      Option.any_some, decide_eq_decide, Clock.steady]
    dsimp only
    rw [Nat.add_le_add_iff_left, hover]
    simp only [hzero]

/-- What a host is asked to do. -/
inductive Turn where
  | load (script : Path) (source : String)
  | call (command : Command) (args : List Json)

/-- Since when the code of a script has been executed, if it is, and the deadline meanwhile. -/
structure Moment where
  since : Option Nat
  deadline : Option Nat

/-- A host, and the deadline that its runs share. -/
structure Watched where
  host : Host
  watchdog : Watchdog

namespace Watched

def new (h : Host) : Watched := ⟨h, .new h.timeoutMs⟩

/-- A text that the host refuses is not executed. -/
def executes (w : Watched) : Turn → Bool
  | .load script source => (w.host.transform script source).isOk
  | .call _ _ => true

/-- What code is executed by a clock: the answer and what is reported, and the host behind it. -/
noncomputable def execute (armed : Watchdog) (c : Clock) (h : Host) : Turn → Answer × Journal × Host
  | .load script source =>
    let (answer, report, _, k) := h.loadingUntil (armed.countdown c) script source
    (answer, report, k)
  | .call command args =>
    let (outcome, lines, k) := h.callUntil (armed.countdown c) command args
    (.called outcome, Journal.empty.hear h.sink lines, k)

/-- The deadline is set before any code of a script is executed. -/
def armed (w : Watched) (c : Clock) (t : Turn) : Watchdog :=
  if w.executes t then w.watchdog.arm (c.instant 0) else w.watchdog

/-- The deadline is taken away when the code has been executed, whatever has become of it. -/
noncomputable def turn (w : Watched) (c : Clock) (t : Turn) : Answer × Journal × Watched :=
  let (answer, report, host) := execute (w.armed c t) c w.host t
  (answer, report, ⟨host, if w.executes t then (w.armed c t).release else w.watchdog⟩)

/-- The deadline while a turn executes code. -/
def during (w : Watched) (c : Clock) (t : Turn) : List Moment :=
  if w.executes t then [⟨some (c.instant 0), (w.armed c t).deadline⟩] else []

noncomputable def after (w : Watched) : List (Clock × Turn) → Watched
  | [] => w
  | (c, t) :: rest => (w.turn c t).2.2.after rest

/-- The deadline before, between and behind some turns, and during each of them. -/
noncomputable def moments (w : Watched) : List (Clock × Turn) → List Moment
  | [] => [⟨none, w.watchdog.deadline⟩]
  | (c, t) :: rest => ⟨none, w.watchdog.deadline⟩ :: w.during c t ++ (w.turn c t).2.2.moments rest

/-- Between two turns there is the time limit of the host, and no deadline. -/
structure Idle (h : Host) (w : Watched) : Prop where
  settings : w.host.settings = h.settings
  timeout : w.watchdog.timeout = (Watchdog.new h.timeoutMs).timeout
  deadline : w.watchdog.deadline = none

theorem idle_new (h : Host) : Idle h (new h) := ⟨rfl, rfl, rfl⟩

theorem settings_execute (armed : Watchdog) (c : Clock) (h : Host) (t : Turn) :
    (execute armed c h t).2.2.settings = h.settings := by
  cases t with
  | load script source =>
    obtain ⟨_, _, hload, -⟩ | ⟨_, _, _, _, hload, -⟩ :=
      Host.loadingUntil_of_settings (Eq.refl h.settings) (armed.countdown c) script source
    · simp only [execute, hload]
    · simp only [execute, hload]
      rfl
  | call command args => exact h.settings_callUntil command args _

section Idle

variable {h : Host} {w : Watched} (hw : Idle h w)

include hw

theorem Idle.turn (c : Clock) (t : Turn) : Idle h (w.turn c t).2.2 := by
  refine ⟨(settings_execute _ c w.host t).trans hw.settings, ?_, ?_⟩
  · show (if w.executes t then (w.armed c t).release else w.watchdog).timeout = _
    split
    · rename_i he
      rw [Watchdog.timeout_release, armed, if_pos he, Watchdog.timeout_arm, hw.timeout]
    · exact hw.timeout
  · show (if w.executes t then (w.armed c t).release else w.watchdog).deadline = none
    split
    · rfl
    · exact hw.deadline

theorem Idle.after (past : List (Clock × Turn)) : Idle h (w.after past) := by
  induction past generalizing w with
  | nil => exact hw
  | cons x past ih => exact ih (hw.turn x.1 x.2)

theorem Idle.deadline_armed {t : Turn} (he : w.executes t = true) (c : Clock) :
    (w.armed c t).deadline = h.timeoutMs.map fun ms => c.instant 0 + Watchdog.nanoseconds ms := by
  rw [armed, if_pos he, Watchdog.deadline_arm hw.deadline, hw.timeout, Watchdog.new]
  rw [Option.map_map, Function.comp_def]

/-- While code is executed the deadline goes by when that has begun; at other times there is none. -/
theorem Idle.moments (past : List (Clock × Turn)) : ∀ m ∈ w.moments past,
    m.deadline = m.since.bind fun start => h.timeoutMs.map fun ms => start + Watchdog.nanoseconds ms := by
  induction past generalizing w with
  | nil =>
    intro m hm
    obtain rfl := List.mem_singleton.mp hm
    exact hw.deadline
  | cons x past ih =>
    obtain ⟨c, t⟩ := x
    intro m hm
    rw [Watched.moments, List.cons_append, List.mem_cons, List.mem_append] at hm
    rcases hm with rfl | hm | hm
    · exact hw.deadline
    · unfold during at hm
      split at hm
      · rename_i he
        obtain rfl := List.mem_singleton.mp hm
        exact hw.deadline_armed he c
      · cases hm
    · exact ih (hw.turn c t) m hm

/-- No step of a script moves the deadline, and a step that looks at the clock finds it past when the run has taken as
long as it may. -/
theorem Idle.performs {t : Turn} (he : w.executes t = true) (c : Clock) {α : Type} (x : M α) (s : Store) {n : Nat}
    (hn : 0 < n) : (Realm.performUntil ((w.armed c t).countdown c) s x).2.deadline.any (· ≤ n) = true ↔
      ∃ ms ∈ h.timeoutMs, c.instant 0 + Watchdog.nanoseconds ms ≤ c.instant n := by
  rw [Realm.deadline_performUntil, Watchdog.countdown_any hn, Watchdog.expired, hw.deadline_armed he c,
    Option.any_map, Option.any_eq_true]
  simp only [decide_eq_true_eq, Option.mem_def]

/-- A run has as many polls as it takes to spend its time, whenever it begins. -/
theorem Idle.countdown_eq {w' : Watched} {h' : Host} (hw' : Idle h' w') (hsettings : h'.settings = h.settings) {c c' : Clock}
    (helapsed : ∀ n, c'.instant n - c'.instant 0 = c.instant n - c.instant 0) {t t' : Turn}
    (he : w'.executes t' = w.executes t) : (w'.armed c' t').countdown c' = (w.armed c t).countdown c := by
  have hlimit : h'.timeoutMs = h.timeoutMs := congrArg Prod.fst hsettings
  rw [armed, armed, he]
  split
  · refine Watchdog.countdown_arm_eq hw.deadline hw'.deadline ?_ helapsed
    rw [hw.timeout, hw'.timeout, hlimit]
  · refine Watchdog.countdown_eq Watchdog.countdown_pos fun n hn => ?_
    rw [Watchdog.countdown_any hn, Watchdog.expired, Watchdog.expired, hw.deadline, hw'.deadline]
    rfl

end Idle

/-- By a steady clock a turn is a plain load or call. -/
theorem execute_steady (h : Host) (start : Nat) (t : Turn) :
    execute ((Watchdog.new h.timeoutMs).arm start) (.steady start ((Watchdog.new h.timeoutMs).timeout.getD 0)) h t =
      match t with
      | .load script source => ((h.loading script source).1, (h.loading script source).2.1, (h.loading script source).2.2.2)
      | .call command args =>
        (.called (h.call command args).1, Journal.empty.hear h.sink (h.call command args).2.1, (h.call command args).2.2) := by
  cases t with
  | load script source => simp only [execute, Watchdog.countdown_steady, Host.loading]
  | call command args => simp only [execute, Watchdog.countdown_steady, Host.call]

/-- Two turns that ask the same of what their scripts see. -/
inductive Alike (h k : Host) : Turn → Turn → Prop where
  | load (script : Path) (source : String) : Alike h k (.load script source) (.load script source)
  | call {c d : Command} (hfacet : h.facet c = k.facet d) (args : List Json) : Alike h k (.call c args) (.call d args)

theorem Alike.executes {v w : Watched} {t u : Turn} (h : Alike v.host w.host t u)
    (hsettings : v.host.settings = w.host.settings) : v.executes t = w.executes u := by
  cases h with
  | load script source =>
    have htransform : v.host.transform = w.host.transform := congrArg (·.2.2) hsettings
    rw [Watched.executes, Watched.executes, htransform]
  | call hfacet args => rfl

theorem Alike.execute_eq {h k : Host} {t u : Turn} (hturn : Alike h k t u) (hsettings : h.settings = k.settings)
    {a b : Watchdog} {c d : Clock} (hcount : a.countdown c = b.countdown d) :
    (execute a c h t).1 = (execute b d k u).1 ∧ (execute a c h t).2.1 = (execute b d k u).2.1 := by
  cases hturn with
  | load script source =>
    obtain ⟨_, _, h₁, h₂⟩ | ⟨_, _, _, _, h₁, h₂⟩ :=
      Host.loadingUntil_of_settings hsettings (a.countdown c) script source
    · simp only [execute, ← hcount, h₁, h₂, and_self]
    · simp only [execute, ← hcount, h₁, h₂, and_self]
  | call hfacet args =>
    have hsink : h.sink = k.sink := congrArg (·.2.1) hsettings
    simp only [execute, Host.callUntil_eq, hfacet, hcount, hsink, and_self]

/-- After any turns of a host there is no deadline but while a script is executed, and then it is as far behind the
beginning as the limit of the host says, and no step of the script moves it. So a run comes to the same, whatever
has been run before on its host or on another one of the same settings, if it takes as long and its script is in the
same state. -/
theorem every_run_afresh (h : Host) (past : List (Clock × Turn)) :
    (∀ m ∈ (new h).moments past,
      m.deadline = m.since.bind fun start => h.timeoutMs.map fun ms => start + Watchdog.nanoseconds ms) ∧
    ((new h).after past).watchdog.deadline = none ∧
    (∀ (c : Clock) (t : Turn), ((new h).after past).executes t = true →
      ∀ {α : Type} (x : M α) (s : Store) (n : Nat), 0 < n →
        ((Realm.performUntil ((((new h).after past).armed c t).countdown c) s x).2.deadline.any (· ≤ n) = true ↔
          ∃ ms ∈ h.timeoutMs, c.instant 0 + Watchdog.nanoseconds ms ≤ c.instant n)) ∧
    ∀ (k : Host) (other : List (Clock × Turn)), k.settings = h.settings → ∀ (c d : Clock),
      (∀ n, d.instant n - d.instant 0 = c.instant n - c.instant 0) →
      ∀ t u, Alike ((new k).after other).host ((new h).after past).host t u →
        (((new k).after other).turn d t).1 = (((new h).after past).turn c u).1 ∧
          (((new k).after other).turn d t).2.1 = (((new h).after past).turn c u).2.1 := by
  have hidle := (idle_new h).after past
  refine ⟨(idle_new h).moments past, hidle.deadline, fun c t he α x s n hn => hidle.performs he c x s hn, ?_⟩
  intro k other hk c d helapsed t u hturn
  have hother := (idle_new k).after other
  have hsettings : ((new k).after other).host.settings = ((new h).after past).host.settings := by
    rw [hother.settings, hidle.settings, hk]
  exact hturn.execute_eq hsettings (hidle.countdown_eq hother hk helapsed (hturn.executes hsettings))

/-- A script that has been stopped when its time was up leaves as much time to the next one as if there had been none. -/
theorem overrun_forgotten :
    (((new Host.limited).after [(.steady 0 90, .load ⟨[]⟩ Host.lengthy)]).turn (.steady 100 80)
      (.load ⟨[]⟩ Host.lengthyCommand)).1 = ((new Host.limited).turn (.steady 0 80) (.load ⟨[]⟩ Host.lengthyCommand)).1 :=
  ((every_run_afresh Host.limited []).2.2.2 Host.limited [(.steady 0 90, .load ⟨[]⟩ Host.lengthy)] rfl
    (.steady 0 80) (.steady 100 80)
    (fun n => by rw [Clock.elapsed_steady, Clock.elapsed_steady]) _ _ (.load _ _)).1

end Watched
end ApiStencil.Script
