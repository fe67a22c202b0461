/-!
The time limit of a host. Its runs share one deadline, which is set when a script begins to be executed and taken away
when that is over, however it has ended.
-/
set_option autoImplicit false

namespace ApiStencil.Script

/-- How long a run may take, and the instant at which the time of the present one is up. Times are in nanoseconds. -/
structure Watchdog where
  timeout : Option Nat
  deadline : Option Nat

namespace Watchdog

def nanoseconds (ms : Nat) : Nat := ms * 1000000

def new (timeoutMs : Option Nat) : Watchdog := ⟨timeoutMs.map nanoseconds, none⟩

def arm (w : Watchdog) (now : Nat) : Watchdog :=
  match w.timeout with
  | some timeout => { w with deadline := some (now + timeout) }
  | none => w

def expired (w : Watchdog) (now : Nat) : Bool := w.deadline.any (· ≤ now)

/-- What is left of the deadline when a run is over. -/
def release (w : Watchdog) : Watchdog := { w with deadline := none }

@[simp] theorem timeout_arm (w : Watchdog) (now : Nat) : (w.arm now).timeout = w.timeout := by
  unfold arm
  split <;> rfl

@[simp] theorem timeout_release (w : Watchdog) : w.release.timeout = w.timeout := rfl

@[simp] theorem deadline_release (w : Watchdog) : w.release.deadline = none := rfl

/-- Where nothing is left of former runs, the deadline goes by the present one. -/
theorem deadline_arm {w : Watchdog} (h : w.deadline = none) (now : Nat) :
    (w.arm now).deadline = w.timeout.map (now + ·) := by
  unfold arm
  split
  · rename_i timeout htimeout
    rw [htimeout, Option.map_some]
  · rename_i htimeout
    rw [htimeout, h, Option.map_none]

end Watchdog
end ApiStencil.Script
