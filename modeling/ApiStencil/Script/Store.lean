import ApiStencil.Script.Console
import ApiStencil.Script.Value
/-!
What a script works on, and what no step of a script changes. The functions of commands stand in an
array that the global object leads to; whatever a script does, that array holds the functions that have
been registered, each at its place, unless the store is marked as tampered with.
-/
set_option autoImplicit false

namespace ApiStencil.Script

/-- A registration of a command that has been completed. -/
structure Registration where
  name : String
  function : Value

/-- What has become of the registrations since the last load. -/
structure Roll where
  /-- The names that the host is to hear. -/
  names : Array String
  /-- How the calls that register have ended, in that order: with a registration, or else without a result. -/
  answers : Array (Option Registration)
  agree : names = (answers.filterMap id).map (·.name)

namespace Roll

def empty : Roll := ⟨#[], #[], by simp⟩

/-- A call that registers has come to its end. -/
def add (r : Roll) (g : Registration) : Roll where
  names := r.names.push g.name
  answers := r.answers.push (some g)
  agree := by simp [r.agree]

/-- A call that registers has ended without a result. -/
def refuse (r : Roll) : Roll where
  names := r.names
  answers := r.answers.push none
  agree := by simp [r.agree]

end Roll

structure Store where
  objects : Array Obj
  scopes : Array Scope
  contexts : Array Context
  symbols : Array SymbolInfo
  /-- Symbols that are found by their name. -/
  shared : List (Units × Nat)
  /-- The objects made for tagged templates. -/
  templates : List (Nat × Nat)
  console : Array Console.Line
  roll : Roll
  /-- Whether the array of commands may hold anything but what has been registered, at its place: the
  script has changed it or what leads to it, or a registration has met an element that the array
  inherits, or a place that no array has. -/
  tampered : Bool
  /-- How often it has been asked whether time is up. -/
  polls : Nat
  /-- The count at which time is up, if there is a limit. -/
  deadline : Option Nat
  /-- Whether something has gone on although it was told that time is up. -/
  unheeded : Bool

/-- Whether an object of this kind can be called. -/
def Kind.callable : Kind → Bool
  | .closure _ | .native _ _ | .bound _ _ _ => true
  | .proxy _ _ callable _ => callable
  | _ => false

namespace Obj

/-- The place and the value of a slot. -/
def slot? (o : Obj) (k : Key) : Option (Nat × Slot) :=
  (o.slots.findIdx? fun x => x.1 == k).bind fun i => (o.slots[i]?).map fun x => (i, x.2)

/-- The name of the array that holds the functions of commands. -/
def tableKey : Key := .ofString "__templateCommands"

/-- Whether a global object leads to the array `r` of commands. -/
def leadsTo (o : Obj) (r : Nat) : Bool :=
  match o.kind, o.slot? tableKey with
  | .plain, some (_, .data (.object t) _ _ _) => t == r
  | _, _ => false

end Obj

namespace Store

def globalRef : Nat := (Intrinsic.fixture .global).ref

/-- The array that holds the functions of commands. -/
def tableRef : Nat := (Intrinsic.fixture .slots).ref

/-- Whether a change of the object `r` that has led to `objects` may have touched the commands. -/
def disturbs (objects : Array Obj) (r : Nat) : Bool :=
  r == tableRef || (r == globalRef && !objects[r]?.any (·.leadsTo tableRef))

def change (s : Store) (r : Nat) (f : Obj → Obj) : Store :=
  match s with
  | ⟨objects, scopes, contexts, symbols, shared, templates, console, roll, tampered, polls, deadline, unheeded⟩ =>
    let objects := objects.modify r f
    ⟨objects, scopes, contexts, symbols, shared, templates, console, roll,
      tampered || disturbs objects r, polls, deadline, unheeded⟩

/-- Whether an object can be called. -/
def canCall (s : Store) : Value → Bool
  | .object r => s.objects[r]?.any (·.kind.callable)
  | _ => false

/-- The registrations completed since the last load, in their order. -/
def registered (s : Store) : Array Registration := s.roll.answers.filterMap id

theorem names_eq (s : Store) : s.roll.names = s.registered.map (·.name) := s.roll.agree

/-- The functions registered since the last load. -/
def functions (s : Store) : List Value := s.registered.toList.map (·.function)

/-- How many elements an array may have. -/
def maxElements : Nat := 4294967295

/-- The array of commands holds just these functions, and the global object leads to it. -/
structure Holds (s : Store) (fs : List Value) : Prop where
  few : fs.length ≤ maxElements
  led : ∃ o, s.objects[globalRef]? = some o ∧ o.leadsTo tableRef = true
  table : ∃ o, s.objects[tableRef]? = some o ∧ o.extensible = true ∧ o.kind = .array fs.toArray
  callable : ∀ f ∈ fs, s.canCall f = true

theorem canCall_of_objects {s t : Store} (ho : t.objects = s.objects) (v : Value) : t.canCall v = s.canCall v := by
  cases v <;> simp [canCall, ho]

theorem Holds.of_objects {s t : Store} {fs : List Value} (h : s.Holds fs) (ho : t.objects = s.objects) :
    t.Holds fs := by
  refine ⟨h.few, ?_, ?_, fun f hf => by rw [canCall_of_objects ho]; exact h.callable f hf⟩
  · rw [ho]
    exact h.led
  · rw [ho]
    exact h.table

/-- What stands in the array if `later` has been registered where `earlier` stood before. -/
def overlaid (later earlier : List Value) : List Value := later ++ earlier.drop later.length

/-- Unless tampered with, the array holds what has been registered, over what stood there before. -/
def Keeps (s : Store) (earlier : List Value) : Prop :=
  s.tampered = false → s.Holds (overlaid s.functions earlier)

/-- What holds between a store and one that a script makes of it. -/
structure Follows (s t : Store) : Prop where
  answers : s.roll.answers.toList <+: t.roll.answers.toList
  tampered : t.tampered = false → s.tampered = false
  canCall : ∀ v, s.canCall v = true → t.canCall v = true
  keeps : ∀ earlier, s.Keeps earlier → t.Keeps earlier

namespace Follows

theorem refl (s : Store) : s.Follows s :=
  ⟨List.prefix_refl _, id, fun _ h => h, fun _ h => h⟩

theorem trans {s t u : Store} (h : s.Follows t) (k : t.Follows u) : s.Follows u where
  answers := h.answers.trans k.answers
  tampered := fun hu => h.tampered (k.tampered hu)
  canCall := fun v hv => k.canCall v (h.canCall v hv)
  keeps := fun earlier hs => k.keeps earlier (h.keeps earlier hs)

/-- A step that leaves objects and registrations alone. -/
theorem of_same {s t : Store} (ho : t.objects = s.objects) (hr : t.roll = s.roll)
    (ht : t.tampered = s.tampered) : s.Follows t := by
  refine ⟨hr ▸ List.prefix_refl _, fun h => by rw [← ht]; exact h,
    fun v hv => by rw [canCall_of_objects ho]; exact hv, ?_⟩
  intro earlier hs htamper
  have hf : t.functions = s.functions := by simp [functions, registered, hr]
  rw [hf]
  exact (hs (by rw [← ht]; exact htamper)).of_objects ho

end Follows

theorem canCall_change (s : Store) (r : Nat) (f : Obj → Obj)
    (hf : ∀ o, (f o).kind.callable = o.kind.callable) (v : Value) :
    (s.change r f).canCall v = s.canCall v := by
  cases v with
  | object q =>
    simp only [canCall, change, Array.getElem?_modify]
    split
    · cases s.objects[q]? <;> simp [hf]
    · rfl
  | _ => rfl

theorem Holds.change {s : Store} {fs : List Value} (h : s.Holds fs) {r : Nat} {f : Obj → Obj}
    (hf : ∀ o, (f o).kind.callable = o.kind.callable) (hd : disturbs (s.objects.modify r f) r = false) :
    (s.change r f).Holds fs := by
  simp only [disturbs, Bool.or_eq_false_iff, beq_eq_false_iff_ne, Bool.and_eq_false_iff,
    Bool.not_eq_false'] at hd
  obtain ⟨hrt, hrg⟩ := hd
  refine ⟨h.few, ?_, ?_, fun g hg => by rw [canCall_change s r f hf]; exact h.callable g hg⟩
  · show ∃ o, (s.objects.modify r f)[globalRef]? = some o ∧ _
    rcases hrg with hne | hled
    · rw [Array.getElem?_modify, if_neg hne]
      exact h.led
    · by_cases he : r = globalRef
      · subst he
        cases ho : (s.objects.modify globalRef f)[globalRef]? with
        | none => simp [ho] at hled
        | some o => exact ⟨o, rfl, by simpa [ho] using hled⟩
      · rw [Array.getElem?_modify, if_neg he]
        exact h.led
  · show ∃ o, (s.objects.modify r f)[tableRef]? = some o ∧ _
    rw [Array.getElem?_modify, if_neg hrt]
    exact h.table

theorem Follows.change (s : Store) (r : Nat) (f : Obj → Obj)
    (hf : ∀ o, (f o).kind.callable = o.kind.callable) : s.Follows (s.change r f) := by
  have ht : (s.change r f).tampered = (s.tampered || disturbs (s.objects.modify r f) r) := rfl
  refine ⟨List.prefix_refl _, ?_, fun v hv => by rw [canCall_change s r f hf]; exact hv, ?_⟩
  · intro h
    rw [ht, Bool.or_eq_false_iff] at h
    exact h.1
  · intro earlier hs h
    rw [ht, Bool.or_eq_false_iff] at h
    exact (hs h.1).change hf h.2

/-- A new object stands behind all others. -/
theorem Follows.push (s : Store) (o : Obj) : s.Follows { s with objects := s.objects.push o } := by
  have hget : ∀ (r : Nat) (p : Obj), s.objects[r]? = some p → (s.objects.push o)[r]? = some p := by
    intro r p hp
    obtain ⟨hlt, _⟩ := Array.getElem?_eq_some_iff.mp hp
    rw [Array.getElem?_push, if_neg (by omega)]
    exact hp
  have hc : ∀ v, s.canCall v = true → ({ s with objects := s.objects.push o } : Store).canCall v = true := by
    intro v hv
    cases v with
    | object r =>
      simp only [Store.canCall] at hv ⊢
      cases hr : s.objects[r]? with
      | none => simp [hr] at hv
      | some p => simpa [hget r p hr, hr] using hv
    | _ => simp [Store.canCall] at hv
  refine ⟨List.prefix_refl _, id, hc, ?_⟩
  intro earlier hs ht
  have h := hs ht
  obtain ⟨g, hg, hl⟩ := h.led
  obtain ⟨t, htab, he, hk⟩ := h.table
  exact ⟨h.few, ⟨g, hget _ _ hg, hl⟩, ⟨t, hget _ _ htab, he, hk⟩, fun f hf => hc f (h.callable f hf)⟩

/-- How many polls lie between two looks at the clock. -/
def pollRound : Nat := 10000

/-- Whether time was up when somebody last looked at the clock. -/
def late (s : Store) : Bool := s.deadline.any (· ≤ s.polls / pollRound * pollRound)

/-- Time is up only if something has gone on in spite of it. -/
def Prompt (s : Store) : Prop := s.late = true → s.unheeded = true

/-- What the clock shows after a step; time may be up unnoticed only if the step has been interrupted. -/
structure Timely (interrupted : Prop) (s t : Store) : Prop where
  deadline : t.deadline = s.deadline
  polls : s.polls ≤ t.polls
  unheeded : s.unheeded = true → t.unheeded = true
  prompt : ¬interrupted → s.Prompt → t.Prompt

/-- Two stores with the same clock. -/
structure SameClock (s t : Store) : Prop where
  deadline : t.deadline = s.deadline
  polls : t.polls = s.polls
  unheeded : t.unheeded = s.unheeded

theorem SameClock.timely {s t : Store} (h : s.SameClock t) (interrupted : Prop) : s.Timely interrupted t where
  deadline := h.deadline
  polls := Nat.le_of_eq h.polls.symm
  unheeded hs := h.unheeded.trans hs
  prompt _ hs := by
    rw [Prompt, late, h.deadline, h.polls, h.unheeded]
    exact hs

theorem SameClock.change (s : Store) (r : Nat) (f : Obj → Obj) : s.SameClock (s.change r f) :=
  ⟨rfl, rfl, rfl⟩

namespace Timely

variable {p q : Prop} {s t u : Store}

theorem refl (p : Prop) (s : Store) : s.Timely p s :=
  (SameClock.mk rfl rfl rfl).timely p

/-- Nothing is done after an interruption. -/
theorem trans (h : s.Timely p t) (k : t.Timely q u) (hp : p → q) : s.Timely q u where
  deadline := k.deadline.trans h.deadline
  polls := Nat.le_trans h.polls k.polls
  unheeded hs := k.unheeded (h.unheeded hs)
  prompt hq hs := k.prompt hq (h.prompt (fun hp' => hq (hp hp')) hs)

theorem weaken (h : s.Timely p t) (hpq : p → q) : s.Timely q t :=
  ⟨h.deadline, h.polls, h.unheeded, fun hq => h.prompt fun hp => hq (hpq hp)⟩

/-- Whoever goes on in spite of an interruption leaves a mark. -/
theorem marked (h : s.Timely p t) (q : Prop) : s.Timely q { t with unheeded := true } :=
  ⟨h.deadline, h.polls, fun _ => rfl, fun _ _ _ => rfl⟩

end Timely

/-- Time that is up is noticed at the first look at the clock. -/
theorem Prompt.spent {s : Store} (h : s.Prompt) {n : Nat}
    (hup : ¬(n / pollRound != s.polls / pollRound && s.deadline.any (· ≤ n)) = true) :
    Prompt { s with polls := n } := by
  intro hlate
  refine h ?_
  rw [late, Option.any_eq_true] at hlate ⊢
  obtain ⟨d, hd, hle⟩ := hlate
  refine ⟨d, hd, ?_⟩
  rw [decide_eq_true_eq] at hle ⊢
  have hsame : n / pollRound = s.polls / pollRound := by
    refine Decidable.byContradiction fun hne => hup ?_
    rw [Bool.and_eq_true, bne_iff_ne, Option.any_eq_true]
    exact ⟨hne, d, hd, decide_eq_true (Nat.le_trans hle (Nat.div_mul_le_self n pollRound))⟩
  exact hsame ▸ hle

end Store
end ApiStencil.Script
