import ApiStencil.Proofs.Shelf
import ApiStencil.Script.Host
/-!
Which function a call of a command enters. What a script has registered stays in the array of commands
for as long as its realm is kept, each function at its place, whatever is called in between; only a
registration that a later call completes takes the place of one that the script has made.
-/
set_option autoImplicit false

namespace ApiStencil.Script

namespace M

theorem gives_slotsArray {s : Store} {fs : List Value} (h : s.Holds fs) :
    Gives Library.Globals.slotsArray s (.object Store.tableRef) s := by
  obtain ⟨g, hg, hled⟩ := h.led
  obtain ⟨o, ho, -, hk⟩ := h.table
  have hdg := Store.getD_some hg
  have hd := Store.getD_some ho
  have found : Gives (getFrom Store.globalRef Obj.tableKey (.object Store.globalRef)) s
      (.object Store.tableRef) s := by
    unfold Obj.leadsTo at hled
    split at hled
    · rename_i i t w e c hplain hslot
      rw [beq_iff_eq] at hled
      subst hled
      show Gives (getAt (999999 + 1) Store.globalRef Obj.tableKey _) s _ s
      rw [getAt]
      refine (gives_kindOf s _).bind ?_
      rw [hdg, hplain]
      have slot : Gives (plainSlot? Store.globalRef Obj.tableKey) s
          (some (.data (.object Store.tableRef) w e c)) s := by
        unfold plainSlot?
        refine (gives_object s _).bind ?_
        rw [hdg, hplain]
        exact gives_heldSlot?_data s _ hslot
      exact slot.bind (.pure _ s)
    · exact absurd hled (by simp)
  have array : Gives (Library.Arrays.isArray (.object Store.tableRef)) s true s := by
    show Gives (Library.Arrays.isArrayAt (999999 + 1) _) s _ s
    rw [Library.Arrays.isArrayAt]
    refine (gives_kind? ho).bind ?_
    rw [hk]
    exact .pure true s
  exact found.bind (array.bind (.pure _ s))

/-- An element of the array of commands, looked up as a call does it. -/
theorem gives_slotFunction {s : Store} {fs : List Value} {f : Value} {slot : Nat} (h : s.Holds fs)
    (hf : fs[slot]? = some f) : Gives (Realm.slotFunction slot) s f s := by
  obtain ⟨o, ho, -, hk⟩ := h.table
  have hd := Store.getD_some ho
  have hmem : f ∈ fs := List.mem_of_getElem? hf
  have hlt : slot < Store.maxElements := by
    obtain ⟨hl, -⟩ := List.getElem?_eq_some_iff.mp hf
    have := h.few
    omega
  have element : Gives (getMember (.object Store.tableRef) (.ofIndex slot)) s f s := by
    refine gives_getFrom_of_plain (by simp [hd, hk]) ?_
    have own := gives_plainSlot?_of_array hlt (show (s.objects.getD Store.tableRef default).kind = _ by rw [hd, hk])
    rwa [show fs.toArray[slot]? = some f by simpa using hf] at own
  have callable := gives_isCallable s f
  rw [h.callable f hmem] at callable
  exact (gives_slotsArray h).bind (element.bind (callable.bind (.pure f s)))

end M

namespace Realm

theorem awake_follows (timeoutMs : Option Nat) (s : Store) : s.Follows (awake timeoutMs s) :=
  .of_same rfl rfl rfl

theorem perform_follows {α : Type} (timeoutMs : Option Nat) (s : Store) (x : M α) :
    s.Follows (perform timeoutMs s x).2 :=
  (awake_follows timeoutMs s).trans ((x links).follows _)

theorem finish_follows {α : Type} (s : Store) (done : Except Abrupt α × Store) (h : s.Follows done.2) :
    s.Follows (finish done).2.2.store := by
  obtain ⟨outcome, t⟩ := done
  cases outcome with
  | ok v => exact h
  | error a => exact h.trans ((explain a links).follows t)

theorem call_follows (r : Realm) (timeoutMs : Option Nat) (slot : Nat) (args : List Json) :
    r.store.Follows (r.call timeoutMs slot args).2.2.store :=
  finish_follows _ _ (perform_follows timeoutMs r.store (callSlot slot args))

/-- The outcome of a call that enters `f` when its clock stands at `n`. -/
def entering (r : Realm) (timeoutMs : Option Nat) (n : Nat) (f : Value) (args : List Json) :
    Except String Json × List Console.Line × Realm :=
  finish ((apply f args links).run ((awake timeoutMs r.store).ticked n))

/-- The outcome of a call whose time is up at `n`, before it has entered anything. -/
def timedOut (r : Realm) (timeoutMs : Option Nat) (n : Nat) : Except String Json × List Console.Line × Realm :=
  finish (.error .interrupted, (awake timeoutMs r.store).ticked n)

/-- A call finds `f` and enters it, or has no time to find anything. -/
def Enters (r : Realm) (timeoutMs : Option Nat) (slot : Nat) (f : Value) : Prop :=
  ∃ n, ((perform timeoutMs r.store (slotFunction slot)).1 = .ok f ∧
      ∀ args, r.call timeoutMs slot args = r.entering timeoutMs n f args) ∨
    (timeoutMs ≠ none ∧ ∀ args, r.call timeoutMs slot args = r.timedOut timeoutMs n)

theorem enters_of_holds {r : Realm} {fs : List Value} (h : r.store.Holds fs) (timeoutMs : Option Nat) {slot : Nat}
    {f : Value} (hf : fs[slot]? = some f) : r.Enters timeoutMs slot f := by
  have hawake : (awake timeoutMs r.store).Holds fs := h.of_objects rfl
  have hcall (args : List Json) : r.call timeoutMs slot args =
      finish ((slotFunction slot >>= fun f => apply f args) links |>.run (awake timeoutMs r.store)) := rfl
  obtain ⟨n, hrun | ⟨hlimit, hrun⟩⟩ := M.gives_slotFunction hawake hf links 0
  · have hfound : perform timeoutMs r.store (slotFunction slot) = (.ok f, (awake timeoutMs r.store).ticked n) := hrun
    refine ⟨n, .inl ⟨by rw [hfound], fun args => ?_⟩⟩
    rw [hcall, M.bind_run, show (slotFunction slot links).run (awake timeoutMs r.store) = _ from hrun]
    rfl
  · refine ⟨n, .inr ⟨?_, fun args => ?_⟩⟩
    · rintro rfl
      exact hlimit rfl
    · rw [hcall, M.bind_run, show (slotFunction slot links).run (awake timeoutMs r.store) = _ from hrun]
      rfl

/-- Whether a script finds an empty array of commands, and the global object leads to it. -/
def ready (objects : Array Obj) : Bool :=
  objects[Store.globalRef]?.any (·.leadsTo Store.tableRef) &&
    objects[Store.tableRef]?.any fun o => o.extensible && match o.kind with
      | .array items => items.isEmpty
      | _ => false

set_option maxRecDepth 100000 in
theorem ready_library : ready Library.objects = true := by
  rw [Library.objects_shelved]
  decide +kernel

theorem fresh_holds : fresh.Holds [] := by
  have h := ready_library
  rw [ready, Bool.and_eq_true, Option.any_eq_true, Option.any_eq_true] at h
  obtain ⟨⟨g, hg, hled⟩, o, ho, hready⟩ := h
  rw [Bool.and_eq_true] at hready
  obtain ⟨he, hempty⟩ := hready
  have hk : o.kind = .array #[] := by
    split at hempty
    · rename_i items hk
      rw [hk, Array.isEmpty_iff.mp hempty]
    · exact absurd hempty (by simp)
  refine ⟨Nat.zero_le _, ?_, ?_, by simp⟩
  · rw [objects_fresh]
    exact ⟨g, hg, hled⟩
  · rw [objects_fresh]
    exact ⟨o, ho, he, hk⟩

/-- The functions that a run has registered stand in the array that it leaves. -/
theorem start_keeps {timeoutMs : Option Nat} {source : String} {names : List String} {realm : Realm}
    {lines : List Console.Line} (h : start timeoutMs source = (.ok (names, realm), lines)) :
    names = (registrations timeoutMs source).map (·.name) ∧
      realm.store.Keeps ((registrations timeoutMs source).map (·.function)) := by
  have hrun := perform_follows timeoutMs fresh (runScript source)
  have hkeeps := hrun.keeps [] fun _ => fresh_holds
  rcases hdone : perform timeoutMs fresh (runScript source) with ⟨outcome, t⟩
  rw [hdone] at hkeeps
  simp only [start_eq, started, hdone] at h
  cases outcome with
  | error a => simp [finish, Except.map] at h
  | ok u =>
    simp only [finish, Except.map, Prod.mk.injEq, Except.ok.injEq] at h
    obtain ⟨⟨rfl, rfl⟩, -⟩ := h
    refine ⟨by rw [registrations, hdone, t.names_eq, Array.toList_map], fun ht => ?_⟩
    have holds := (hkeeps ht).of_objects (t := (handedOver ⟨t⟩).store) rfl
    simpa [Store.overlaid, Store.functions, Store.registered, Roll.empty, registrations, hdone, handedOver] using holds

end Realm

namespace Host

/-- A host after any number of loads and calls, whatever became of them. -/
inductive Later : Host → Host → Prop where
  | refl (h : Host) : Later h h
  | call {h k : Host} (c : Command) (args : List Json) : Later h k → Later h (k.call c args).2.2
  | load {h k k' : Host} {script : Path} {source : String} {commands : List Command} {w w' : World} :
    Later h k → (k.load script source).on w = (.ok (commands, k'), w') → Later h k'

/-- A load runs its script in a new realm and hands out a command for each registration. -/
theorem load_ok {h k : Host} {script : Path} {source : String} {commands : List Command} {w w' : World}
    (hload : (h.load script source).on w = (.ok (commands, k), w')) :
    ∃ text names realm lines, h.transform script source = .ok text ∧
      Realm.start h.timeoutMs text = (.ok (names, realm), lines) ∧
      commands = names.zipIdx.map (fun (name, slot) => ⟨name, script, h.realms.size, slot⟩) ∧
      k = { h with realms := h.realms.push realm } := by
  cases htext : h.transform script source with
  | error e =>
    rw [load_refused w htext] at hload
    cases hload
  | ok text =>
    rcases hs : Realm.start h.timeoutMs text with ⟨message | ⟨names, realm⟩, lines⟩
    · rw [load_ended w htext hs] at hload
      cases hload
    · rw [load_started w htext hs] at hload
      cases hload
      exact ⟨text, names, realm, lines, rfl, hs, rfl, rfl⟩

/-- What a host keeps of a former one: its time limit, and each realm as scripts may leave it. -/
structure Keeps (h k : Host) : Prop where
  timeoutMs : k.timeoutMs = h.timeoutMs
  realms : ∀ (i : Nat) (r : Realm), h.realms[i]? = some r → ∃ q, k.realms[i]? = some q ∧ r.store.Follows q.store

theorem Keeps.refl (h : Host) : h.Keeps h := ⟨rfl, fun _ r hr => ⟨r, hr, .refl _⟩⟩

theorem Keeps.trans {h k l : Host} (hk : h.Keeps k) (kl : k.Keeps l) : h.Keeps l where
  timeoutMs := kl.timeoutMs.trans hk.timeoutMs
  realms := by
    intro i r hr
    obtain ⟨q, hq, hf⟩ := hk.realms i r hr
    obtain ⟨q', hq', hf'⟩ := kl.realms i q hq
    exact ⟨q', hq', hf.trans hf'⟩

theorem keeps_push (h : Host) (realm : Realm) : h.Keeps { h with realms := h.realms.push realm } := by
  refine ⟨rfl, fun i r hr => ⟨r, ?_, .refl _⟩⟩
  obtain ⟨hlt, -⟩ := Array.getElem?_eq_some_iff.mp hr
  rw [Array.getElem?_push, if_neg (by omega)]
  exact hr

theorem keeps_call (h : Host) (c : Command) (args : List Json) : h.Keeps (h.call c args).2.2 := by
  cases hc : h.realms[c.realm]? with
  | none =>
    simp only [call, callUntil, handleUntil, hc]
    exact .refl h
  | some s =>
    simp only [call, callUntil, handleUntil, hc]
    refine ⟨rfl, fun i r hr => ?_⟩
    by_cases he : c.realm = i
    · subst he
      rw [hr, Option.some.injEq] at hc
      subst hc
      obtain ⟨hlt, -⟩ := Array.getElem?_eq_some_iff.mp hr
      exact ⟨_, Array.getElem?_setIfInBounds_self_of_lt hlt, r.call_follows h.timeoutMs c.slot args⟩
    · exact ⟨r, by rw [Array.getElem?_setIfInBounds_ne he]; exact hr, .refl _⟩

theorem Later.keeps {h k : Host} (later : Later h k) : h.Keeps k := by
  induction later with
  | refl => exact .refl _
  | @call k c args later ih => exact ih.trans (k.keeps_call c args)
  | @load k k' script source commands w w' later hload ih =>
    obtain ⟨_, _, realm, _, _, _, _, rfl⟩ := load_ok hload
    exact ih.trans (k.keeps_push realm)

/-- A call of a command either enters `f` or has no time to do so. -/
def Enters (h : Host) (c : Command) (f : Value) : Prop :=
  ∃ r, h.realms[c.realm]? = some r ∧ r.Enters h.timeoutMs c.slot f

/-- The registrations that calls have completed in a realm since its script was loaded. -/
def again (h : Host) (realm : Nat) : List Registration :=
  (h.realms[realm]?.map (·.store.registered.toList)).getD []

/-- Whether the array of commands of a realm holds nothing but registered functions, at their places. -/
def untouched (h : Host) (realm : Nat) : Bool :=
  h.realms[realm]?.any fun r => !r.store.tampered

theorem overlaid_getElem? (later made : List Registration) (i : Nat) (g : Registration) (hg : made[i]? = some g) :
    (Store.overlaid (later.map (·.function)) (made.map (·.function)))[i]? =
      some (later[i]?.getD g).function := by
  by_cases hi : i < later.length
  · simp [Store.overlaid, List.getElem?_append_left, hi]
  · have hge : later.length ≤ i := Nat.le_of_not_lt hi
    simp [Store.overlaid, List.getElem?_append_right, hge, hg]

/-- Whatever has been loaded and called since, a command enters the function of the registration at its
place: the one that a later call has completed there, or else the one that its script has made. So it
enters what its script has made for as long as no call has registered another function there. -/
theorem command_enters {h h₁ h₂ : Host} {script : Path} {source text : String} {commands : List Command}
    {w w₁ : World} (hload : (h.load script source).on w = (.ok (commands, h₁), w₁))
    (htext : h.transform script source = .ok text) (later : Later h₁ h₂)
    (huntouched : h₂.untouched h.realms.size = true) :
    commands.map (·.name) = (Realm.registrations h.timeoutMs text).map (·.name) ∧
      ∀ (i : Nat) (c : Command) (g : Registration), commands[i]? = some c →
        (Realm.registrations h.timeoutMs text)[i]? = some g →
        h₂.Enters c ((h₂.again h.realms.size)[i]?.getD g).function ∧
          (((h₂.again h.realms.size)[i]?.getD g).function = g.function ↔
            ∀ g', (h₂.again h.realms.size)[i]? = some g' → g'.function = g.function) := by
  obtain ⟨text', names, realm, lines, htext', hstart, rfl, rfl⟩ := load_ok hload
  rw [htext, Except.ok.injEq] at htext'
  subst htext'
  obtain ⟨hnames, hkeeps⟩ := Realm.start_keeps hstart
  obtain ⟨htime, hrealms⟩ := later.keeps
  refine ⟨?_, fun i c g hc hg => ?_⟩
  · rw [← hnames, List.map_map]
    exact List.zipIdx_map_fst 0 names
  · obtain ⟨q, hq, hfollows⟩ := hrealms h.realms.size realm (by simp)
    have hfree : q.store.tampered = false := by simpa [untouched, hq] using huntouched
    have hholds := hfollows.keeps _ hkeeps hfree
    have hslot : c.realm = h.realms.size ∧ c.slot = i := by
      rw [List.getElem?_map, Option.map_eq_some_iff] at hc
      obtain ⟨⟨name, slot⟩, hz, rfl⟩ := hc
      rw [List.getElem?_zipIdx, Option.map_eq_some_iff] at hz
      obtain ⟨_, _, he⟩ := hz
      simp only [Nat.zero_add, Prod.mk.injEq] at he
      exact ⟨rfl, he.2.symm⟩
    obtain ⟨hcr, rfl⟩ := hslot
    refine ⟨⟨q, by rw [hcr]; exact hq, ?_⟩, by cases (h₂.again h.realms.size)[c.slot]? <;> simp⟩
    refine Realm.enters_of_holds hholds h₂.timeoutMs ?_
    have hagain : h₂.again h.realms.size = q.store.registered.toList := by simp [again, hq]
    rw [hagain]
    exact overlaid_getElem? q.store.registered.toList _ c.slot g hg

/-- A host without a time limit that runs scripts as they are. -/
def plain : Host := .new none .records fun _ source => .ok source

/-- A script whose command registers another one whenever it is called. -/
def rebinding : String :=
  "registerTemplateCommand('a', () => \x7b registerTemplateCommand('b', () => 'new'); return 'old' \x7d)"

/-- The text that a call gives. -/
def said? : Except Error Json → Option String
  | .ok (.string s) => some s
  | _ => none

/-- Where the runs below begin. -/
def nowhere : World := ⟨⟨[], ⟨[]⟩⟩, .empty⟩

/-- Whether the second call of a command gives another text than the first one, finding a function other than
the one that has been registered. -/
def rebinds (loaded : Except Error (List Command × Host) × World) (made : List Registration) : Bool :=
  match loaded, made with
  | (.ok ([c], h), _), [⟨_, .object p⟩] =>
    let k := (h.call c []).2.2
    said? (h.call c []).1 == some "old" && said? (k.call c []).1 == some "new" && k.untouched 0 &&
      k.realms[c.realm]?.any fun r =>
        match (Realm.perform none r.store (Realm.slotFunction c.slot)).1 with
        | .ok (.object q) => p != q
        | _ => false
  | _, _ => false

set_option maxRecDepth 100000 in
theorem rebinds_rebinding :
    rebinds ((plain.load ⟨[]⟩ rebinding).on nowhere) (Realm.registrations none rebinding) = true := by
  rw [Realm.registrations_stocked]
  simp only [load, loadUntil, Realm.startUntil_stocked]
  decide +kernel

theorem runs_of_rebinds {loaded : Except Error (List Command × Host) × World} {made : List Registration}
    (h : rebinds loaded made = true) :
    ∃ c k w g, loaded = (.ok ([c], k), w) ∧ made = [g] ∧ said? (k.call c []).1 = some "old" ∧
      said? ((k.call c []).2.2.call c []).1 = some "new" ∧ (k.call c []).2.2.untouched 0 = true ∧
      ¬∃ r, (k.call c []).2.2.realms[c.realm]? = some r ∧ r.Enters none c.slot g.function := by
  unfold rebinds at h
  split at h
  · rename_i c k w name p
    simp only [Bool.and_eq_true, beq_iff_eq] at h
    obtain ⟨⟨⟨hold, hnew⟩, hfree⟩, hother⟩ := h
    refine ⟨c, k, w, ⟨name, .object p⟩, rfl, rfl, hold, hnew, hfree, ?_⟩
    rintro ⟨r, hr, n, ⟨hfound, -⟩ | ⟨hlimit, -⟩⟩
    · rw [hr] at hother
      simp [hfound] at hother
    · exact hlimit rfl
  · exact absurd h (by simp)

/-- A command that registers another one when it is called is bound to that one from then on. -/
theorem rebinding_rebinds : ∃ c k w g,
    (plain.load ⟨[]⟩ rebinding).on nowhere = (.ok ([c], k), w) ∧ Realm.registrations none rebinding = [g] ∧
      (k.call c []).2.2.untouched 0 = true ∧ said? (k.call c []).1 = some "old" ∧
      said? ((k.call c []).2.2.call c []).1 = some "new" ∧ ¬(k.call c []).2.2.Enters c g.function := by
  obtain ⟨c, k, w, g, hload, hmade, hold, hnew, hfree, hother⟩ := runs_of_rebinds rebinds_rebinding
  have htime : (k.call c []).2.2.timeoutMs = none := by
    obtain ⟨_, _, realm, _, _, _, _, rfl⟩ := load_ok hload
    exact (keeps_call _ c []).timeoutMs
  refine ⟨c, k, w, g, hload, hmade, hfree, hold, hnew, ?_⟩
  rw [Enters, htime]
  exact hother

/-- What `command_enters` says of the second call. -/
theorem rebinding_enters : ∃ c k w g,
    (plain.load ⟨[]⟩ rebinding).on nowhere = (.ok ([c], k), w) ∧ (k.call c []).2.2.untouched 0 = true ∧
      Realm.registrations none rebinding = [g] ∧
      (k.call c []).2.2.Enters c (((k.call c []).2.2.again 0)[0]?.getD g).function := by
  obtain ⟨c, k, w, g, hload, hmade, -, -, hfree, -⟩ := runs_of_rebinds rebinds_rebinding
  have h := command_enters hload rfl (.call c [] (.refl k)) hfree
  have hmade' : (Realm.registrations plain.timeoutMs rebinding)[0]? = some g := by
    rw [show plain.timeoutMs = none from rfl, hmade]
    rfl
  exact ⟨c, k, w, g, hload, hfree, hmade, (h.2 0 c g rfl hmade').1⟩

end Host
end ApiStencil.Script
