import ApiStencil.Proofs.Binding
/-!
What a load hands out. Each call that registers leaves one answer: the registration that it has completed, or
none if it has thrown. The commands of a script are the completed ones in their order, so a call that fails, or
that has others made meanwhile, does not move any of them; a script that fails hands out nothing.
-/
set_option autoImplicit false

namespace ApiStencil.Script

namespace M

variable {α β : Type}

/-- A step that never gives a result. -/
def Breaks (x : M α) : Prop := ∀ (l : Links) (s : Store), ∃ e t, (x l).run s = (.error e, t)

theorem Breaks.bind_left {x : M α} (hx : x.Breaks) (f : α → M β) : (x >>= f).Breaks := by
  intro l s
  obtain ⟨e, t, h⟩ := hx l s
  exact ⟨e, t, by rw [bind_run, h]⟩

theorem Breaks.bind_right (x : M α) {f : α → M β} (hf : ∀ a, (f a).Breaks) : (x >>= f).Breaks := by
  intro l s
  rcases h : (x l).run s with ⟨e | a, t⟩
  · exact ⟨e, t, by rw [bind_run, h]⟩
  · obtain ⟨e, u, hu⟩ := hf a l t
    exact ⟨e, u, by rw [bind_run, h]; exact hu⟩

theorem breaks_throwValue (v : Value) : (throwValue v : M α).Breaks := fun _ s => ⟨.thrown v, s, rfl⟩

theorem breaks_fail (kind : ErrorKind) (text : String) : (fail kind text : M α).Breaks :=
  .bind_right _ fun v => breaks_throwValue v

theorem breaks_wrongKind (v : Value) (wanted : String) : (Library.Globals.wrongKind v wanted : M α).Breaks :=
  .bind_right _ fun _ => breaks_fail _ _

theorem bind_run_eq_ok {x : M α} {f : α → M β} {l : Links} {s u : Store} {b : β}
    (h : ((x >>= f) l).run s = (.ok b, u)) : ∃ a t, (x l).run s = (.ok a, t) ∧ (f a l).run t = (.ok b, u) := by
  rw [bind_run] at h
  rcases hx : (x l).run s with ⟨e | a, t⟩
  · rw [hx] at h
    cases h
  · rw [hx] at h
    exact ⟨a, t, rfl, h⟩

/-- What stops a step does not hold where the step has given a result. -/
theorem check_run_eq_ok {c : Prop} [Decidable c] {x : M PUnit} {f : PUnit → M β} {l : Links} {s u : Store} {b : β}
    (hx : x.Breaks) (h : ((if c then x >>= f else f ⟨⟩) l).run s = (.ok b, u)) :
    ¬c ∧ (f ⟨⟩ l).run s = (.ok b, u) := by
  split at h
  · obtain ⟨e, t, he⟩ := hx.bind_left f l s
    rw [he] at h
    cases h
  · rename_i hc
    exact ⟨hc, h⟩

theorem isCallable_run (v : Value) (l : Links) (s : Store) : (isCallable v l).run s = (.ok (s.canCall v), s) := by
  cases v with
  | object r =>
    show (Except.ok (Kind.callable (s.objects.getD r default).kind), s) = _
    rw [Store.canCall, Array.getD_eq_getD_getElem?]
    cases s.objects[r]? <;> rfl
  | _ => rfl

theorem registration_run_eq_ok {c : Call} {l : Links} {s t : Store} {slots : Value} {g : Registration}
    (h : (Library.Globals.registration c l).run s = (.ok (slots, g), t)) :
    2 ≤ c.args.length ∧ t.canCall (c.arg 1) = true ∧
      ∃ u, ((toText (c.arg 0) l).run s).1 = .ok u ∧ g = ⟨u.toText, c.arg 1⟩ := by
  obtain ⟨hmany, h⟩ := check_run_eq_ok (breaks_fail _ _) h
  obtain ⟨u, t₁, htext, h⟩ := bind_run_eq_ok h
  obtain ⟨callable, t₂, hcallable, h⟩ := bind_run_eq_ok h
  obtain ⟨hcan, h⟩ := check_run_eq_ok (breaks_wrongKind _ _) h
  obtain ⟨slots', t₃, hslots, h⟩ := bind_run_eq_ok h
  cases h
  rw [isCallable_run] at hcallable
  cases hcallable
  have hfollows := (Library.Globals.slotsArray l).follows t₁
  rw [hslots] at hfollows
  exact ⟨Nat.not_lt.mp hmany, hfollows.canCall _ (by simpa using hcan), u, by rw [htext], rfl⟩

end M

/-- What a call that registers has done to the answers when it ends: behind those of the calls that it has had
made it leaves its own, the registration that it has completed or, if it does not return, none. -/
inductive Answered (c : Call) (l : Links) (s : Store) : Except Abrupt Value × Store → Prop where
  | completed {v : Value} {u : Units} {t t' : Store} : 2 ≤ c.args.length → t'.canCall (c.arg 1) = true →
    ((M.toText (c.arg 0) l).run s).1 = .ok u → s.Follows t →
    t'.roll.answers = t.roll.answers.push (some ⟨u.toText, c.arg 1⟩) → Answered c l s (.ok v, t')
  | failed {e : Abrupt} {t t' : Store} : s.Follows t → t'.roll.answers = t.roll.answers.push none →
    Answered c l s (.error e, t')

theorem register_answered (c : Call) (l : Links) (s : Store) :
    Answered c l s ((Library.Globals.register c l).run s) := by
  rw [Library.Globals.register, M.bind_run]
  simp only [M.enrol]
  have hfollows := (Library.Globals.registration c l).follows s
  rcases hr : (Library.Globals.registration c l).run s with ⟨e | ⟨slots, g⟩, t⟩ <;> rw [hr] at hfollows
  · exact .failed hfollows rfl
  · obtain ⟨hmany, hcan, u, htext, rfl⟩ := M.registration_run_eq_ok hr
    dsimp only
    have hput := (M.putMember slots (.ofIndex t.roll.names.size) (c.arg 1) l).follows t
    rcases hp : (M.putMember slots (.ofIndex t.roll.names.size) (c.arg 1) l).run t with ⟨e | _, t'⟩ <;> rw [hp] at hput
    · exact .failed (hfollows.trans hput) rfl
    · exact .completed hmany (hput.canCall _ hcan) htext (hfollows.trans hput) rfl

namespace Realm

theorem registrations_eq (timeoutMs : Option Nat) (source : String) :
    registrations timeoutMs source = (answers timeoutMs source).filterMap id := by
  rw [registrations, answers, Store.registered, Array.toList_filterMap]

/-- The realm that is kept of a script. -/
def kept (timeoutMs : Option Nat) (source : String) : Realm :=
  handedOver ⟨(perform timeoutMs fresh (runScript source)).2⟩

theorem start_of_ok {timeoutMs : Option Nat} {source : String}
    (h : (perform timeoutMs fresh (runScript source)).1 = .ok ()) :
    ∃ lines, start timeoutMs source =
      (.ok ((registrations timeoutMs source).map (·.name), kept timeoutMs source), lines) := by
  rcases hdone : perform timeoutMs fresh (runScript source) with ⟨outcome, t⟩
  rw [hdone] at h
  subst h
  refine ⟨t.console.toList, ?_⟩
  simp only [start_eq, started, registrations, kept, hdone, finish, Except.map, t.names_eq, Array.toList_map]

theorem start_of_error {timeoutMs : Option Nat} {source : String} {a : Abrupt}
    (h : (perform timeoutMs fresh (runScript source)).1 = .error a) :
    ∃ message lines, start timeoutMs source = (.error message, lines) := by
  rcases hdone : perform timeoutMs fresh (runScript source) with ⟨outcome, t⟩
  rw [hdone] at h
  subst h
  simp only [start_eq, started, hdone, finish, Except.map]
  exact ⟨_, _, rfl⟩

/-- What cannot be read as a script ends at once. -/
theorem runScript_of_unread {source : String} (h : Body.read? source.toList Reader.Site.script = none)
    (timeoutMs : Option Nat) : ∃ a, (perform timeoutMs fresh (runScript source)).1 = .error a := by
  have hbreaks : (runScript source).Breaks := by
    rw [runScript, h]
    exact M.breaks_fail _ _
  obtain ⟨e, t, he⟩ := hbreaks links (awake timeoutMs fresh)
  exact ⟨e, by rw [perform_eq, he]⟩

/-- Right after a script has run, each slot holds the function that has been registered there. -/
theorem kept_enters {timeoutMs : Option Nat} {source : String}
    (h : (perform timeoutMs fresh (runScript source)).1 = .ok ())
    (hfree : (kept timeoutMs source).store.tampered = false) {slot : Nat} {g : Registration}
    (hg : (registrations timeoutMs source)[slot]? = some g) (limit : Option Nat) :
    (kept timeoutMs source).Enters limit slot g.function := by
  obtain ⟨lines, hstart⟩ := start_of_ok h
  have hholds := (start_keeps hstart).2 hfree
  have hnone : (kept timeoutMs source).store.functions = [] := by
    simp [kept, handedOver, Store.functions, Store.registered, Roll.empty]
  refine enters_of_holds hholds limit ?_
  rw [hnone, Store.overlaid, List.nil_append, List.length_nil, List.drop_zero, List.getElem?_map, hg]
  rfl

end Realm

namespace Host

theorem untouched_push (h : Host) (r : Realm) :
    { h with realms := h.realms.push r }.untouched h.realms.size = !r.store.tampered := by
  simp [untouched]

/-- A load gives a command for each registration that the script has completed, in their order, and each command
enters its function, however many other calls have thrown; if the transform fails, the text cannot be read or the
script does not run to its end, it gives an error. -/
theorem load_all_or_nothing (h : Host) (script : Path) (source : String) (w : World) :
    (∀ c l s, Answered c l s ((Library.Globals.register c l).run s)) ∧
      (∀ e, h.transform script source = .error e → (h.load script source).on w = (.error e, w)) ∧
      ∀ text, h.transform script source = .ok text →
        (Body.read? text.toList Reader.Site.script = none →
          ∃ a, (Realm.perform h.timeoutMs Realm.fresh (Realm.runScript text)).1 = .error a) ∧
        (∀ a, (Realm.perform h.timeoutMs Realm.fresh (Realm.runScript text)).1 = .error a →
          ∃ message v, (h.load script source).on w = (.error (.scriptLoad script message), v)) ∧
        ((Realm.perform h.timeoutMs Realm.fresh (Realm.runScript text)).1 = .ok () →
          ∃ commands k v, (h.load script source).on w = (.ok (commands, k), v) ∧
            k = { h with realms := h.realms.push (Realm.kept h.timeoutMs text) } ∧
            commands.map (·.name) = ((Realm.answers h.timeoutMs text).filterMap id).map (·.name) ∧
            (k.untouched h.realms.size = true → ∀ (i : Nat) (c : Command) (g : Registration), commands[i]? = some c →
              ((Realm.answers h.timeoutMs text).filterMap id)[i]? = some g → k.Enters c g.function)) := by
  refine ⟨register_answered, fun e htext => load_refused w htext, fun text htext => ⟨?_, fun a hrun => ?_, fun hrun => ?_⟩⟩
  · exact fun hunread => Realm.runScript_of_unread hunread h.timeoutMs
  · obtain ⟨message, lines, hstart⟩ := Realm.start_of_error hrun
    exact ⟨message, _, load_ended w htext hstart⟩
  · obtain ⟨lines, hstart⟩ := Realm.start_of_ok hrun
    refine ⟨_, _, _, load_started w htext hstart, rfl, ?_, fun hfree i c g hc hg => ?_⟩
    · rw [← Realm.registrations_eq, List.map_map]
      exact List.zipIdx_map_fst 0 _
    · rw [← Realm.registrations_eq] at hg
      rw [List.getElem?_map, List.getElem?_zipIdx, Option.map_map, Option.map_eq_some_iff] at hc
      obtain ⟨name, -, rfl⟩ := hc
      rw [untouched_push, Bool.not_eq_true'] at hfree
      refine ⟨Realm.kept h.timeoutMs text, Array.getElem?_push_size, ?_⟩
      rw [Function.comp_apply, Nat.zero_add]
      exact Realm.kept_enters hrun hfree hg h.timeoutMs

/-- A script that has the objects of its realm inherit an element at the first place. -/
def interposing : String :=
  "Object.defineProperty(Object.prototype, '0', \x7b set(v) \x7b\x7d, get() \x7b return () => 'other' \x7d \x7d);" ++
    "registerTemplateCommand('a', () => 'mine')"

/-- Whether a load gives one command that finds another function than the one which has been registered. -/
def strays (loaded : Except Error (List Command × Host) × World) (answers : List (Option Registration)) : Bool :=
  match loaded, answers with
  | (.ok ([c], h), _), [some ⟨_, .object p⟩] =>
    said? (h.call c []).1 == some "other" && h.realms[c.realm]?.any fun r =>
      match (Realm.perform none r.store (Realm.slotFunction c.slot)).1 with
      | .ok (.object q) => p != q
      | _ => false
  | _, _ => false

set_option maxRecDepth 100000 in
theorem interposing_strays :
    strays ((plain.load ⟨[]⟩ interposing).on nowhere) (Realm.answers none interposing) = true := by
  rw [Realm.answers_stocked]
  simp only [load, loadUntil, Realm.startUntil_stocked]
  decide +kernel

theorem of_strays {script : Path} {source : String} {w : World} {answers : List (Option Registration)}
    (h : strays ((plain.load script source).on w) answers = true) :
    ∃ c k v g, (plain.load script source).on w = (.ok ([c], k), v) ∧ answers = [some g] ∧
      said? (k.call c []).1 = some "other" ∧ ¬k.Enters c g.function := by
  unfold strays at h
  split at h
  · rename_i c k v name p hload
    simp only [Bool.and_eq_true, beq_iff_eq] at h
    obtain ⟨hsaid, hother⟩ := h
    refine ⟨c, k, v, ⟨name, .object p⟩, hload, rfl, hsaid, ?_⟩
    have htime : k.timeoutMs = none := by
      obtain ⟨_, _, realm, _, _, _, _, rfl⟩ := load_ok hload
      rfl
    rintro ⟨r, hr, n, ⟨hfound, -⟩ | ⟨hlimit, -⟩⟩
    · rw [hr] at hother
      rw [htime] at hfound
      simp [hfound] at hother
    · exact hlimit htime
  · exact absurd h (by simp)

/-- An element that all objects inherit keeps a function out of the array of commands. -/
theorem interposing_lost : ∃ c k v g, (plain.load ⟨[]⟩ interposing).on nowhere = (.ok ([c], k), v) ∧
    Realm.answers none interposing = [some g] ∧ said? (k.call c []).1 = some "other" ∧ ¬k.Enters c g.function :=
  of_strays interposing_strays

/-- Whether a script has run to its end with these answers, and has left the array of commands alone. -/
def answersWith (run : Except Abrupt Unit × Store) (names : List (Option String)) : Bool :=
  match run with
  | (.ok (), t) => !t.tampered && t.roll.answers.toList.map (·.map (·.name)) == names
  | _ => false

/-- A script that has been run, and how its calls have been answered. -/
structure Trial where
  text : String
  names : List (Option String)
  answered : answersWith (Realm.perform plain.timeoutMs Realm.fresh (Realm.runScript text)) names = true

set_option maxRecDepth 100000 in
/-- A name that makes a registration of its own while it is turned into a text. -/
def nesting : Trial where
  text := "registerTemplateCommand(\x7b toString() \x7b registerTemplateCommand('in', () => 1); return 'out' \x7d \x7d, () => 2)"
  names := [some "in", some "out"]
  answered := by
    rw [Realm.fresh_stocked]
    decide +kernel

theorem of_answersWith {timeoutMs : Option Nat} {text : String} {names : List (Option String)}
    (h : answersWith (Realm.perform timeoutMs Realm.fresh (Realm.runScript text)) names = true) :
    (Realm.perform timeoutMs Realm.fresh (Realm.runScript text)).1 = .ok () ∧
      (Realm.kept timeoutMs text).store.tampered = false ∧
      (Realm.answers timeoutMs text).map (·.map (·.name)) = names := by
  rcases hdone : Realm.perform timeoutMs Realm.fresh (Realm.runScript text) with ⟨e | _, t⟩
  · simp [hdone, answersWith] at h
  · simp only [hdone, answersWith, Bool.and_eq_true, Bool.not_eq_true', beq_iff_eq] at h
    refine ⟨rfl, ?_, ?_⟩
    · rw [Realm.kept, hdone]
      exact h.1
    · rw [Realm.answers, hdone]
      exact h.2

theorem filterMap_map {answers : List (Option Registration)} {names : List (Option String)}
    (h : answers.map (·.map (·.name)) = names) : (answers.filterMap id).map (·.name) = names.filterMap id := by
  rw [← h, List.filterMap_map, List.map_filterMap]
  rfl

/-- What `load_all_or_nothing` says of this script. -/
theorem nesting_registered : ∃ commands k v, (plain.load ⟨[]⟩ nesting.text).on nowhere = (.ok (commands, k), v) ∧
    commands.map (·.name) = ["in", "out"] ∧
      ∀ (i : Nat) (c : Command) (g : Registration), commands[i]? = some c →
        ((Realm.answers plain.timeoutMs nesting.text).filterMap id)[i]? = some g → k.Enters c g.function := by
  obtain ⟨hrun, hfree, hnames⟩ := of_answersWith nesting.answered
  obtain ⟨commands, k, v, hload, hk, hcommands, henters⟩ :=
    ((load_all_or_nothing plain ⟨[]⟩ nesting.text nowhere).2.2 nesting.text rfl).2.2 hrun
  refine ⟨commands, k, v, hload, hcommands.trans (filterMap_map hnames), henters ?_⟩
  rw [hk, untouched_push, hfree]
  rfl

end Host

end ApiStencil.Script
