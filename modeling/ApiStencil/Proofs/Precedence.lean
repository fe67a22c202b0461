import ApiStencil.Proofs.Binding
import ApiStencil.Proofs.CommandTable
import ApiStencil.Render
/-!
What templates reach by a name. A command takes the place of whatever went by its name before, both as a filter
and as a function, and a name that no command has stands for what it stands for without any commands. Only the
filters that are marks of the language are not looked up.
-/
set_option autoImplicit false

namespace ApiStencil

namespace Template

variable {W : Type}

namespace Registry

@[ext]
theorem ext {r r' : Registry W} (hfilter : ∀ n, r.filter? n = r'.filter? n)
    (hfunction : ∀ n, r.function? n = r'.function? n) : r = r' := by
  obtain ⟨_, _⟩ := r
  obtain ⟨_, _⟩ := r'
  obtain rfl := funext hfilter
  obtain rfl := funext hfunction
  rfl

/-- Two registries that hold the same under a name. -/
structure SameAt (r r' : Registry W) (name : String) : Prop where
  filter : r.filter? name = r'.filter? name
  function : r.function? name = r'.function? name

/-- A registry that holds a command under a name, both as a filter and as a function. -/
structure Binds (r : Registry W) (name : String) (h : Handler W) : Prop where
  filter : r.filter? name = some fun v args => Eval.act (h.filter v args)
  function : r.function? name = some fun args => Eval.act (h.function args)

theorem binds_addCommand (r : Registry W) (name : String) (h : Handler W) : (r.addCommand name h).Binds name h :=
  ⟨if_pos (BEq.refl name), if_pos (BEq.refl name)⟩

theorem sameAt_addCommand (r : Registry W) {name n : String} (h : Handler W) (hn : n ≠ name) :
    (r.addCommand name h).SameAt r n :=
  ⟨if_neg (mt eq_of_beq hn), if_neg (mt eq_of_beq hn)⟩

theorem Binds.of_sameAt {r r' : Registry W} {name : String} {h : Handler W} (hb : r.Binds name h)
    (hs : r'.SameAt r name) : r'.Binds name h :=
  ⟨hs.filter.trans hb.filter, hs.function.trans hb.function⟩

theorem SameAt.trans {r r' r'' : Registry W} {name : String} (h : r.SameAt r' name) (h' : r'.SameAt r'' name) :
    r.SameAt r'' name :=
  ⟨h.filter.trans h'.filter, h.function.trans h'.function⟩

theorem SameAt.symm {r r' : Registry W} {name : String} (h : r.SameAt r' name) : r'.SameAt r name :=
  ⟨h.filter.symm, h.function.symm⟩

/-- Names that no command has keep what they stand for. -/
theorem sameAt_register {commands : Commands W} {n : String} (hn : n ∉ commands.map (·.1)) (r : Registry W) :
    (r.register commands).SameAt r n := by
  induction commands generalizing r with
  | nil => exact ⟨rfl, rfl⟩
  | cons x rest ih =>
    obtain ⟨hne, hrest⟩ := not_or.mp (mt List.mem_cons.mpr hn)
    exact (ih hrest _).trans (sameAt_addCommand r x.2 hne)

/-- Of commands with different names each one stays. -/
theorem binds_register {commands : Commands W} (hnames : (commands.map (·.1)).Nodup) {n : String} {h : Handler W}
    (hmem : (n, h) ∈ commands) (r : Registry W) : (r.register commands).Binds n h := by
  induction commands generalizing r with
  | nil => cases hmem
  | cons x rest ih =>
    obtain ⟨hfirst, hrest⟩ := List.nodup_cons.mp hnames
    rcases List.mem_cons.mp hmem with rfl | hmem
    · exact (binds_addCommand r n h).of_sameAt (sameAt_register hfirst _)
    · exact ih hrest hmem _

end Registry

namespace Eval

variable {α β γ : Type}

theorem run_inj {x y : Eval W α} (h : x.run = y.run) : x = y := by
  obtain ⟨_, _⟩ := x
  cases h
  rfl

theorem bind_run (x : Eval W α) (f : α → Eval W β) (s : State W) (l : Ledger) :
    (x >>= f).run s l =
      match x.run s l with
      | (.ok a, t, m) => (f a).run t m
      | (.error e, t, m) => (.error e, t, m) := rfl

theorem bind_bind (x : Eval W α) (f : α → Eval W β) (g : β → Eval W γ) :
    x >>= f >>= g = x >>= fun a => f a >>= g := by
  refine run_inj (funext fun s => funext fun l => ?_)
  rw [bind_run, bind_run, bind_run]
  rcases x.run s l with ⟨e | a, t, m⟩ <;> rfl

/-- What has run through some filters runs through those behind them. -/
theorem piped_append (step : Json → Call → Eval W Json) (v : Json × Bool) (before behind : List Call) :
    piped step v (before ++ behind) = piped step v before >>= fun v => piped step v behind := by
  induction before generalizing v with
  | nil => rfl
  | cons c rest ih =>
    rw [List.cons_append, piped, piped]
    split
    · exact ih v
    · rw [bind_bind]
      exact congrArg _ (funext fun r => ih (r, true))

theorem piped_cons {c : Call} (hc : isMark c.name = false) (step : Json → Call → Eval W Json) (v : Json × Bool)
    (rest : List Call) : piped step v (c :: rest) = step v.1 c >>= fun r => piped step (r, true) rest := by
  rw [piped, if_neg (by rw [hc]; exact Bool.false_ne_true)]

end Eval

namespace Env

open Eval

/-- The use of a command: its arguments are evaluated, and then it is called with them. -/
def commanding (words : String) (args : Eval W Args) (f : Args → W → Except CallFailure Json × W) : Eval W Json := do
  let values ← within words args
  within words (act (f values))

variable {env : Env W} {c : Call} {h : Handler W}

theorem call_of_binds (hb : env.registry.Binds c.name h) (k : Nat) : env.call (k + 1) c =
    commanding s!"Function call '{c.name}' failed" (env.args k c.args) h.function := by
  simp only [call, hasFunction, runFunction, hb.function]
  rfl

theorem filtered_of_binds (hb : env.registry.Binds c.name h) (k : Nat) (v : Json) : env.filtered (k + 1) v c =
    commanding s!"Filter call '{c.name}' failed" (env.args k c.args) (h.filter v) := by
  simp only [filtered, hasFilter, runFilter, hb.filter]
  rfl

/-- A filter applied to a section. -/
theorem node_filter_of_binds (hb : env.registry.Binds c.name h) (hc : c.name ≠ "safe") (k : Nat) (start : Trim)
    (nodes : List Node) (stop : Trim) : env.node (k + 2) (.filter start c nodes stop) = (do
      let s ← captured (env.body (k + 1) nodes)
      emit (display (← commanding s!"Filter call '{c.name}' failed" (env.args k c.args) (h.filter (.string s))))) := by
  rw [node]
  simp only [beq_iff_eq, if_neg hc, filtered_of_binds hb]

end Env

end Template

namespace Command

open Template

namespace Table

variable {t : Table}

theorem mem_entries_of_get? {name : String} {d : Script.Command} (h : t.get? name = some d) : (name, d) ∈ t.entries := by
  obtain ⟨before, behind, hentries, -⟩ := List.lookup_eq_some_iff.mp h
  rw [hentries]
  exact List.mem_append_cons_self

theorem names_commands (t : Table) : t.commands.map (·.1) = t.names := by
  rw [commands, List.map_map]
  rfl

theorem binds_of_get? (ht : t.names.Pairwise (· < ·)) {name : String} {d : Script.Command}
    (h : t.get? name = some d) (r : Registry Stage) : (r.register t.commands).Binds name (handler d) := by
  have hnames : (t.commands.map (·.1)).Nodup := by
    rw [names_commands]
    exact ht.imp fun hlt => String.ne_of_lt hlt
  exact Registry.binds_register hnames (List.mem_map.mpr ⟨(name, d), mem_entries_of_get? h, rfl⟩) r

theorem sameAt_of_get? {name : String} (h : t.get? name = none) (r : Registry Stage) :
    (r.register t.commands).SameAt r name := by
  refine Registry.sameAt_register ?_ r
  rw [names_commands]
  intro hmem
  obtain ⟨x, hx, rfl⟩ := List.mem_map.mp hmem
  exact absurd (List.lookup_eq_none_iff.mp h x hx) (by simp)

/-- What a registry holds under the names of commands makes no difference once they are registered. -/
theorem register_eq (ht : t.names.Pairwise (· < ·)) {r r' : Registry Stage}
    (h : ∀ name, t.get? name = none → r.SameAt r' name) : r.register t.commands = r'.register t.commands := by
  have hsame (name : String) : (r.register t.commands).SameAt (r'.register t.commands) name := by
    cases hd : t.get? name with
    | none => exact ((sameAt_of_get? hd r).trans (h name hd)).trans (sameAt_of_get? hd r').symm
    | some d =>
      have hb := binds_of_get? ht hd r
      have hb' := binds_of_get? ht hd r'
      exact ⟨hb.filter.trans hb'.filter.symm, hb.function.trans hb'.function.symm⟩
  exact Registry.ext (fun name => (hsame name).filter) fun name => (hsame name).function

/-- The names of commands come first. Where a template uses one as a function, as a filter of a value or as a filter
of a section, the command is called with the arguments that the bridge makes; other names stand for what they
stand for without commands; and no rendering depends on what else goes by the name of a command. -/
theorem commands_take_precedence (ht : t.names.Pairwise (· < ·)) :
    (∀ env : Env Stage, env.registry = Registry.library.register t.commands →
      ∀ (k : Nat) (c : Call) (d : Script.Command), t.get? c.name = some d →
        env.call (k + 1) c = Env.commanding s!"Function call '{c.name}' failed" (env.args k c.args)
          (fun args => invoke d (arguments none args)) ∧
        (isMark c.name = false → ∀ v before behind,
          Eval.piped (env.filtered (k + 1)) v (before ++ c :: behind) = do
            let v ← Eval.piped (env.filtered (k + 1)) v before
            let r ← Env.commanding s!"Filter call '{c.name}' failed" (env.args k c.args)
              fun args => invoke d (arguments (some v.1) args)
            Eval.piped (env.filtered (k + 1)) (r, true) behind) ∧
        (c.name ≠ "safe" → ∀ start nodes stop, env.node (k + 2) (.filter start c nodes stop) = do
          let s ← Eval.captured (env.body (k + 1) nodes)
          Eval.emit (display (← Env.commanding s!"Filter call '{c.name}' failed" (env.args k c.args)
            fun args => invoke d (arguments (some (.string s)) args))))) ∧
      (∀ name, t.get? name = none →
        (Registry.library.register t.commands).SameAt (Registry.library.register empty.commands) name) ∧
      ∀ other : Registry Stage, (∀ name, t.get? name = none → Registry.library.SameAt other name) →
        ∀ (set : Template.Set) (context : List (String × Json)) (template : Template) (stage : Stage),
          set.render t.commands context template stage =
            set.renderWith (other.register t.commands) context template stage := by
  refine ⟨fun env henv k c d hd => ⟨?_, fun hmark v before behind => ?_, fun hsafe start nodes stop => ?_⟩,
    fun name hname => sameAt_of_get? hname _, fun other hother set context template stage => ?_⟩
  · exact Env.call_of_binds (henv ▸ binds_of_get? ht hd _) k
  · rw [Eval.piped_append]
    refine congrArg _ (funext fun v => ?_)
    rw [Eval.piped_cons hmark, Env.filtered_of_binds (henv ▸ binds_of_get? ht hd _) k]
    rfl
  · exact Env.node_filter_of_binds (henv ▸ binds_of_get? ht hd _) hsafe k start nodes stop
  · rw [Set.render, register_eq ht hother]

/-- A table with a command that goes by the name of a filter of the language. -/
def loud : Table := ⟨[("upper", ⟨"upper", ⟨[]⟩, 0, 0⟩)]⟩

/-- What that filter does of itself no longer matters, and the filters with other names are still there. -/
theorem loud_precedes :
    (∀ (set : Template.Set) (context : List (String × Json)) (template : Template) (stage : Stage),
      set.render loud.commands context template stage =
        set.renderWith ((Registry.library.addFilter "upper" fun _ _ => pure .null).register loud.commands)
          context template stage) ∧
      (Registry.library.register loud.commands).SameAt (Registry.library.register empty.commands) "trim" := by
  have hloud := commands_take_precedence (t := loud) (List.pairwise_singleton _ _)
  refine ⟨hloud.2.2 _ fun name hname => ⟨?_, rfl⟩, hloud.2.1 "trim" (by decide)⟩
  refine (if_neg fun he => ?_).symm
  rw [eq_of_beq he] at hname
  cases hname

/-- How the table of one command renders a template that stands alone. -/
def aloneWith (d : Script.Command) (host : Script.Host) (template : Template) : Rendering Stage :=
  (Template.Set.ofList [template]).render (commands ⟨[(d.name, d)]⟩) [] template (host, .empty)

/-- Whether a script has registered one command, and a template that puts `x` through it shows `x` and not what the
command makes of it. -/
def passedOver (loaded : Except Error (List Script.Command × Script.Host) × World)
    (read : Except ParseFault Template) : Bool :=
  match loaded, read with
  | (.ok ([d], host), _), .ok template =>
    Script.Host.said? (host.call d [.string "x"]).1 == some "mine" && (aloneWith d host template).fault.isNone &&
      (aloneWith d host template).text == "x"
  | _, _ => false

theorem of_passedOver {loaded : Except Error (List Script.Command × Script.Host) × World}
    {read : Except ParseFault Template} (h : passedOver loaded read = true) :
    ∃ d host w template, loaded = (.ok ([d], host), w) ∧ read = .ok template ∧
      Script.Host.said? (host.call d [.string "x"]).1 = some "mine" ∧ (aloneWith d host template).fault = none ∧
      (aloneWith d host template).text = "x" := by
  unfold passedOver at h
  split at h
  · simp only [Bool.and_eq_true, beq_iff_eq, Option.isNone_iff_eq_none] at h
    exact ⟨_, _, _, _, rfl, rfl, h.1.1, h.1.2, h.2⟩
  · cases h

/-- A script that registers a command under the name of a mark. -/
def marking : String := "registerTemplateCommand('safe', () => 'mine')"

set_option maxRecDepth 100000 in
theorem marking_passedOver : passedOver ((Script.Host.plain.load ⟨[]⟩ marking).on Script.Host.nowhere)
    (Template.parse "t.txt" "\x7b\x7b \"x\" | safe \x7d\x7d") = true := by
  simp only [Script.Host.load, Script.Host.loadUntil, Script.Realm.startUntil_stocked]
  decide +kernel

/-- The mark stays what it is. -/
theorem marking_ignored : ∃ d host w template,
    (Script.Host.plain.load ⟨[]⟩ marking).on Script.Host.nowhere = (.ok ([d], host), w) ∧
      Template.parse "t.txt" "\x7b\x7b \"x\" | safe \x7d\x7d" = .ok template ∧
      Script.Host.said? (host.call d [.string "x"]).1 = some "mine" ∧ (aloneWith d host template).fault = none ∧
      (aloneWith d host template).text = "x" :=
  of_passedOver marking_passedOver

end Table
end Command
end ApiStencil
