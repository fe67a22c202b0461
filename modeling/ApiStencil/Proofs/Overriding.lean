import ApiStencil.Proofs.Binding
import ApiStencil.Proofs.Preparing
import Mathlib.Data.List.Sort
/-!
Loading the scripts of a directory. They run one after another in the order of their paths, each once and in
a realm of its own. Of several commands with one name the last one stays, and each command that loses its name
is reported. The first script that fails ends the load.
-/
set_option autoImplicit false

namespace ApiStencil

/-- The texts of the warnings of the program itself. -/
def Journal.warnings (j : Journal) : List String :=
  (j.records.toList.filter fun r => r.level == .warn && r.source == .core).map (·.text)

theorem Journal.warnings_warn (j : Journal) (text : String) : (j.add .warn text).warnings = j.warnings ++ [text] := by
  simp [warnings, add]

theorem Journal.warnings_other (j : Journal) {level : Level} (h : level ≠ .warn) (text : String) :
    (j.add level text).warnings = j.warnings := by
  simp [warnings, add, h]

theorem Journal.warnings_hear (j : Journal) (sink : Sink) (lines : List Console.Line) :
    (j.hear sink lines).warnings = j.warnings := by
  cases sink with
  | apart => rfl
  | records =>
    induction lines generalizing j with
    | nil => rfl
    | cons line rest ih =>
      refine (ih { j with records := j.records.push (recordOf line) }).trans ?_
      simp [warnings, recordOf]

namespace Command.Table

/-- What is reported when commands are registered after `earlier` ones, each from the script at a place. -/
def warnings (earlier : List Script.Command) : List (String × Script.Command) → List String
  | [] => []
  | (relative, c) :: rest =>
    ((latest? c.name earlier).map (replacing relative)).toList ++ warnings (earlier ++ [c]) rest

theorem warnings_append (earlier : List Script.Command) (rs rs' : List (String × Script.Command)) :
    warnings earlier (rs ++ rs') = warnings earlier rs ++ warnings (earlier ++ rs.map (·.2)) rs' := by
  induction rs generalizing earlier with
  | nil => simp [warnings]
  | cons r rs ih =>
    obtain ⟨relative, c⟩ := r
    simp [warnings, ih]

/-- What commands that are registered after `earlier` ones make of a table and of a journal. -/
structure Took (earlier : List Script.Command) (rs : List (String × Script.Command)) (t t' : Table)
    (j j' : Journal) : Prop where
  lists : t'.Lists (earlier ++ rs.map (·.2))
  warned : j'.warnings = j.warnings ++ warnings earlier rs
  length : (warnings earlier rs).length + t'.names.length = t.names.length + rs.length

namespace Took

variable {earlier : List Script.Command} {rs rs' : List (String × Script.Command)} {t t' t'' : Table} {j j' j'' : Journal}

theorem nil (h : t.Lists earlier) (hj : j'.warnings = j.warnings) : Took earlier [] t t j j' :=
  ⟨by simpa using h, by simp [warnings, hj], by simp [warnings]⟩

theorem append (h : Took earlier rs t t' j j') (h' : Took (earlier ++ rs.map (·.2)) rs' t' t'' j' j'') :
    Took earlier (rs ++ rs') t t'' j j'' := by
  refine ⟨?_, ?_, ?_⟩
  · rw [List.map_append, ← List.append_assoc]
    exact h'.lists
  · rw [h'.warned, h.warned, warnings_append, List.append_assoc]
  · have := h.length
    have := h'.length
    rw [warnings_append, List.length_append, List.length_append]
    omega

theorem of_warnings_eq (h : Took earlier rs t t' j j') {k : Journal} (hk : j.warnings = k.warnings) :
    Took earlier rs t t' k j' :=
  ⟨h.lists, hk ▸ h.warned, h.length⟩

end Took

/-- One command is taken in, and the one that it replaces is reported. -/
theorem Lists.took {t : Table} {earlier : List Script.Command} (h : t.Lists earlier) (relative : String)
    (c : Script.Command) {j j' : Journal}
    (hj : j'.warnings = j.warnings ++ ((latest? c.name earlier).map (replacing relative)).toList) :
    Took earlier [(relative, c)] t (t.insert c).1 j j' := by
  refine ⟨h.insert c, by simpa [warnings] using hj, ?_⟩
  have := h.length_insert c
  simp only [warnings, List.append_nil, List.length_singleton, Option.toList_map, List.length_map]
  omega

/-- Registering always goes well. -/
theorem Lists.register {t : Table} {earlier : List Script.Command} (h : t.Lists earlier) (relative : String)
    (commands : List Script.Command) (w : World) :
    ∃ t' j, (Table.register relative commands t).on w = (.ok t', ⟨w.files, j⟩) ∧
      Took earlier (commands.map (relative, ·)) t t' w.journal j := by
  induction commands generalizing t earlier w with
  | nil => exact ⟨t, w.journal, rfl, .nil h rfl⟩
  | cons c rest ih =>
    have hinfo : Journal.Level.info ≠ .warn := by decide
    rw [Table.register, Run.bind_on_ok (Run.tell_on w _ _)]
    have hreplaced : (t.insert c).2 = latest? c.name earlier := h.bound c.name
    dsimp only
    rw [hreplaced]
    cases hl : latest? c.name earlier with
    | none =>
      obtain ⟨t', j, hrest, htook⟩ := ih (h.insert c) ⟨w.files, w.journal.add .info _⟩
      refine ⟨t', j, hrest, (h.took relative c ?_).append htook⟩
      rw [w.journal.warnings_other hinfo, hl]
      simp
    | some old =>
      obtain ⟨t', j, hrest, htook⟩ := ih (h.insert c) ⟨w.files, (w.journal.add .info _).add .warn (replacing relative old)⟩
      refine ⟨t', j, (Run.bind_on_ok (Run.tell_on _ _ _)).trans hrest, (h.took relative c ?_).append htook⟩
      rw [Journal.warnings_warn, w.journal.warnings_other hinfo, hl]
      rfl

/-- A script that has run from top to bottom, with the names that it has registered and the realm it lives in. -/
structure Ran where
  script : Path
  relative : Path
  names : List String
  realm : Script.Realm

/-- The script has been read from these files and run once in a new realm. -/
structure Ran.By (x : Ran) (host : Script.Host) (dir : TemplateDir) (fs : FileSystem) : Prop where
  relative : dir.relative x.script = .ok x.relative
  run : ∃ source text, fs.readText x.script = .ok source ∧ host.transform x.script source = .ok text ∧
    (Script.Realm.start host.timeoutMs text).1 = .ok (x.names, x.realm)

/-- Why a script cannot be read or run. -/
inductive Fails (host : Script.Host) (fs : FileSystem) (script : Path) : Error → Prop where
  | unreadable {e : IoError} : fs.readText script = .error e → Fails host fs script (.file script e)
  | refused {source : String} {e : Error} : fs.readText script = .ok source →
    host.transform script source = .error e → Fails host fs script e
  | ended {source text message : String} : fs.readText script = .ok source → host.transform script source = .ok text →
    (Script.Realm.start host.timeoutMs text).1 = .error message → Fails host fs script (.scriptLoad script message)

/-- What a script has registered, if its realm is at the place `n`. -/
def Ran.registrations (x : Ran) (n : Nat) : List (String × Script.Command) :=
  x.names.zipIdx.map fun (name, slot) => (x.relative.display, ⟨name, x.script, n, slot⟩)

/-- What scripts have registered that ran one after another, with the places of their realms counted from `n`. -/
def registrations : Nat → List Ran → List (String × Script.Command)
  | _, [] => []
  | n, x :: rest => x.registrations n ++ registrations (n + 1) rest

theorem Ran.registrations_map_snd (x : Ran) (n : Nat) :
    (x.registrations n).map (·.2) = x.names.zipIdx.map fun (name, slot) => ⟨name, x.script, n, slot⟩ := by
  rw [Ran.registrations, List.map_map]
  rfl

theorem Ran.exists_registered (x : Ran) (n : Nat) (name : String) :
    (∃ c ∈ (x.registrations n).map (·.2), c.name = name) ↔ name ∈ x.names := by
  rw [registrations_map_snd]
  have hnames := List.zipIdx_map_fst 0 x.names
  constructor
  · rintro ⟨c, hc, rfl⟩
    obtain ⟨⟨name, slot⟩, hmem, rfl⟩ := List.mem_map.mp hc
    rw [← hnames]
    exact List.mem_map_of_mem hmem
  · intro h
    rw [← hnames] at h
    obtain ⟨⟨name, slot⟩, hmem, rfl⟩ := List.mem_map.mp h
    exact ⟨_, List.mem_map_of_mem hmem, rfl⟩

section Step

variable {host : Script.Host} {dir : TemplateDir} {w : World} {script relative : Path}
  (hrelative : dir.relative script = .ok relative) (rest : List Path) (found : List Script.Command) (t : Table)

include hrelative

theorem loadScripts_unreadable {e : IoError} (hread : w.files.readText script = .error e) :
    (loadScripts dir (script :: rest) found host t).on w = (.error (.file script e), ⟨w.files,
      (w.journal.add .info s!"load template script file: {relative.display}").add .error
        s!"read template script file failed: {relative.display}: {e.message}"⟩) := by
  rw [loadScripts, Run.bind_on_ok ((Run.ofExcept_on w _).trans (by rw [hrelative]))]
  rw [Run.bind_on_ok (Run.tell_on w _ _), Run.bind_on_ok (Run.files_on _), hread]
  exact Run.bind_on_error (Run.ofFile_error_on _ _ _ _)

theorem loadScripts_read {source : String} (hread : w.files.readText script = .ok source) :
    (loadScripts dir (script :: rest) found host t).on w =
      (do
        let (commands, host) ← host.load script source
        let t ← register relative.display commands t
        loadScripts dir rest (found ++ commands) host t).on
          ⟨w.files, w.journal.add .info s!"load template script file: {relative.display}"⟩ := by
  rw [loadScripts, Run.bind_on_ok ((Run.ofExcept_on w _).trans (by rw [hrelative]))]
  rw [Run.bind_on_ok (Run.tell_on w _ _), Run.bind_on_ok (Run.files_on _), hread]
  exact Run.bind_on_ok (Run.ofFile_ok_on _ _ _ _)

end Step

/-- A script that can be read and run is passed, whatever comes after it. -/
theorem loadScripts_passes {x : Ran} {host : Script.Host} {dir : TemplateDir} {w : World} (hx : x.By host dir w.files)
    {found : List Script.Command} {t : Table} (ht : t.Lists found) :
    ∃ t' j, Took found (x.registrations host.realms.size) t t' w.journal j ∧
      ∀ rest, (loadScripts dir (x.script :: rest) found host t).on w =
        (loadScripts dir rest (found ++ (x.registrations host.realms.size).map (·.2))
          { host with realms := host.realms.push x.realm } t').on ⟨w.files, j⟩ := by
  obtain ⟨source, text, hread, htext, hstart⟩ := hx.run
  rcases hlines : Script.Realm.start host.timeoutMs text with ⟨outcome, lines⟩
  obtain rfl : outcome = .ok (x.names, x.realm) := by rw [← hstart, hlines]
  let told := w.journal.add .info s!"load template script file: {x.relative.display}"
  obtain ⟨t', j, hregister, htook⟩ := ht.register x.relative.display
    (x.names.zipIdx.map fun (name, slot) => ⟨name, x.script, host.realms.size, slot⟩)
    ⟨w.files, told.hear host.sink lines⟩
  rw [List.map_map] at htook
  refine ⟨t', j, htook.of_warnings_eq ?_, fun rest => ?_⟩
  · rw [Journal.warnings_hear, Journal.warnings_other _ (by decide)]
  · rw [loadScripts_read hx.relative rest found t hread, Run.bind_on_ok (Script.Host.load_started _ htext hlines)]
    rw [Run.bind_on_ok hregister, x.registrations_map_snd]

/-- A script that cannot be read or run ends the load, whatever would come after it. -/
theorem loadScripts_fails {host : Script.Host} {dir : TemplateDir} {w : World} {script relative : Path} {e : Error}
    (hrelative : dir.relative script = .ok relative) (he : Fails host w.files script e) (found : List Script.Command)
    (t : Table) :
    ∃ j, ∀ rest, (loadScripts dir (script :: rest) found host t).on w = (.error e, ⟨w.files, j⟩) := by
  cases he with
  | unreadable hread => exact ⟨_, fun rest => loadScripts_unreadable hrelative rest found t hread⟩
  | refused hread htext =>
    exact ⟨_, fun rest => (loadScripts_read hrelative rest found t hread).trans
      (Run.bind_on_error (Script.Host.load_refused _ htext))⟩
  | @ended source text message hread htext hstart =>
    rcases hlines : Script.Realm.start host.timeoutMs text with ⟨outcome, lines⟩
    obtain rfl : outcome = .error message := by rw [← hstart, hlines]
    exact ⟨_, fun rest => (loadScripts_read hrelative rest found t hread).trans
      (Run.bind_on_error (Script.Host.load_ended _ htext hlines))⟩

/-- A script either can be read and run or fails. -/
theorem by_or_fails {dir : TemplateDir} {script relative : Path} (hrelative : dir.relative script = .ok relative)
    (host : Script.Host) (fs : FileSystem) :
    (∃ x : Ran, x.script = script ∧ x.By host dir fs) ∨ ∃ e, Fails host fs script e := by
  cases hread : fs.readText script with
  | error e => exact .inr ⟨_, .unreadable hread⟩
  | ok source =>
    cases htext : host.transform script source with
    | error e => exact .inr ⟨_, .refused hread htext⟩
    | ok text =>
      cases hstart : (Script.Realm.start host.timeoutMs text).1 with
      | error message => exact .inr ⟨_, .ended hread htext hstart⟩
      | ok made => exact .inl ⟨⟨script, relative, made.1, made.2⟩, rfl, hrelative, source, text, hread, htext, hstart⟩

/-- What comes of scripts that run one after another: all are passed, or the first one that fails ends the load. -/
theorem loadScripts_settles {dir : TemplateDir} {scripts : List Path}
    (hrelative : ∀ p ∈ scripts, ∃ relative, dir.relative p = .ok relative) {found : List Script.Command}
    (host : Script.Host) {t : Table} (ht : t.Lists found) (w : World) :
    (∃ (ran : List Ran) (t' : Table) (j : Journal), scripts = ran.map Ran.script ∧ (∀ x ∈ ran, x.By host dir w.files) ∧
        (loadScripts dir scripts found host t).on w =
          (.ok (found ++ (registrations host.realms.size ran).map (·.2), t',
            { host with realms := host.realms ++ (ran.map Ran.realm).toArray }), ⟨w.files, j⟩) ∧
        Took found (registrations host.realms.size ran) t t' w.journal j) ∨
      ∃ (ran : List Ran) (p : Path) (later : List Path) (e : Error) (j : Journal),
        scripts = ran.map Ran.script ++ p :: later ∧ (∀ x ∈ ran, x.By host dir w.files) ∧ Fails host w.files p e ∧
        ∀ others, (loadScripts dir (ran.map Ran.script ++ p :: others) found host t).on w =
          (.error e, ⟨w.files, j⟩) := by
  induction scripts generalizing found host t w with
  | nil =>
    refine .inl ⟨[], t, w.journal, rfl, by simp, ?_, .nil ht rfl⟩
    simp [loadScripts, registrations]
  | cons p rest ih =>
    obtain ⟨relative, hp⟩ := hrelative p (by simp)
    rcases by_or_fails hp host w.files with ⟨x, rfl, hx⟩ | ⟨e, he⟩
    · obtain ⟨t₁, j₁, htook, hpass⟩ := loadScripts_passes hx ht
      have hall {ran : List Ran} (h : ∀ y ∈ ran, y.By { host with realms := host.realms.push x.realm } dir w.files) :
          ∀ y ∈ x :: ran, y.By host dir w.files := by
        intro y hy
        rcases List.mem_cons.mp hy with rfl | hy
        · exact hx
        · exact ⟨(h y hy).relative, (h y hy).run⟩
      rcases ih (fun q hq => hrelative q (List.mem_cons_of_mem _ hq)) { host with realms := host.realms.push x.realm }
        htook.lists ⟨w.files, j₁⟩ with ⟨ran, t', j, rfl, hran, hrun, hrest⟩ | ⟨ran, p, later, e, j, rfl, hran, he, hrun⟩
      · refine .inl ⟨x :: ran, t', j, rfl, hall hran, ?_, ?_⟩
        · rw [hpass, hrun]
          simp [registrations]
        · rw [Array.size_push] at hrest
          exact htook.append hrest
      · refine .inr ⟨x :: ran, p, later, e, j, rfl, hall hran, ?_, fun others => (hpass _).trans (hrun others)⟩
        cases he with
        | unreadable h => exact .unreadable h
        | refused h h' => exact .refused h h'
        | ended h h' h'' => exact .ended h h' h''
    · obtain ⟨j, hfail⟩ := loadScripts_fails hp he found t
      exact .inr ⟨[], p, rest, e, j, rfl, by simp, he, hfail⟩

theorem Ran.By.not_fails {x : Ran} {host : Script.Host} {dir : TemplateDir} {fs : FileSystem} (hx : x.By host dir fs)
    (e : Error) : ¬Fails host fs x.script e := by
  obtain ⟨source, text, hread, htext, hstart⟩ := hx.run
  intro he
  cases he with
  | unreadable h => simp [hread] at h
  | refused h h' =>
    obtain rfl : source = _ := Except.ok.inj (hread.symm.trans h)
    simp [htext] at h'
  | ended h h' h'' =>
    obtain rfl : source = _ := Except.ok.inj (hread.symm.trans h)
    obtain rfl : text = _ := Except.ok.inj (htext.symm.trans h')
    simp [hstart] at h''

/-- A load runs the scripts that are found. -/
theorem load_of_found {host h : Script.Host} {dir : TemplateDir} {extensions : List String} {w v : World}
    {scripts : List Path} {found : List Script.Command} {t : Table} (hfound : dir.findFiles w.files extensions = .ok scripts)
    (hrun : (loadScripts dir scripts [] host empty).on w = (.ok (found, t, h), v)) :
    (load host dir extensions).on w = (.ok (t, h), v) := by
  have hall : (loadAll host dir extensions).on w = (.ok (found, t, h), v) := by
    rw [loadAll, Run.bind_on_ok (Run.files_on w), Run.bind_on_ok ((Run.ofExcept_on w _).trans (by rw [hfound]))]
    exact hrun
  exact Run.bind_on_ok hall

/-- All scripts of a directory are run, each once and in the order of their paths, and the table that they leave
lists each name once with the last command that was registered under it; what was replaced is reported, one
warning for each registration over the number of names. Otherwise the first script that fails gives the error,
and those behind it do not matter. -/
theorem load_last_wins (host : Script.Host) (dir : TemplateDir) (extensions : List String) (w : World)
    (hs : w.files.Sound) (hroot : w.files.isDir dir.root = true) :
    ∃ scripts nss, dir.findFiles w.files extensions = .ok scripts ∧ TemplateDir.Spread dir.root scripts nss ∧
      ((∃ (ran : List Ran) (t : Table) (j : Journal), scripts = ran.map Ran.script ∧
          (∀ x ∈ ran, x.By host dir w.files) ∧ (∀ p ∈ scripts, ∀ e, ¬Fails host w.files p e) ∧
          (load host dir extensions).on w =
            (.ok (t, { host with realms := host.realms ++ (ran.map Ran.realm).toArray }), ⟨w.files, j⟩) ∧
          t.Lists ((registrations host.realms.size ran).map (·.2)) ∧
          j.warnings = w.journal.warnings ++ warnings [] (registrations host.realms.size ran) ∧
          (warnings [] (registrations host.realms.size ran)).length + t.names.length =
            (registrations host.realms.size ran).length) ∨
        ∃ (ran : List Ran) (p : Path) (later : List Path) (e : Error) (j : Journal),
          scripts = ran.map Ran.script ++ p :: later ∧ (∀ x ∈ ran, x.By host dir w.files) ∧
          Fails host w.files p e ∧ (load host dir extensions).on w = (.error e, ⟨w.files, j⟩) ∧
          ∀ others, (loadScripts dir (ran.map Ran.script ++ p :: others) [] host empty).on w =
            (.error e, ⟨w.files, j⟩)) := by
  obtain ⟨scripts, hscripts⟩ := TemplateDir.findFiles_ok dir extensions hroot
  obtain ⟨nss, hspread, hnil, -⟩ := TemplateDir.findFiles_spread hs dir hroot hscripts
  have hrelative : ∀ p ∈ scripts, ∃ relative, dir.relative p = .ok relative := by
    intro p hp
    rw [hspread.eq] at hp
    obtain ⟨ns, hns, rfl⟩ := List.mem_map.mp hp
    exact ⟨_, Path.relativeTo_descend dir.root (fun h => hnil (h ▸ hns)) (hspread.names ns hns)⟩
  have hload {r : Except Error (List Script.Command × Table × Script.Host) × World}
      (h : (loadScripts dir scripts [] host empty).on w = r) : (loadAll host dir extensions).on w = r := by
    rw [loadAll, Run.bind_on_ok (Run.files_on w), Run.bind_on_ok ((Run.ofExcept_on w _).trans (by rw [hscripts]))]
    exact h
  refine ⟨scripts, nss, hscripts, hspread, ?_⟩
  rcases loadScripts_settles hrelative host lists_empty w with
    ⟨ran, t, j, rfl, hran, hrun, htook⟩ | ⟨ran, p, later, e, j, rfl, hran, he, hrun⟩
  · refine .inl ⟨ran, t, j, rfl, hran, ?_, Run.bind_on_ok (hload hrun), htook.lists, htook.warned, ?_⟩
    · intro p hp e
      obtain ⟨x, hx, rfl⟩ := List.mem_map.mp hp
      exact (hran x hx).not_fails e
    · simpa [empty, names] using htook.length
  · exact .inr ⟨ran, p, later, e, j, rfl, hran, he, Run.bind_on_error (hload (hrun later)), hrun⟩

/-- Two scripts that both register the name `up`. -/
def contested : World :=
  .ofTexts [["t"]] [(["t", "a.js"], "registerTemplateCommand('up', () => 1); registerTemplateCommand('low', () => 2)"),
    (["t", "b.js"], "registerTemplateCommand('up', () => 3)")]

/-- Whether a load has gone well and has left a table with these names. -/
def lists (loaded : Except Error (Table × Script.Host) × World) (names : List String) : Bool :=
  match loaded.1 with
  | .ok (t, _) => t.names == names
  | .error _ => false

/-- A table lists its names in the one order in which they ascend. -/
theorem Lists.names_eq {t : Table} {commands : List Script.Command} {names : List String} (h : t.Lists commands)
    (ha : names.Pairwise (· < ·)) (hn : ∀ name, name ∈ names ↔ ∃ c ∈ commands, c.name = name) : t.names = names := by
  have : Std.Asymm fun a b : String => a < b := ⟨fun _ _ => String.lt_asymm⟩
  exact h.ascending.eq_of_mem_iff ha fun name => (h.names name).trans (hn name).symm

/-- Whether a script has come to its end and has registered these names. -/
def registers (done : Except String (List String × Script.Realm)) (names : List String) : Bool :=
  match done with
  | .ok (ns, _) => ns == names
  | .error _ => false

theorem by_of_registers {host : Script.Host} {dir : TemplateDir} {fs : FileSystem} {script relative : Path}
    {source text : String} {names : List String} (hrelative : dir.relative script = .ok relative)
    (hread : fs.readText script = .ok source) (htext : host.transform script source = .ok text)
    (h : registers (Script.Realm.start host.timeoutMs text).1 names = true) :
    ∃ x : Ran, x.script = script ∧ x.names = names ∧ x.By host dir fs := by
  unfold registers at h
  split at h
  · rename_i ns realm hstart
    exact ⟨⟨script, relative, ns, realm⟩, rfl, beq_iff_eq.mp h, hrelative, source, text, hread, htext, hstart⟩
  · cases h

set_option maxRecDepth 100000 in
theorem contested_first : registers (Script.Realm.start none
    "registerTemplateCommand('up', () => 1); registerTemplateCommand('low', () => 2)").1 ["up", "low"] = true := by
  rw [Script.Realm.start, Script.Realm.startUntil_stocked]
  decide +kernel

set_option maxRecDepth 100000 in
theorem contested_second :
    registers (Script.Realm.start none "registerTemplateCommand('up', () => 3)").1 ["up"] = true := by
  rw [Script.Realm.start, Script.Realm.startUntil_stocked]
  decide +kernel

theorem contested_lists :
    lists ((load Script.Host.plain ⟨.ofString "/t", none⟩ ["js"]).on contested) ["low", "up"] = true := by
  have hfound : TemplateDir.findFiles ⟨.ofString "/t", none⟩ contested.files ["js"] =
      .ok [.ofString "/t/a.js", .ofString "/t/b.js"] := rfl
  obtain ⟨x, hscript, hnames, hx⟩ : ∃ x : Ran, x.script = .ofString "/t/a.js" ∧ x.names = ["up", "low"] ∧
      x.By Script.Host.plain ⟨.ofString "/t", none⟩ contested.files := by_of_registers rfl rfl rfl contested_first
  obtain ⟨y, hscript', hnames', hy⟩ : ∃ y : Ran, y.script = .ofString "/t/b.js" ∧ y.names = ["up"] ∧
      y.By Script.Host.plain ⟨.ofString "/t", none⟩ contested.files := by_of_registers rfl rfl rfl contested_second
  obtain ⟨t, j, htook, hpass⟩ := loadScripts_passes hx lists_empty
  have hy : y.By { Script.Host.plain with realms := Script.Host.plain.realms.push x.realm } ⟨.ofString "/t", none⟩
      contested.files := ⟨hy.relative, hy.run⟩
  obtain ⟨t', j', htook', hpass'⟩ := loadScripts_passes (w := ⟨contested.files, j⟩) hy htook.lists
  have hlists : t'.names = ["low", "up"] := by
    refine htook'.lists.names_eq (by decide) fun name => ?_
    simp only [List.nil_append, List.mem_append, or_and_right, exists_or, Ran.exists_registered, hnames, hnames']
    simp only [List.mem_cons, List.not_mem_nil, or_false]
    tauto
  rw [← hscript, ← hscript'] at hfound
  rw [load_of_found hfound ((hpass _).trans (hpass' []))]
  exact beq_iff_eq.mpr hlists

set_option maxRecDepth 100000 in
/-- What `load_last_wins` says of these. -/
theorem contested_last_wins : ∃ t h v ran, (load Script.Host.plain ⟨.ofString "/t", none⟩ ["js"]).on contested = (.ok (t, h), v) ∧
    t.names = ["low", "up"] ∧ ran.map Ran.script = [.ofString "/t/a.js", .ofString "/t/b.js"] ∧
      t.Lists ((registrations 0 ran).map (·.2)) ∧ v.journal.warnings = warnings [] (registrations 0 ran) ∧
      (warnings [] (registrations 0 ran)).length + 2 = (registrations 0 ran).length := by
  have hlists := contested_lists
  have hfound : TemplateDir.findFiles ⟨.ofString "/t", none⟩ contested.files ["js"] =
      .ok [.ofString "/t/a.js", .ofString "/t/b.js"] := rfl
  obtain ⟨scripts, nss, hscripts, -, h⟩ :=
    load_last_wins Script.Host.plain ⟨.ofString "/t", none⟩ ["js"] contested (by decide +kernel) (by decide +kernel)
  obtain rfl := Except.ok.inj (hfound.symm.trans hscripts)
  rcases h with ⟨ran, t, j, hran, -, -, hrun, htable, hwarned, hcount⟩ | ⟨_, _, _, e, j, -, -, -, hrun, -⟩
  · rw [hrun, lists, beq_iff_eq] at hlists
    rw [hlists] at hcount
    exact ⟨t, _, _, ran, hrun, hlists, hran.symm, htable, hwarned, hcount⟩
  · rw [hrun, lists] at hlists
    cases hlists

end Command.Table
end ApiStencil
