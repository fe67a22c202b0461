import Mathlib.Data.List.Induction
import Mathlib.Data.List.Sort
import ApiStencil.Proofs.Laying
/-!
What a run finds and reads when it is made again. The outputs of the first run are left out of the search when
they are looked for by the path that the templates are looked for by, so the second run comes to the same scripts,
the same commands and the same templates, and it does so too when the outputs go to another place.
-/
set_option autoImplicit false

namespace ApiStencil

open FileSystem

/-- What begins an absolute path is absolute. -/
theorem Path.isAbsolute_of_startsWith {p q : Path} (hempty : p.isEmpty = false) (hq : q.isAbsolute = true)
    (h : q.startsWith p = true) : p.isAbsolute = true := by
  obtain ⟨rest, hrest⟩ := List.isPrefixOf_iff_prefix.mp h
  have hroot : p.components ≠ [] → Component.root ∈ p.components := by
    intro hne
    obtain ⟨c, cs, hcs⟩ := List.exists_cons_of_ne_nil hne
    rw [hcs, components, if_pos hq, List.cons_append, List.cons.injEq] at hrest
    simp [hcs, hrest.1]
  rw [isAbsolute_iff]
  refine hroot fun hnil => ?_
  -- a path that is not empty has a component, or begins with a slash
  obtain ⟨b, ps, hps⟩ := List.exists_cons_of_ne_nil p.pieces_ne_nil
  have hnamed : p.named = [] := named_of_components_isEmpty (by simp [hnil])
  have hrelative : p.isAbsolute = false := by
    cases habsolute : p.isAbsolute with
    | false => rfl
    | true => simp [components, habsolute] at hnil
  have hblank : b = [] ∨ b = [dot] := by
    rw [named, hps, List.filter_eq_nil_iff] at hnamed
    exact Decidable.or_iff_not_imp_left.mpr (by simpa [isBlank] using hnamed b (by simp))
  rcases hblank with rfl | rfl
  · cases ps with
    | nil =>
      have hbytes := congrArg bytes (ofPieces_pieces p)
      rw [hps] at hbytes
      simp [isEmpty, ← hbytes, ofPieces, List.intercalate] at hempty
    | cons b' ps =>
      rw [isAbsolute_iff_pieces.mpr ⟨_, by simp, hps⟩] at hrelative
      cases hrelative
  · simp [components, hrelative, hps] at hnil

namespace FileSystem

/-- A file system as disks hold it, without links: each location is listed once, under proper names, and whatever
stands somewhere stands in a directory. -/
structure Regular (fs : FileSystem) : Prop where
  sound : fs.Sound
  linkFree : fs.LinkFree []
  connected : ∀ x ∈ fs.entries, fs.at? x.1.dropLast = some .directory

theorem Regular.above {fs : FileSystem} (h : fs.Regular) {l : Location} {e : Entry} (he : fs.at? l = some e) :
    fs.Above [] l (· = some .directory) := by
  induction l using List.reverseRecOn generalizing e with
  | nil => exact fun k hk hne => absurd (List.prefix_nil.mp hk) hne
  | append_singleton l n ih =>
    rw [at?_of_ne_nil fs (by simp)] at he
    have hdir := h.connected _ (mem_of_lookup he)
    rw [List.dropLast_concat] at hdir
    intro k hk hne
    rcases List.prefix_concat_iff.mp hk with rfl | hk
    · exact absurd rfl hne
    · by_cases hkl : k = l
      · rwa [hkl]
      · exact ih hdir k hk hkl

/-- Nothing stands at or below a location where nothing stands. -/
theorem Regular.none_below {fs : FileSystem} (h : fs.Regular) {l : Location} (hl : fs.at? l = none) (names : List Bytes) :
    fs.at? (l ++ names) = none := by
  by_cases hne : names = []
  · rwa [hne, List.append_nil]
  · cases he : fs.at? (l ++ names) with
    | none => rfl
    | some e =>
      have hdir : fs.at? l = some .directory := h.above he l (List.prefix_append l names) (by simp [hne])
      rw [hl] at hdir
      cases hdir

/-- An absolute path without dots, at whose place nothing stands. -/
structure Fresh (fs : FileSystem) (p : Path) : Prop where
  straight : p.Straight
  vacant : fs.at? p.named = none

/-- Absolute paths of proper names lead where they say. -/
theorem leads_named {fs : FileSystem} (hfree : fs.LinkFree []) {p : Path} (habsolute : p.isAbsolute = true)
    (hnames : ∀ n ∈ p.named, Path.IsName n) : fs.Leads p p.named := by
  have hheads : fs.Heads [] p.named ([] ++ p.named) := .of_names hnames fun k hk _ t => hfree k t hk
  refine hheads.of_filter ?_
  rw [stepsFromRoot, if_pos habsolute, steps_filter]
  exact (List.filter_eq_self.mpr fun n hn => by simpa using (hnames n hn).notDot).symm

theorem Walks.grows_directory {fs gs : FileSystem} (hg : fs.Grows gs) {follow : Bool} {n : Nat} {d l : Location}
    {names : List Bytes} (h : Walks fs follow n d names (.present l .directory)) :
    Walks gs follow n d names (.present l .directory) := by
  generalize hr : Target.present l .directory = r at h ⊢
  induction h with
  | here n he =>
    cases hr
    exact .here n (hg.directories _ he)
  | stay he _ ih => exact .stay (hg.directories _ he) (ih hr)
  | up he _ ih => exact .up (hg.directories _ he) (ih hr)
  | @down n d name rest r e hdir hp he hl hw ih =>
    cases e with
    | directory => exact .down (hg.directories _ hdir) hp (hg.directories _ he) (by simp) (ih hr)
    | file c =>
      obtain ⟨-, rfl⟩ := hw.of_file he
      cases hr
    | link t => exact absurd rfl (hl t)
  | vacant => cases hr
  | link => cases hr
  | through hdir hp he hf _ ih => exact .through (hg.directories _ hdir) hp ((hg.links _ _).mpr he) hf (ih hr)

theorem isDir_grows {fs gs : FileSystem} (hg : fs.Grows gs) {p : Path} (h : fs.isDir p = true) : gs.isDir p = true := by
  obtain ⟨l, hl⟩ := isDir_iff.mp h
  obtain ⟨hnul, hempty, hw⟩ := resolve_iff.mp hl
  refine isDir_iff.mpr ⟨l, resolve_iff.mpr ⟨hnul, hempty, ?_⟩⟩
  rw [stepsFromRoot, hg.workingDir]
  exact hw.grows_directory hg

theorem Leads.grows {fs gs : FileSystem} (hg : fs.Grows gs) {p : Path} {l : Location} (h : fs.Leads p l) : gs.Leads p l := by
  have hsteps : gs.stepsFromRoot p = fs.stepsFromRoot p := by rw [stepsFromRoot, stepsFromRoot, hg.workingDir]
  have hheads {d k : Location} {names : List Bytes} (h : fs.Heads d names k) : gs.Heads d names k := by
    induction h with
    | here d => exact .here d
    | stay _ ih => exact .stay ih
    | up _ ih => exact .up ih
    | down hdot hup hn _ ih => exact .down hdot hup (fun t ht => hn t ((hg.links _ t).mp ht)) ih
    | through hdot hup hn _ ih => exact .through hdot hup ((hg.links _ _).mpr hn) ih
  rw [Leads, hsteps]
  exact hheads h

end FileSystem

/-- What goes well on some files comes to the same on others, and both are left as they are. -/
def Run.Carries {α : Type} (fs gs : FileSystem) (x y : Run α) : Prop :=
  ∀ j a v, x.on ⟨fs, j⟩ = (.ok a, v) → v.files = fs ∧ ∀ k, ∃ k', y.on ⟨gs, k⟩ = (.ok a, ⟨gs, k'⟩)

namespace Run.Carries

variable {α β : Type} {fs gs : FileSystem}

theorem pure (a : α) : Carries fs gs (Pure.pure a : Run α) (Pure.pure a) := by
  intro j b v h
  rw [Run.pure_on] at h
  cases h
  exact ⟨rfl, fun k => ⟨k, rfl⟩⟩

theorem throw (e : Error) (y : Run α) : Carries fs gs (throwThe Error e) y := by
  intro j a v h
  cases h

theorem bind {x y : Run α} {f g : α → Run β} (hx : Carries fs gs x y) (hf : ∀ a, Carries fs gs (f a) (g a)) :
    Carries fs gs (x >>= f) (y >>= g) := by
  intro j b v h
  obtain ⟨a, ⟨fs', j'⟩, ha, hb⟩ := Run.bind_on_eq_ok h
  obtain ⟨rfl, hy⟩ := hx j a _ ha
  obtain ⟨hfiles, hg⟩ := hf a j' b v hb
  refine ⟨hfiles, fun k => ?_⟩
  obtain ⟨k', hk'⟩ := hy k
  obtain ⟨k'', hk''⟩ := hg k'
  exact ⟨k'', (Run.bind_on_ok hk').trans hk''⟩

theorem reading {f g : FileSystem → Run β} (hf : Carries fs gs (f fs) (g gs)) :
    Carries fs gs (Run.files >>= f) (Run.files >>= g) := by
  intro j b v h
  rw [Run.bind_on_ok (Run.files_on _)] at h
  obtain ⟨hfiles, hg⟩ := hf j b v h
  exact ⟨hfiles, fun k => by rw [Run.bind_on_ok (Run.files_on _)]; exact hg k⟩

theorem tell (level : Journal.Level) (text : String) : Carries fs gs (Run.tell level text) (Run.tell level text) := by
  intro j a v h
  cases h
  exact ⟨rfl, fun k => ⟨_, rfl⟩⟩

theorem hear (sink : Journal.Sink) (lines : List Console.Line) :
    Carries fs gs (Run.hear sink lines) (Run.hear sink lines) := by
  intro j a v h
  cases h
  exact ⟨rfl, fun k => ⟨_, rfl⟩⟩

theorem ofExcept {x y : Except Error α} (hx : ∀ a, x = .ok a → y = .ok a) :
    Carries fs gs (Run.ofExcept x) (Run.ofExcept y) := by
  intro j a v h
  obtain ⟨hok, rfl⟩ := Run.ofExcept_on_eq h
  rw [hx a hok]
  exact ⟨rfl, fun k => ⟨k, rfl⟩⟩

/-- What follows may depend on what has been found. -/
theorem given {x y : Except Error α} {f g : α → Run β}
    (h : ∀ a, x = .ok a → y = .ok a ∧ Carries fs gs (f a) (g a)) :
    Carries fs gs (Run.ofExcept x >>= f) (Run.ofExcept y >>= g) := by
  cases x with
  | error e =>
    intro j b v hb
    cases hb
  | ok a =>
    obtain ⟨rfl, hf⟩ := h a rfl
    show Carries fs gs (Pure.pure a >>= f) (Pure.pure a >>= g)
    rwa [pure_bind, pure_bind]

theorem ofFile {x y : Except IoError α} (hx : ∀ a, x = .ok a → y = .ok a) (what : String) (path : Path) :
    Carries fs gs (Run.ofFile what path x) (Run.ofFile what path y) := by
  intro j a v h
  obtain ⟨hok, rfl⟩ := Renderer.ofFile_on_ok h
  rw [hx a hok]
  exact ⟨rfl, fun k => ⟨k, rfl⟩⟩

end Run.Carries

open Run

/-- Two directories of one root. -/
theorem TemplateDir.relative_eq {dir dir' : TemplateDir} (hroot : dir'.root = dir.root) (p : Path) :
    dir'.relative p = dir.relative p := by
  rw [relative, relative, hroot]

theorem Script.Host.load_carries {fs gs : FileSystem} (h : Script.Host) (script : Path) (source : String) :
    Carries fs gs (h.load script source) (h.load script source) := by
  refine (Carries.ofExcept fun _ hok => hok).bind fun source => ?_
  dsimp only
  refine (Carries.hear _ _).bind fun _ => ?_
  split
  · exact (Carries.tell _ _).bind fun _ => .throw _ _
  · exact .pure _

namespace Command.Table

theorem register_carries {fs gs : FileSystem} (relative : String) (commands : List Script.Command) (t : Table) :
    Carries fs gs (register relative commands t) (register relative commands t) := by
  induction commands generalizing t with
  | nil => exact .pure t
  | cons c rest ih =>
    refine (Carries.tell _ _).bind fun _ => ?_
    dsimp only
    split
    · exact (Carries.tell _ _).bind fun _ => ih _
    · exact (Carries.pure _).bind fun _ => ih _

section Carries

variable {fs gs : FileSystem} {dir dir' : TemplateDir} (hroot : dir'.root = dir.root)

include hroot

theorem loadScripts_carries {scripts : List Path}
    (hread : ∀ p ∈ scripts, ∀ s, fs.readText p = .ok s → gs.readText p = .ok s) (found : List Script.Command)
    (host : Script.Host) (t : Table) :
    Carries fs gs (loadScripts dir scripts found host t) (loadScripts dir' scripts found host t) := by
  induction scripts generalizing found host t with
  | nil => exact .pure _
  | cons p rest ih =>
    refine (Carries.ofExcept fun _ hok => (TemplateDir.relative_eq hroot p).trans hok).bind fun relative => ?_
    refine (Carries.tell _ _).bind fun _ => .reading ?_
    refine (Carries.ofFile (fun s hs => hread p (by simp) s hs) _ _).bind fun source => ?_
    refine (host.load_carries p source).bind fun loaded => ?_
    exact (register_carries _ _ _).bind fun t => ih (fun q hq => hread q (List.mem_cons_of_mem _ hq)) _ _ _

theorem loadAll_carries {extensions : List String} (host : Script.Host)
    (hfind : ∀ scripts, dir.findFiles fs extensions = .ok scripts → dir'.findFiles gs extensions = .ok scripts ∧
      ∀ p ∈ scripts, ∀ s, fs.readText p = .ok s → gs.readText p = .ok s) :
    Carries fs gs (loadAll host dir extensions) (loadAll host dir' extensions) :=
  .reading (.given fun scripts hfound =>
    ⟨(hfind scripts hfound).1, loadScripts_carries hroot (hfind scripts hfound).2 _ _ _⟩)

end Carries

end Command.Table

namespace Renderer

section Carries

variable {fs gs : FileSystem} {dir dir' : TemplateDir} (hroot : dir'.root = dir.root)

include hroot

theorem parseFile_carries {file : Path} (hread : ∀ s, fs.readText file = .ok s → gs.readText file = .ok s) :
    Carries fs gs (parseFile dir file) (parseFile dir' file) := by
  refine (Carries.ofExcept fun _ hok => (TemplateDir.relative_eq hroot file).trans hok).bind fun rel => .reading ?_
  refine (Carries.ofFile hread _ _).bind fun source => ?_
  split
  · exact (Carries.tell _ _).bind fun _ => .pure _
  · exact (Carries.tell _ _).bind fun _ => .throw _ _

theorem parseFiles_carries {files : List Path}
    (hread : ∀ p ∈ files, ∀ s, fs.readText p = .ok s → gs.readText p = .ok s) :
    Carries fs gs (parseFiles dir files) (parseFiles dir' files) := by
  induction files with
  | nil => exact .pure _
  | cons p rest ih =>
    refine (parseFile_carries hroot (hread p (by simp))).bind fun t => ?_
    exact (ih fun q hq => hread q (List.mem_cons_of_mem _ hq)).bind fun _ => .pure _

theorem parseAll_carries {ext : String}
    (hfind : ∀ files, dir.findFiles fs [ext] = .ok files → dir'.findFiles gs [ext] = .ok files ∧
      ∀ p ∈ files, ∀ s, fs.readText p = .ok s → gs.readText p = .ok s) :
    Carries fs gs (parseAll dir ext) (parseAll dir' ext) := by
  refine .reading (.given fun files hfound => ⟨(hfind files hfound).1, ?_⟩)
  refine (parseFiles_carries hroot (hfind files hfound).2).bind fun templates => ?_
  dsimp only
  split
  · exact .pure _
  · rw [hroot]
    exact (Carries.tell _ _).bind fun _ => .throw _ _

end Carries

/-- Everything that is found and read being the same, a run works on the same. -/
theorem prepare_carries {r : Renderer} {templates out : Path} {fs gs : FileSystem} {p : Prepared} {j : Journal} {u : World}
    (other : Path) (hprepare : (r.prepare templates out).on ⟨fs, j⟩ = (.ok p, u)) (hdir : gs.isDir templates = true)
    (hfind : ∀ extensions files, p.dir.findFiles fs extensions = .ok files →
      ((TemplateDir.mk templates none).excluding other).findFiles gs extensions = .ok files ∧
        ∀ f ∈ files, ∀ s, fs.readText f = .ok s → gs.readText f = .ok s) (k : Journal) :
    ∃ k', (r.prepare templates other).on ⟨gs, k⟩ =
      (.ok { p with dir := (TemplateDir.mk templates none).excluding other }, ⟨gs, k'⟩) := by
  have hroot : ((TemplateDir.mk templates none).excluding other).root = p.dir.root := by
    rw [(prepare_ok hprepare).1.root, TemplateDir.root_excluding]
  obtain ⟨dir, ⟨fs', j₁⟩, hopen, h⟩ := bind_on_eq_ok hprepare
  obtain rfl : fs' = fs := by
    have hkeeps := (openDir_reads templates out).keepsFiles ⟨fs, j⟩
    rwa [hopen] at hkeeps
  rw [bind_on_ok (tell_on _ _ _)] at h
  obtain ⟨⟨registered, table, host⟩, ⟨fs₂, j₂⟩, hload, h⟩ := bind_on_eq_ok h
  obtain ⟨⟨parsed, set⟩, u₃, hparse, h⟩ := bind_on_eq_ok h
  rw [pure_on] at h
  cases h
  obtain ⟨rfl, hload'⟩ := Command.Table.loadAll_carries hroot r.host (hfind _) _ _ _ hload
  obtain ⟨-, hparse'⟩ := parseAll_carries hroot (hfind _) _ _ _ hparse
  obtain ⟨k₁, hload'⟩ := hload'
    (k.add .info s!"Rendering templates from {((TemplateDir.mk templates none).excluding other).root.display}")
  obtain ⟨k₂, hparse'⟩ := hparse' k₁
  refine ⟨k₂, ?_⟩
  rw [prepare, bind_on_ok (openDir_of_isDir other (w := ⟨gs, k⟩) hdir), bind_on_ok (tell_on _ _ _), bind_on_ok hload',
    bind_on_ok hparse']
  rfl

end Renderer

namespace TemplateDir

/-- The files that are to be found below a directory, by the names that lead to them. -/
def Keeps (dir : TemplateDir) (fs : FileSystem) (extensions : List String) (base : Location) (names : List Bytes) : Prop :=
  names ≠ [] ∧ Marked fs extensions (base ++ names) ∧ ∀ k, k <+: names → dir.skips (dir.root.descend k) = false

section Found

variable {fs : FileSystem} (hs : fs.Sound) (dir : TemplateDir) {base : Location} (hdir : fs.isDir dir.root = true)
  (hbase : fs.Leads dir.root base) (hskip : dir.skips dir.root = false)

include hs hdir hbase hskip

/-- What is found is what there is to be found, in the order of its names. -/
theorem findFiles_keeps (extensions : List String) :
    ∃ nss : List (List Bytes), dir.findFiles fs extensions = .ok (nss.map dir.root.descend) ∧ nss.Pairwise (· < ·) ∧
      ∀ names, names ∈ nss ↔ dir.Keeps fs extensions base names := by
  obtain ⟨hresolve, hrooted⟩ := resolve_root hdir hbase
  obtain ⟨found, hfound, hmem⟩ := mem_findFiles_iff hs extensions hresolve hskip
  obtain ⟨nss, hspread, hnil, -⟩ := findFiles_spread hs dir hdir hfound
  refine ⟨nss, by rw [hfound, hspread.eq], hspread.ascending, fun names => ⟨fun hnames => ?_, fun hkeeps => ?_⟩⟩
  · have hf : dir.root.descend names ∈ found := by
      rw [hspread.eq]
      exact List.mem_map_of_mem hnames
    obtain ⟨names', hstands⟩ := (hmem _).mp hf
    obtain rfl := Path.descend_inj dir.root (hspread.names names hnames) hstands.proper hstands.path
    have hne : names ≠ [] := by
      rintro rfl
      exact hnil hnames
    exact ⟨hne, hstands.marked_location hrooted hne, hstands.kept⟩
  · obtain ⟨hne, hmarked, hkept⟩ := hkeeps
    have hf := (hmem _).mpr ⟨names, hmarked.stands hs hbase hne hkept⟩
    rw [hspread.eq] at hf
    obtain ⟨names', hnames', hsame⟩ := List.mem_map.mp hf
    obtain rfl := Path.descend_inj dir.root (hspread.names names' hnames') (hmarked.proper hs hne) hsame
    exact hnames'

/-- Where the same is to be found, the same is found. -/
theorem findFiles_eq {gs : FileSystem} (hgs : gs.Sound) {dir' : TemplateDir} (hroot : dir'.root = dir.root)
    (hdir' : gs.isDir dir'.root = true) (hbase' : gs.Leads dir'.root base) (hskip' : dir'.skips dir'.root = false)
    (extensions : List String)
    (hsame : ∀ names, dir.Keeps fs extensions base names ↔ dir'.Keeps gs extensions base names) :
    dir'.findFiles gs extensions = dir.findFiles fs extensions := by
  obtain ⟨nss, hfound, hascending, hmem⟩ := findFiles_keeps hs dir hdir hbase hskip extensions
  obtain ⟨nss', hfound', hascending', hmem'⟩ := findFiles_keeps hgs dir' hdir' hbase' hskip' extensions
  have hnss : nss' = nss := hascending'.eq_of_mem_iff hascending fun names => by rw [hmem', hmem, hsame]
  rw [hfound, hfound', hnss, hroot]

end Found

theorem skips_root (root out : Path) : ((TemplateDir.mk root none).excluding out).skips root = false := by
  have hiff : ((TemplateDir.mk root none).excluding out).skips (root.descend []) = true ↔ _ :=
    skips_descend_iff (by simp)
  have hnot := mt hiff.mp fun h => h.1 rfl
  simpa [Path.descend] using hnot

section Outputs

variable {fs : FileSystem} (hreg : fs.Regular) {templates out : Path} {base : Location}
  (hdir : fs.isDir templates = true) (hbase : fs.Leads templates base) (hfresh : fs.Fresh out) {extensions : List String}

include hreg hbase hfresh

omit hbase in
/-- No output root is above a file that was there before. -/
theorem not_above_marked {l : Location} (h : Marked fs extensions l) : ¬out.named <+: l := by
  rintro ⟨rest, rfl⟩
  obtain ⟨c, hc⟩ := h.file
  rw [hreg.none_below hfresh.vacant] at hc
  cases hc

/-- What is left out for an output root that is not there yet is on the way to nothing. -/
theorem kept_of_marked {names : List Bytes} (hne : names ≠ []) (h : Marked fs extensions (base ++ names)) {k : List Bytes}
    (hk : k <+: names) : ((TemplateDir.mk templates none).excluding out).skips (templates.descend k) = false := by
  have hproper := h.proper hreg.sound hne
  have hproper' : ∀ n ∈ k, Path.IsName n := fun n hn => hproper n (hk.subset hn)
  rw [Bool.eq_false_iff]
  intro hskip
  obtain ⟨-, hspelled⟩ := (skips_descend_iff hproper').mp hskip
  have hsame : out.same (templates.descend k) = true := by
    rw [Path.same, Path.components_descend templates hproper', hspelled, beq_self_eq_true]
  have hleads := (hbase.below hproper' fun m hm _ t => hreg.linkFree (base ++ m) t (by simp [hm])).of_same hsame
  have hplace := (leads_named hreg.linkFree hfresh.straight.absolute hfresh.straight.names).unique hleads
  exact not_above_marked hreg hfresh h (hplace ▸ (List.prefix_append_right_inj base).mpr hk)

/-- What is found does not depend on the output root, as long as that is not there yet. -/
theorem keeps_fresh_iff (names : List Bytes) : ((TemplateDir.mk templates none).excluding out).Keeps fs extensions base names ↔
    (TemplateDir.mk templates none).Keeps fs extensions base names := by
  constructor
  · rintro ⟨hne, hmarked, -⟩
    exact ⟨hne, hmarked, fun _ _ => rfl⟩
  · rintro ⟨hne, hmarked, -⟩
    refine ⟨hne, hmarked, fun k hk => ?_⟩
    rw [root_excluding]
    exact kept_of_marked hreg hbase hfresh hne hmarked hk

include hdir in
/-- An output root that is spelled from the template root on goes down from it by the names that lead to its place. -/
theorem components_of_startsWith (hspelled : out.startsWith templates = true) {names : List Bytes}
    (hplace : out.named = base ++ names) : out.components = templates.components ++ names.map .name := by
  obtain ⟨l, hl⟩ := isDir_iff.mp hdir
  have hempty : templates.isEmpty = false := (resolve_iff.mp hl).2.1
  have habsolute := Path.isAbsolute_of_startsWith hempty hfresh.straight.absolute hspelled
  obtain ⟨rest, hrest⟩ := List.isPrefixOf_iff_prefix.mp hspelled
  have hcomponents := hfresh.straight.components_eq
  obtain ⟨inner, hinner⟩ : ∃ inner, templates.components = .root :: inner :=
    ⟨_, by rw [Path.components, if_pos habsolute]⟩
  rw [hinner, hcomponents, List.cons_append, List.cons.injEq] at hrest
  obtain ⟨front, back, hsplit, hfront, -⟩ := List.append_eq_map_iff.mp hrest.2
  have hnamed : templates.named = front := by
    rw [Path.named_eq, hinner, ← hfront, List.filterMap_cons, List.filterMap_map]
    exact List.filterMap_some
  have hleads := leads_named hreg.linkFree habsolute fun n hn =>
    hfresh.straight.names n (by rw [hsplit, ← hnamed]; exact List.mem_append_left _ hn)
  obtain rfl := hbase.unique hleads
  rw [hcomponents, hinner, hplace, ← hfront, ← hnamed, List.map_append, List.cons_append]

include hdir in
/-- An output root among the templates that is spelled from the template root on is left out. -/
theorem skips_outputs (hspelled : out.startsWith templates = true) {names : List Bytes}
    (hplace : out.named = base ++ names) :
    ((TemplateDir.mk templates none).excluding out).skips (templates.descend names) = true := by
  have hnames (n : Bytes) (hn : n ∈ names) := hfresh.straight.names n (hplace ▸ List.mem_append_right _ hn)
  refine (skips_descend_iff hnames).mpr ⟨?_, components_of_startsWith hreg hdir hbase hfresh hspelled hplace⟩
  rintro rfl
  have hroot := (resolve_root hdir hbase).2.directory
  rw [← List.append_nil base, ← hplace, hfresh.vacant] at hroot
  cases hroot

section Again

variable {gs : FileSystem} (halters : Alters (out.named <+: ·) fs gs)
  (hspelled : base <+: out.named → out.startsWith templates = true)

include hdir halters hspelled

/-- What a run has written is left out when files are looked for again. -/
theorem keeps_outputs_iff (names : List Bytes) :
    ((TemplateDir.mk templates none).excluding out).Keeps gs extensions base names ↔
      (TemplateDir.mk templates none).Keeps fs extensions base names := by
  have hgrows := halters.grows
  constructor
  · rintro ⟨hne, hmarked, hkept⟩
    rw [root_excluding] at hkept
    have hnot : ¬out.named <+: base ++ names := by
      intro hpre
      have hroot := (resolve_root hdir hbase).2.directory
      rcases List.prefix_or_prefix_of_prefix hpre (List.prefix_append base names) with ⟨rest, hrest⟩ | ⟨ms, hms⟩
      · rw [← hrest, hreg.none_below hfresh.vacant] at hroot
        cases hroot
      · have hskip := skips_outputs hreg hdir hbase hfresh (hspelled ⟨ms, hms⟩) hms.symm
        rw [← hms] at hpre
        rw [hkept ms ((List.prefix_append_right_inj base).mp hpre)] at hskip
        cases hskip
    obtain ⟨c, hc⟩ := hmarked.file
    have hold := (halters.file_iff hnot c).mp hc
    refine ⟨hne, ⟨⟨c, hold⟩, fun k hk => ?_, hmarked.named⟩, fun _ _ => rfl⟩
    obtain ⟨hpre, hk⟩ := (prefix_dropLast_iff (by simp [hne])).mp hk
    exact hreg.above hold k hpre hk
  · rintro ⟨hne, hmarked, -⟩
    obtain ⟨c, hc⟩ := hmarked.file
    have hnew := (halters.file_iff (not_above_marked hreg hfresh hmarked) c).mpr hc
    refine ⟨hne, ⟨⟨c, hnew⟩, fun k hk => hgrows.directories k (hmarked.within k hk), hmarked.named⟩, fun k hk => ?_⟩
    rw [root_excluding]
    exact kept_of_marked hreg hbase hfresh hne hmarked hk

theorem findFiles_outputs (hgs : gs.Sound) (extensions : List String) :
    ((TemplateDir.mk templates none).excluding out).findFiles gs extensions =
      (TemplateDir.mk templates none).findFiles fs extensions := by
  have hroot := root_excluding templates out
  refine findFiles_eq hreg.sound ⟨templates, none⟩ hdir hbase rfl hgs hroot
    (by rw [hroot]; exact isDir_grows halters.grows hdir) (by rw [hroot]; exact hbase.grows halters.grows)
    (by rw [hroot]; exact skips_root templates out) extensions fun names => ?_
  exact (keeps_outputs_iff hreg hdir hbase hfresh halters hspelled names).symm

omit hspelled in
/-- What has been read is read again. -/
theorem readText_outputs {found : List Path} (hfound : (TemplateDir.mk templates none).findFiles fs extensions = .ok found)
    {f : Path} (hf : f ∈ found) {s : String} (hread : fs.readText f = .ok s) : gs.readText f = .ok s := by
  obtain ⟨nss, hnss, -, hmem⟩ := findFiles_keeps hreg.sound ⟨templates, none⟩ hdir hbase rfl extensions
  obtain rfl := Except.ok.inj (hfound.symm.trans hnss)
  obtain ⟨names, hnames, rfl⟩ := List.mem_map.mp hf
  obtain ⟨hne, hmarked, -⟩ := (hmem names).mp hnames
  have hleads := hbase.below (hmarked.proper hreg.sound hne) fun m hm _ t => hreg.linkFree (base ++ m) t (by simp [hm])
  have hbytes {c : Bytes} (hc : fs.readBytes (templates.descend names) = .ok c) :
      gs.readBytes (templates.descend names) = .ok c := by
    obtain ⟨l, hl⟩ := readBytes_iff.mp hc
    obtain rfl := (leads_of_place hl rfl).unique hleads
    have hnew := (halters.file_iff (not_above_marked hreg hfresh hmarked) c).mpr (at?_of_resolve hl)
    exact readBytes_iff.mpr ⟨_, resolve_grows halters.grows hl rfl (c := some c) hnew⟩
  unfold readText at hread ⊢
  cases hc : fs.readBytes (templates.descend names) with
  | error e =>
    rw [hc] at hread
    cases hread
  | ok c =>
    rw [hc] at hread
    rw [hbytes hc]
    exact hread

end Again

include hdir in
theorem findFiles_fresh (extensions : List String) :
    ((TemplateDir.mk templates none).excluding out).findFiles fs extensions =
      (TemplateDir.mk templates none).findFiles fs extensions := by
  have hroot := root_excluding templates out
  refine findFiles_eq hreg.sound ⟨templates, none⟩ hdir hbase rfl hreg.sound hroot (by rwa [hroot]) (by rwa [hroot])
    (by rw [hroot]; exact skips_root templates out) extensions fun names => ?_
  exact (keeps_fresh_iff hreg hbase hfresh names).symm

end Outputs

end TemplateDir

end ApiStencil
