import ApiStencil.Generate
import ApiStencil.Proofs.CommandTable
import ApiStencil.Proofs.Discovery
/-!
What comes before the first output: reading a document, running scripts and parsing templates change no
file, whether they go well or not, and what they come to depends on the files alone.
-/
set_option autoImplicit false

namespace ApiStencil

/-- Whatever comes of a step, the files stay as they are. -/
def Run.KeepsFiles {α : Type} (x : Run α) : Prop := ∀ w, (x.on w).2.files = w.files

/-- A step that only reads: what comes of it depends on the files alone, and they stay as they are. -/
def Run.Reads {α : Type} (x : Run α) : Prop := ∀ fs, ∃ r, ∀ j, ∃ k, x.on ⟨fs, j⟩ = (r, ⟨fs, k⟩)

namespace Run.Reads

variable {α β : Type}

theorem pure (a : α) : Reads (Pure.pure a : Run α) := fun _ => ⟨.ok a, fun j => ⟨j, rfl⟩⟩

theorem throw (e : Error) : Reads (throwThe Error e : Run α) := fun _ => ⟨.error e, fun j => ⟨j, rfl⟩⟩

theorem bind {x : Run α} {f : α → Run β} (hx : x.Reads) (hf : ∀ a, (f a).Reads) : (x >>= f).Reads := by
  intro fs
  obtain ⟨r, hr⟩ := hx fs
  cases r with
  | error e =>
    refine ⟨.error e, fun j => ?_⟩
    obtain ⟨k, hk⟩ := hr j
    exact ⟨k, Run.bind_on_error hk⟩
  | ok a =>
    obtain ⟨r, hr'⟩ := hf a fs
    refine ⟨r, fun j => ?_⟩
    obtain ⟨k, hk⟩ := hr j
    obtain ⟨k', hk'⟩ := hr' k
    exact ⟨k', (Run.bind_on_ok hk).trans hk'⟩

theorem tell (level : Journal.Level) (text : String) : (Run.tell level text).Reads :=
  fun _ => ⟨.ok (), fun _ => ⟨_, rfl⟩⟩

theorem hear (sink : Journal.Sink) (lines : List Console.Line) : (Run.hear sink lines).Reads :=
  fun _ => ⟨.ok (), fun _ => ⟨_, rfl⟩⟩

theorem files : Run.files.Reads := fun fs => ⟨.ok fs, fun j => ⟨j, rfl⟩⟩

theorem ofExcept (x : Except Error α) : (Run.ofExcept x).Reads :=
  fun fs => ⟨x, fun j => ⟨j, Run.ofExcept_on ⟨fs, j⟩ x⟩⟩

theorem ofFile (what : String) (path : Path) (x : Except IoError α) : (Run.ofFile what path x).Reads := by
  cases x with
  | ok a => exact pure a
  | error e => exact (tell _ _).bind fun _ => throw _

theorem keepsFiles {x : Run α} (hx : x.Reads) : x.KeepsFiles := by
  intro w
  obtain ⟨r, hr⟩ := hx w.files
  obtain ⟨k, hk⟩ := hr w.journal
  rw [show x.on w = _ from hk]

/-- In two worlds with the same files a step comes to the same. -/
theorem outcome_eq {x : Run α} (hx : x.Reads) {w v : World} (h : w.files = v.files) : (x.on w).1 = (x.on v).1 := by
  obtain ⟨r, hr⟩ := hx v.files
  obtain ⟨k, hk⟩ := hr w.journal
  obtain ⟨k', hk'⟩ := hr v.journal
  rw [← h] at hk
  rw [show x.on w = _ from hk, show x.on v = _ from hk']

end Run.Reads

open Run

theorem Script.Host.load_reads (h : Script.Host) (script : Path) (source : String) :
    (h.load script source).Reads := by
  refine (Reads.ofExcept _).bind fun source => ?_
  split
  rename_i outcome lines _
  refine (Reads.hear _ _).bind fun _ => ?_
  split
  · exact (Reads.tell _ _).bind fun _ => Reads.throw _
  · exact Reads.pure _

namespace Command.Table

theorem register_reads (relative : String) (commands : List Script.Command) (t : Table) :
    (register relative commands t).Reads := by
  induction commands generalizing t with
  | nil => exact Reads.pure t
  | cons c rest ih =>
    refine (Reads.tell _ _).bind fun _ => ?_
    split
    split
    · exact (Reads.tell _ _).bind fun _ => ih _
    · exact (Reads.pure _).bind fun _ => ih _

theorem loadScripts_reads (dir : TemplateDir) (scripts : List Path) (found : List Script.Command)
    (host : Script.Host) (t : Table) : (loadScripts dir scripts found host t).Reads := by
  induction scripts generalizing found host t with
  | nil => exact Reads.pure _
  | cons p rest ih =>
    refine (Reads.ofExcept _).bind fun relative => (Reads.tell _ _).bind fun _ => ?_
    refine Reads.files.bind fun fs => (Reads.ofFile _ _ _).bind fun source => ?_
    refine (host.load_reads p source).bind fun loaded => ?_
    exact (register_reads _ _ _).bind fun t => ih _ _ _

theorem loadAll_reads (host : Script.Host) (dir : TemplateDir) (extensions : List String) :
    (loadAll host dir extensions).Reads :=
  Reads.files.bind fun _ => (Reads.ofExcept _).bind fun _ => loadScripts_reads dir _ _ _ _

end Command.Table

namespace Renderer

theorem parseFile_reads (dir : TemplateDir) (file : Path) : (parseFile dir file).Reads := by
  refine (Reads.ofExcept _).bind fun rel => Reads.files.bind fun fs => ?_
  refine (Reads.ofFile _ _ _).bind fun source => ?_
  split
  · exact (Reads.tell _ _).bind fun _ => Reads.pure _
  · exact (Reads.tell _ _).bind fun _ => Reads.throw _

theorem parseFiles_reads (dir : TemplateDir) (files : List Path) : (parseFiles dir files).Reads := by
  induction files with
  | nil => exact Reads.pure _
  | cons p rest ih => exact (parseFile_reads dir p).bind fun _ => ih.bind fun _ => Reads.pure _

theorem parseAll_reads (dir : TemplateDir) (ext : String) : (parseAll dir ext).Reads := by
  refine Reads.files.bind fun fs => (Reads.ofExcept _).bind fun files => ?_
  refine (parseFiles_reads dir files).bind fun templates => ?_
  dsimp only
  split
  · exact Reads.pure _
  · exact (Reads.tell _ _).bind fun _ => Reads.throw _

theorem openDir_reads (templates out : Path) : (openDir templates out).Reads :=
  Reads.files.bind fun _ => (Reads.ofExcept _).bind fun _ => Reads.pure _

/-- Up to the first output no file is touched. -/
theorem prepare_reads (r : Renderer) (templates out : Path) : (r.prepare templates out).Reads := by
  refine (openDir_reads templates out).bind fun dir => (Reads.tell _ _).bind fun _ => ?_
  refine (Command.Table.loadAll_reads _ _ _).bind fun loaded => ?_
  exact (parseAll_reads _ _).bind fun _ => Reads.pure _

/-- What a run works on has been read from these files. -/
structure Prepared.From (p : Prepared) (r : Renderer) (templates out : Path) (fs : FileSystem) : Prop where
  dir : p.dir = (TemplateDir.mk templates none).excluding out
  isDir : fs.isDir templates = true
  found : p.dir.findFiles fs [r.options.templateExtension] = .ok (p.templates.map (·.1))
  parsed : ∀ x ∈ p.templates, ∃ rel source, p.dir.relative x.1 = .ok rel ∧ fs.readText x.1 = .ok source ∧
    Template.parse rel.templateName source = .ok x.2
  set : p.set = .ofList (p.templates.map (·.2))
  lists : p.table.Lists p.registered

theorem Prepared.From.root {p : Prepared} {r : Renderer} {templates out : Path} {fs : FileSystem}
    (h : p.From r templates out fs) : p.dir.root = templates := by
  rw [h.dir, TemplateDir.excluding]
  split <;> rfl

theorem Prepared.From.templates_found {r : Renderer} {p : Prepared} {templates out : Path} {fs : FileSystem}
    (h : p.From r templates out fs) (hs : fs.Sound) :
    (p.templates.map (·.1)).Nodup ∧ ∀ x ∈ p.templates, Found p.dir.root r.options.templateExtension x.1 := by
  obtain ⟨hnodup, hfound⟩ := TemplateDir.findFiles_found hs p.dir (by rw [h.root, h.isDir]) h.found
  exact ⟨hnodup, fun x hx => hfound x.1 (List.mem_map_of_mem hx)⟩

theorem parseFile_ok {dir : TemplateDir} {file : Path} {t : Template} {w v : World}
    (h : (parseFile dir file).on w = (.ok t, v)) :
    ∃ rel source, dir.relative file = .ok rel ∧ w.files.readText file = .ok source ∧
      Template.parse rel.templateName source = .ok t := by
  obtain ⟨rel, u, hmap, hread⟩ := Run.bind_on_eq_ok h
  obtain ⟨hrel, rfl⟩ := Run.ofExcept_on_eq hmap
  rw [Run.bind_on_ok (Run.files_on w)] at hread
  obtain ⟨source, u, hfile, hparse⟩ := Run.bind_on_eq_ok hread
  obtain ⟨hsource, rfl⟩ := ofFile_on_ok hfile
  refine ⟨rel, source, hrel, hsource, ?_⟩
  split at hparse
  · rename_i parsed hparsed
    rw [Run.bind_on_ok (Run.tell_on w _ _)] at hparse
    cases hparse
    exact hparsed
  · rw [Run.bind_on_ok (Run.tell_on w _ _)] at hparse
    cases hparse

theorem parseFiles_ok {dir : TemplateDir} {files : List Path} {ts : List (Path × Template)} {w v : World}
    (h : (parseFiles dir files).on w = (.ok ts, v)) :
    ts.map (·.1) = files ∧ ∀ x ∈ ts, ∃ rel source, dir.relative x.1 = .ok rel ∧ w.files.readText x.1 = .ok source ∧
      Template.parse rel.templateName source = .ok x.2 := by
  induction files generalizing ts w with
  | nil =>
    rw [parseFiles, Run.pure_on] at h
    cases h
    exact ⟨rfl, by simp⟩
  | cons p rest ih =>
    rw [parseFiles] at h
    obtain ⟨t, u, hparse, h⟩ := Run.bind_on_eq_ok h
    obtain ⟨others, u', hrest, h⟩ := Run.bind_on_eq_ok h
    rw [Run.pure_on] at h
    cases h
    have hkeeps := (parseFile_reads dir p).keepsFiles w
    rw [hparse] at hkeeps
    obtain ⟨hfiles, hothers⟩ := ih hrest
    rw [show u.files = w.files from hkeeps] at hothers
    refine ⟨by rw [List.map_cons, hfiles], fun x hx => ?_⟩
    rcases List.mem_cons.mp hx with rfl | hx
    · exact parseFile_ok hparse
    · exact hothers x hx

theorem parseAll_ok {dir : TemplateDir} {ext : String} {ts : List (Path × Template)} {set : Template.Set} {w v : World}
    (h : (parseAll dir ext).on w = (.ok (ts, set), v)) :
    dir.findFiles w.files [ext] = .ok (ts.map (·.1)) ∧ set = .ofList (ts.map (·.2)) ∧
      ∀ x ∈ ts, ∃ rel source, dir.relative x.1 = .ok rel ∧ w.files.readText x.1 = .ok source ∧
        Template.parse rel.templateName source = .ok x.2 := by
  unfold parseAll at h
  rw [Run.bind_on_ok (Run.files_on w)] at h
  obtain ⟨files, u, hfind, hread⟩ := Run.bind_on_eq_ok h
  obtain ⟨hfiles, rfl⟩ := Run.ofExcept_on_eq hfind
  obtain ⟨parsed, u, hparsed, hset⟩ := Run.bind_on_eq_ok hread
  obtain ⟨hnames, hall⟩ := parseFiles_ok hparsed
  dsimp only at hset
  split at hset
  · rw [Run.pure_on] at hset
    cases hset
    exact ⟨by rw [hfiles, hnames], rfl, hall⟩
  · rw [Run.bind_on_ok (Run.tell_on u _ _)] at hset
    cases hset

theorem openDir_ok {templates out : Path} {dir : TemplateDir} {w v : World}
    (h : (openDir templates out).on w = (.ok dir, v)) :
    dir = (TemplateDir.mk templates none).excluding out ∧ w.files.isDir templates = true := by
  unfold openDir at h
  rw [Run.bind_on_ok (Run.files_on w)] at h
  obtain ⟨found, u, hfind, hend⟩ := Run.bind_on_eq_ok h
  obtain ⟨hopen, rfl⟩ := Run.ofExcept_on_eq hfind
  rw [Run.pure_on] at hend
  cases hend
  unfold TemplateDir.open? at hopen
  split at hopen
  · rename_i hdir
    cases hopen
    exact ⟨rfl, hdir⟩
  · cases hopen

theorem prepare_ok {r : Renderer} {templates out : Path} {p : Prepared} {w v : World}
    (h : (r.prepare templates out).on w = (.ok p, v)) : p.From r templates out w.files ∧ v.files = w.files := by
  have hkeeps := (prepare_reads r templates out).keepsFiles w
  rw [h] at hkeeps
  refine ⟨?_, hkeeps⟩
  obtain ⟨dir, u, hdir, h⟩ := Run.bind_on_eq_ok h
  have hfirst := (openDir_reads templates out).keepsFiles w
  rw [hdir] at hfirst
  obtain ⟨hexcluding, hisDir⟩ := openDir_ok hdir
  rw [Run.bind_on_ok (Run.tell_on u _ _)] at h
  obtain ⟨⟨registered, table, host⟩, u', hload, h⟩ := Run.bind_on_eq_ok h
  have hsecond := (Command.Table.loadAll_reads r.host dir r.options.scriptExtensions).keepsFiles
    ⟨u.files, u.journal.add .info s!"Rendering templates from {dir.root.display}"⟩
  rw [hload] at hsecond
  obtain ⟨⟨parsed, set⟩, u'', hparse, h⟩ := Run.bind_on_eq_ok h
  obtain ⟨hfound, hset, hall⟩ := parseAll_ok hparse
  rw [show u'.files = w.files from hsecond.trans hfirst] at hfound hall
  rw [Run.pure_on] at h
  cases h
  exact ⟨hexcluding, hisDir, hfound, hall, hset, Command.Table.loadAll_lists hload⟩

end Renderer

theorem ApiDocument.load_reads (p : Path) : (ApiDocument.load p).Reads := by
  refine (Reads.tell _ _).bind fun _ => Reads.files.bind fun fs => ?_
  split
  · exact (Reads.tell _ _).bind fun _ => Reads.throw _
  · split
    · exact Reads.pure _
    · exact Reads.throw _

namespace Generate

theorem absolute_reads (p : String) : (absolute p).Reads :=
  Reads.files.bind fun _ => Reads.ofExcept _

theorem document_reads (location : String) : (document location).Reads := by
  unfold document
  split
  · exact (Reads.tell _ _).bind fun _ => Reads.throw _
  · refine (absolute_reads location).bind fun p => ?_
    exact (ApiDocument.load_reads p).bind fun _ => Reads.pure _

theorem input_reads (c : Config) : (input c).Reads := by
  refine (Reads.ofExcept _).bind fun _ => (absolute_reads _).bind fun templates => ?_
  refine (absolute_reads _).bind fun out => (document_reads _).bind fun named => ?_
  obtain ⟨name, doc⟩ := named
  dsimp only
  split
  · exact (Reads.ofExcept _).bind fun _ => (Reads.tell _ _).bind fun _ => Reads.pure _
  · exact (Reads.pure _).bind fun _ => (Reads.tell _ _).bind fun _ => Reads.pure _

end Generate
end ApiStencil
