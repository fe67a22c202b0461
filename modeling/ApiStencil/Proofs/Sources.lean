import ApiStencil.Proofs.Atomicity
import ApiStencil.Proofs.Exactness
import ApiStencil.Proofs.Exclusion
/-!
What becomes of the scripts and templates that a run reads. A file stays as it is unless the output of a
template leads to it, whatever comes of the run; a source that an output leads to is lost, and what stands
in its place is the last template that is rendered there.
-/
set_option autoImplicit false

namespace ApiStencil

open FileSystem

namespace Renderer

/-- The output of a template file leads to a location. -/
def OutputAt (r : Renderer) (templates out : Path) (fs : FileSystem) (file : Path) (l : Location) : Prop :=
  ∃ q, Path.outputOf templates file out r.options.templateExtension = .ok q ∧ fs.Leads q l

/-- A file that is found, as a script or as a template. -/
def Source (r : Renderer) (templates out : Path) (fs : FileSystem) (f : Path) : Prop :=
  ∃ extensions found, (extensions = r.options.scriptExtensions ∨ extensions = [r.options.templateExtension]) ∧
    ((TemplateDir.mk templates none).excluding out).findFiles fs extensions = .ok found ∧ f ∈ found

/-- The output of some template that is found leads to a location. -/
def Overwritten (r : Renderer) (templates out : Path) (fs : FileSystem) (l : Location) : Prop :=
  ∃ found, ((TemplateDir.mk templates none).excluding out).findFiles fs [r.options.templateExtension] = .ok found ∧
    ∃ file ∈ found, OutputAt r templates out fs file l

theorem takenBack_spares {fs : FileSystem} {q : Path} {l : Location} {c : Bytes} (hl : ¬fs.Leads q l)
    (hat : fs.at? l = some (.file c)) : (takenBack fs q).at? l = some (.file c) := by
  unfold takenBack removeFile
  cases hr : fs.resolve q false with
  | error e => exact hat
  | ok target =>
    cases target with
    | vacant k => exact hat
    | present k e =>
      have hremoved (hne : k ≠ l) (hk : k ≠ []) : (fs.remove k).at? l = some (.file c) := by
        rw [at?_remove fs l hk, if_neg hne.symm, hat]
      have hk := at?_of_resolve hr
      -- the path is not followed in its last step, so what is removed is a link or stands where it leads
      cases e with
      | directory => exact hat
      | file c' =>
        refine hremoved ?_ (at?_place hr rfl).1
        rintro rfl
        exact hl (leads_of_place hr rfl)
      | link t =>
        refine hremoved ?_ ?_
        · rintro rfl
          simp [hat] at hk
        · rintro rfl
          cases hk

section RenderFile

variable {file q : Path} {host : Script.Host} {render : Command.Stage → Template.Rendering Command.Stage} {w v : World}

/-- A template that is rendered well is written where its output leads. -/
theorem renderFile_writes {host' : Script.Host} (h : (renderFile file q host render).on w = (.ok host', v)) :
    (render (host, w.journal)).fault = none ∧ ∃ l, w.files.Leads q l ∧ Alters (· = l) w.files v.files ∧
      v.files.at? l = some (.file (Utf8.encode (render (host, w.journal)).text)) := by
  obtain ⟨hfault, fs, target, l, hgrows, hr, hplace, halters, hresolve⟩ := renderFile_ok h
  exact ⟨hfault, l, (leads_of_place hr hplace).of_grows hgrows, halters, at?_of_resolve hresolve⟩

/-- A template that fails spares every file that its output does not lead to. -/
theorem renderFile_spares {e : Error} (h : (renderFile file q host render).on w = (.error e, v)) {l : Location}
    {c : Bytes} (hl : ¬w.files.Leads q l) (hat : w.files.at? l = some (.file c)) :
    v.files.at? l = some (.file c) := by
  unfold renderFile at h
  rcases Run.bind_on_eq_error h with hopen | ⟨k, u, hopen, h⟩
  · exact ((openOutput_error hopen).file_iff (fun h => h) c).mpr hat
  · obtain ⟨fs, r, hdirs, hr, hplace, rfl⟩ := openOutput_ok hopen
    rw [Run.bind_on_ok (Run.get_on _)] at h
    obtain ⟨halters, -⟩ := fill hdirs hr hplace (Utf8.encode (render (host, w.journal)).text)
    rw [settle_error h]
    refine takenBack_spares (fun hq => hl (hq.of_grows halters.grows)) ?_
    refine (halters.file_iff ?_ c).mpr hat
    rintro rfl
    exact hl ((leads_of_place hr hplace).of_grows hdirs.grows)

end RenderFile

section Run

variable {r : Renderer} {p : Prepared} {out : Path} {context : List (String × Json)} {xs : List (Path × Template)}
  {host host' : Script.Host} {fs : FileSystem} {w v : World}

theorem renderFiles_writes {targets : List Path} (hg : fs.Grows w.files)
    (h : (renderFiles r p out context xs host).on w = (.ok (targets, host'), v)) :
    Alters (fun l => ∃ x ∈ xs, OutputAt r p.dir.root out fs x.1 l) w.files v.files :=
  renderFiles_alters_own hg (fun x hx q _ _ _ hq hgs hr hplace =>
    ⟨x, hx, q, hq, (leads_of_place hr hplace).of_grows hgs⟩) h

/-- What stands where an output leads is what the last template gives whose output leads there. -/
theorem renderFiles_last {pre post : List (Path × Template)} {file : Path} {t : Template} {targets : List Path}
    {l : Location} (hg : fs.Grows w.files)
    (h : (renderFiles r p out context (pre ++ (file, t) :: post) host).on w = (.ok (targets, host'), v))
    (hl : OutputAt r p.dir.root out fs file l) (hlast : ∀ y ∈ post, ¬OutputAt r p.dir.root out fs y.1 l) :
    ∃ before mid u, (renderFiles r p out context pre host).on w = (.ok (before, mid), u) ∧
      v.files.at? l = some (.file (Utf8.encode (p.rendering context t (mid, u.journal)).text)) := by
  obtain ⟨before, mid, u, behind, hpre, hrest, -⟩ := renderFiles_append_ok h
  obtain ⟨q, next, u', others, hq, hone, hpost, -⟩ := renderFiles_cons_ok hrest
  have hu := hg.trans (renderFiles_writes hg hpre).grows
  obtain ⟨-, k, hk, halters, hat⟩ := renderFile_writes hone
  obtain ⟨q', hq', hl⟩ := hl
  obtain rfl : q = q' := Except.ok.inj (hq.symm.trans hq')
  obtain rfl := (hk.of_grows hu).unique hl
  -- those behind it write elsewhere
  have hothers := renderFiles_writes (hu.trans halters.grows) hpost
  exact ⟨before, mid, u, hpre, (hothers.file_iff (fun ⟨y, hy, hky⟩ => hlast y hy hky) _).mpr hat⟩

theorem Fails.spares {file : Path} {t : Template} {e : Error} (hg : fs.Grows w.files)
    (h : Fails r p out context file t host w e v) {l : Location} {c : Bytes}
    (hl : ¬OutputAt r p.dir.root out fs file l) (hat : w.files.at? l = some (.file c)) :
    v.files.at? l = some (.file c) := by
  cases h with
  | unmapped => exact hat
  | unwritten hq hfile => exact renderFile_spares hfile (fun hk => hl ⟨_, hq, hk.of_grows hg⟩) hat

theorem exists_last {α : Type} {P : α → Prop} {xs : List α} (h : ∃ x ∈ xs, P x) :
    ∃ pre y post, xs = pre ++ y :: post ∧ P y ∧ ∀ z ∈ post, ¬P z := by
  induction xs with
  | nil =>
    obtain ⟨x, hx, -⟩ := h
    cases hx
  | cons x xs ih =>
    by_cases hlater : ∃ z ∈ xs, P z
    · obtain ⟨pre, y, post, rfl, hy, hpost⟩ := ih hlater
      exact ⟨x :: pre, y, post, rfl, hy, hpost⟩
    · refine ⟨[], x, xs, rfl, ?_, fun z hz hPz => hlater ⟨z, hz, hPz⟩⟩
      obtain ⟨y, hy, hPy⟩ := h
      rcases List.mem_cons.mp hy with rfl | hy
      · exact hPy
      · exact absurd ⟨y, hy, hPy⟩ hlater

end Run

section Render

variable {r : Renderer} {templates out : Path} {data : Json} {w v : World}

theorem Prepared.From.overwritten_iff {p : Prepared} {fs : FileSystem} (h : p.From r templates out fs) {l : Location} :
    Overwritten r templates out fs l ↔ ∃ x ∈ p.templates, OutputAt r p.dir.root out fs x.1 l := by
  have hfound := h.found
  rw [h.dir] at hfound
  rw [h.root]
  constructor
  · rintro ⟨found, hfound', file, hfile, hat⟩
    obtain rfl := Except.ok.inj (hfound'.symm.trans hfound)
    obtain ⟨x, hx, rfl⟩ := List.mem_map.mp hfile
    exact ⟨x, hx, hat⟩
  · rintro ⟨x, hx, hat⟩
    exact ⟨_, hfound, x.1, List.mem_map_of_mem hx, hat⟩

/-- A run ends before the first output, with all files as they are, or it goes on to write. -/
theorem render_cases {result : Except Error RenderReport} (h : (r.render templates out data).on w = (result, v)) :
    v.files = w.files ∨ ∃ p u, (r.prepare templates out).on w = (.ok p, u) ∧ p.From r templates out w.files ∧
      u.files = w.files ∧ (r.write p out data).on u = (result, v) := by
  have hkeeps := (prepare_reads r templates out).keepsFiles w
  unfold render at h
  rcases hprepare : (r.prepare templates out).on w with ⟨e | p, u⟩
  · rw [Run.bind_on_error hprepare] at h
    rw [hprepare] at hkeeps
    cases h
    exact .inl hkeeps
  · rw [Run.bind_on_ok hprepare] at h
    obtain ⟨hfrom, hfiles⟩ := prepare_ok hprepare
    exact .inr ⟨p, u, rfl, hfrom, hfiles, h⟩

/-- Whatever comes of a run, it spares every file that no output leads to. -/
theorem render_spares {result : Except Error RenderReport} (h : (r.render templates out data).on w = (result, v))
    {l : Location} {c : Bytes} (hl : ¬Overwritten r templates out w.files l) (hat : w.files.at? l = some (.file c)) :
    v.files.at? l = some (.file c) := by
  rcases render_cases h with hfiles | ⟨p, u, -, hfrom, hfiles, h⟩
  · rwa [hfiles]
  · rw [hfrom.overwritten_iff, ← hfiles] at hl
    rw [← hfiles] at hat
    cases result with
    | ok report =>
      obtain ⟨-, host, x, hrun, hend⟩ := write_ok h
      rw [hend]
      exact ((renderFiles_writes (.refl _) hrun).file_iff hl c).mpr hat
    | error e =>
      obtain ⟨pre, file, t, post, targets, mid, x, hall, hpre, hfails⟩ := renderFiles_error (write_error h)
      have hbefore := renderFiles_writes (.refl _) hpre
      refine hfails.spares hbefore.grows (fun hfile => hl ⟨(file, t), by simp [hall], hfile⟩) ?_
      exact (hbefore.file_iff (fun ⟨y, hy, hyl⟩ => hl ⟨y, by simp [hall, hy], hyl⟩) c).mpr hat

/-- What stands at a location is what the last template gives whose output leads there. -/
def HoldsLast (r : Renderer) (p : Prepared) (out : Path) (data : Json) (u : World) (fs files : FileSystem)
    (l : Location) : Prop :=
  ∃ pre file t post targets host x, p.templates = pre ++ (file, t) :: post ∧ OutputAt r p.dir.root out fs file l ∧
    (∀ y ∈ post, ¬OutputAt r p.dir.root out fs y.1 l) ∧
    (renderFiles r p out (context data) pre p.host).on u = (.ok (targets, host), x) ∧
    files.at? l = some (.file (Utf8.encode (p.rendering (context data) t (host, x.journal)).text))

theorem render_overwrites {report : RenderReport} (h : (r.render templates out data).on w = (.ok report, v))
    {l : Location} (hl : Overwritten r templates out w.files l) :
    ∃ p u, (r.prepare templates out).on w = (.ok p, u) ∧ HoldsLast r p out data u w.files v.files l := by
  obtain ⟨p, u, hprepare, hwrite⟩ := Run.bind_on_eq_ok h
  obtain ⟨hfrom, hfiles⟩ := prepare_ok hprepare
  obtain ⟨-, host, x, hrun, hend⟩ := write_ok hwrite
  obtain ⟨pre, ⟨file, t⟩, post, hall, hat, hlast⟩ := exists_last (hfrom.overwritten_iff.mp hl)
  have hg : w.files.Grows u.files := by
    rw [hfiles]
    exact .refl _
  rw [hall] at hrun
  obtain ⟨targets, mid, x', hpre, hholds⟩ := renderFiles_last hg hrun hat hlast
  rw [← hend] at hholds
  exact ⟨p, u, hprepare, pre, file, t, post, targets, mid, x', hall, hat, hlast, hpre, hholds⟩

/-- A script or template that a run reads is the same when the run is over, well or not, unless the output of a
template leads to it; and when it does, a run that goes well has put the last such output in its place. -/
theorem render_sources (hs : w.files.Sound) {result : Except Error RenderReport}
    (h : (r.render templates out data).on w = (result, v)) {f : Path} (hf : Source r templates out w.files f) :
    ∃ l c, w.files.Leads f l ∧ w.files.at? l = some (.file c) ∧
      (¬Overwritten r templates out w.files l → v.files.at? l = some (.file c)) ∧
      ∀ report, result = .ok report → Overwritten r templates out w.files l →
        ∃ p u, (r.prepare templates out).on w = (.ok p, u) ∧ HoldsLast r p out data u w.files v.files l := by
  obtain ⟨extensions, found, -, hfound, hmem⟩ := hf
  obtain ⟨base, names, hstands⟩ := TemplateDir.stands_of_mem hs hfound hmem
  obtain ⟨c, hc⟩ := hstands.file
  refine ⟨_, c, hstands.leads, hc, fun hno => render_spares h hno hc, ?_⟩
  rintro report rfl hover
  exact render_overwrites h hover

/-- Where no links are below the output root, a run changes files there only. -/
theorem render_alters_below (hs : w.files.Sound) (hfree : w.files.LinkFreeBelow out) {base : Location}
    (hout : w.files.Leads out base) {result : Except Error RenderReport}
    (h : (r.render templates out data).on w = (result, v)) : Alters (base <+: ·) w.files v.files := by
  have hsite {root f : Path} {l : Location} (hl : Site w.files root out r.options.templateExtension f l) : base <+: l := by
    obtain ⟨names, kept, -, -, base', hbase', rfl⟩ := hl
    rw [hout.unique hbase']
    exact List.prefix_append _ _
  rcases render_cases h with hfiles | ⟨p, u, -, hfrom, hfiles, h⟩
  · rw [hfiles]
    exact .refl _ _
  · obtain ⟨-, hfound⟩ := hfrom.templates_found hs
    rw [← hfiles] at hfree ⊢
    have hsites {xs : List (Path × Template)} {l : Location} (hl : Sites u.files r p out xs l) : base <+: l := by
      obtain ⟨x, -, hx⟩ := hl
      rw [hfiles] at hx
      exact hsite hx
    cases result with
    | ok report =>
      obtain ⟨-, host, x, hrun, hend⟩ := write_ok h
      rw [hend]
      exact (renderFiles_alters hfree (.refl _) hfound hrun).mono fun _ => hsites
    | error e =>
      obtain ⟨pre, file, t, post, targets, mid, x, hall, hpre, hfails⟩ := renderFiles_error (write_error h)
      rw [hall] at hfound
      have hbefore := renderFiles_alters hfree (.refl _) (fun x hx => hfound x (List.mem_append_left _ hx)) hpre
      have hlast := hfails.alters hfree hbefore.grows (hfound (file, t) (by simp))
      rw [hfiles] at hlast
      exact (hbefore.mono fun _ => hsites).trans (hlast.mono fun _ => hsite)

/-- When there are no links below the output root, and it is neither the template root nor above it, no script and
no template changes; outputs below the templates have to be spelled as names below the template root. -/
theorem render_keeps_apart (hs : w.files.Sound) (hfree : w.files.LinkFreeBelow out) {base outBase : Location}
    (hbase : w.files.Leads templates base) (hout : w.files.Leads out outBase) (hapart : ¬outBase <+: base)
    (hspelled : ∀ names, outBase = base ++ names → out.components = templates.components ++ names.map .name)
    {result : Except Error RenderReport} (h : (r.render templates out data).on w = (result, v)) {f : Path}
    (hf : Source r templates out w.files f) {l : Location} (hl : w.files.Leads f l) :
    v.files.at? l = w.files.at? l := by
  rcases render_cases h with hfiles | ⟨p, u, -, hfrom, hfiles, -⟩
  · rw [hfiles]
  · obtain ⟨extensions, found, -, hfound, hmem⟩ := hf
    obtain ⟨base', names, hstands⟩ := TemplateDir.stands_of_mem hs hfound hmem
    obtain rfl := hstands.leads.unique hl
    obtain ⟨c, hc⟩ := hstands.file
    have hroot := hstands.rootLeads
    rw [TemplateDir.root_excluding] at hroot
    obtain rfl := hroot.unique hbase
    -- what is found does not stand among the outputs
    have hnot : ¬outBase <+: base' ++ names := by
      intro hpre
      rcases List.prefix_or_prefix_of_prefix hpre (List.prefix_append base' names) with hpre' | ⟨ms, rfl⟩
      · exact hapart hpre'
      · have hne : ms ≠ [] := by
          rintro rfl
          exact hapart (by simp)
        obtain ⟨found', hfound', hiff⟩ :=
          TemplateDir.found_among_outputs_iff hs hfrom.isDir hbase hout hne extensions
        obtain rfl := Except.ok.inj (hfound.symm.trans hfound')
        exact ((hiff _ hpre).mp ⟨f, hmem, hl⟩).2 (hspelled ms rfl)
    rw [hc]
    exact ((render_alters_below hs hfree hout h).file_iff hnot c).mpr hc

end Render

/-- A template whose output is another template, rendered into the directory of the templates. -/
def doubled : World := .ofTexts [["t"]] [(["t", "x.tmpl"], "one"), (["t", "x.tmpl.tmpl"], "two")]

def doubledRun : Except Error RenderReport × World :=
  ((ofOptions .default).render (.ofString "/t") (.ofString "/t") (.object [])).on doubled

theorem doubled_found : ((TemplateDir.mk (.ofString "/t") none).excluding (.ofString "/t")).findFiles doubled.files ["tmpl"] =
    .ok [.ofString "/t/x.tmpl", .ofString "/t/x.tmpl.tmpl"] := rfl

/-- Whether a run goes well and leaves a text in a file. -/
def leaves (run : Except Error RenderReport × World) (q : Path) (text : String) : Bool :=
  match run with
  | (.ok _, v) =>
    match v.files.readText q with
    | .ok s => s == text
    | .error _ => false
  | (.error _, _) => false

set_option maxRecDepth 100000 in
theorem doubled_leaves : leaves doubledRun (.ofString "/t/x.tmpl") "two" = true := by
  decide +kernel

theorem doubled_ok : ∃ report v, doubledRun = (.ok report, v) ∧ v.files.readText (.ofString "/t/x.tmpl") = .ok "two" := by
  have hleaves := doubled_leaves
  rcases hrun : doubledRun with ⟨e | report, v⟩
  · simp [hrun, leaves] at hleaves
  · simp only [hrun, leaves] at hleaves
    split at hleaves
    · rename_i s hs
      rw [beq_iff_eq] at hleaves
      exact ⟨report, v, rfl, by rw [hs, hleaves]⟩
    · cases hleaves

theorem doubled_sources {f : Path} (hf : f ∈ [Path.ofString "/t/x.tmpl", .ofString "/t/x.tmpl.tmpl"]) :
    Source (ofOptions .default) (.ofString "/t") (.ofString "/t") doubled.files f :=
  ⟨["tmpl"], _, .inr rfl, doubled_found, hf⟩

/-- A template can be lost to the output of another one. -/
theorem doubled_lost : ∃ report v, doubledRun = (.ok report, v) ∧
    Source (ofOptions .default) (.ofString "/t") (.ofString "/t") doubled.files (.ofString "/t/x.tmpl") ∧
      doubled.files.readText (.ofString "/t/x.tmpl") = .ok "one" ∧
      v.files.readText (.ofString "/t/x.tmpl") = .ok "two" := by
  obtain ⟨report, v, hrun, hread⟩ := doubled_ok
  have hold : doubled.files.readText (.ofString "/t/x.tmpl") = .ok "one" := rfl
  exact ⟨report, v, hrun, doubled_sources (by simp), hold, hread⟩

theorem doubled_spared {l : Location} (hl : doubled.files.Leads (.ofString "/t/x.tmpl.tmpl") l) :
    ¬Overwritten (ofOptions .default) (.ofString "/t") (.ofString "/t") doubled.files l := by
  have hself : doubled.files.resolve (.ofString "/t/x.tmpl.tmpl") true =
      .ok (.present [Utf8.encode "t", Utf8.encode "x.tmpl.tmpl"] (.file (Utf8.encode "two"))) := rfl
  have hfirst : doubled.files.resolve (.ofString "/t/x") true = .ok (.vacant [Utf8.encode "t", Utf8.encode "x"]) := rfl
  have hsecond : doubled.files.resolve (.ofString "/t/x.tmpl") true =
      .ok (.present [Utf8.encode "t", Utf8.encode "x.tmpl"] (.file (Utf8.encode "one"))) := rfl
  obtain rfl := (leads_of_place hself rfl).unique hl
  rintro ⟨found, hfound, file, hfile, q, hq, hleads⟩
  obtain rfl := Except.ok.inj (hfound.symm.trans doubled_found)
  have hnot {q' : Path} {r : Target} {k : Location} (hr : doubled.files.resolve q' true = .ok r) (hk : r.place? = some k)
      (hne : k ≠ [Utf8.encode "t", Utf8.encode "x.tmpl.tmpl"]) : q ≠ q' := by
    rintro rfl
    exact hne ((leads_of_place hr hk).unique hleads)
  rcases List.mem_cons.mp hfile with rfl | hfile
  · exact hnot hfirst rfl (by decide) (Except.ok.inj hq).symm
  · rw [List.mem_singleton] at hfile
    subst hfile
    exact hnot hsecond rfl (by decide) (Except.ok.inj hq).symm

/-- What `render_sources` says of these two. -/
theorem doubled_holdsLast : ∃ report v l l' p u, doubledRun = (.ok report, v) ∧
    doubled.files.Leads (.ofString "/t/x.tmpl") l ∧ doubled.files.Leads (.ofString "/t/x.tmpl.tmpl") l' ∧
      ((ofOptions .default).prepare (.ofString "/t") (.ofString "/t")).on doubled = (.ok p, u) ∧
      HoldsLast (ofOptions .default) p (.ofString "/t") (.object []) u doubled.files v.files l ∧
      v.files.at? l' = doubled.files.at? l' := by
  obtain ⟨report, v, hrun, -⟩ := doubled_ok
  have hs : doubled.files.Sound := by decide
  obtain ⟨l, c, hl, -, -, hlost⟩ := render_sources hs hrun (doubled_sources (f := .ofString "/t/x.tmpl") (by simp))
  obtain ⟨l', c', hl', hc', hkept, -⟩ := render_sources hs hrun (doubled_sources (f := .ofString "/t/x.tmpl.tmpl") (by simp))
  have hover : Overwritten (ofOptions .default) (.ofString "/t") (.ofString "/t") doubled.files l :=
    ⟨_, doubled_found, .ofString "/t/x.tmpl.tmpl", by simp, .ofString "/t/x.tmpl", rfl, hl⟩
  obtain ⟨p, u, hprepare, hholds⟩ := hlost report rfl hover
  exact ⟨report, v, l, l', p, u, hrun, hl, hl', hprepare, hholds, by rw [hkept (doubled_spared hl'), hc']⟩

end Renderer
end ApiStencil
