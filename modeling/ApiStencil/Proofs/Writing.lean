import ApiStencil.Proofs.Changes
import ApiStencil.Render
/-!
The loop that renders templates into their files. Each output has a place of its own, so what one template
writes is left alone by all the others.
-/
set_option autoImplicit false

namespace ApiStencil
namespace Renderer

open FileSystem

theorem ofFile_on_ok {α : Type} {what : String} {path : Path} {x : Except IoError α} {w v : World} {a : α}
    (h : (Run.ofFile what path x).on w = (.ok a, v)) : x = .ok a ∧ w = v := by
  cases x with
  | ok b =>
    simp only [Run.ofFile, Run.pure_on, Prod.mk.injEq, Except.ok.injEq] at h
    obtain ⟨rfl, rfl⟩ := h
    exact ⟨rfl, rfl⟩
  | error e =>
    rw [Run.ofFile, Run.bind_on_ok (Run.tell_on w _ _)] at h
    cases h

theorem ofFile_on_files {α : Type} (what : String) (path : Path) (x : Except IoError α) (w : World) :
    ((Run.ofFile what path x).on w).2.files = w.files := by
  cases x with
  | ok b => rfl
  | error e => rfl

theorem makeParent_addsDirs (q : Path) (w : World) : AddsDirs w.files ((makeParent q).on w).2.files := by
  unfold makeParent
  cases q.parent? with
  | none => exact .refl _ _
  | some parent =>
    have hdirs := w.files.ensureDirs_addsDirs parent
    simp only [Run.bind_on, Run.files_on, Run.setFiles_on, ofFile_on_files]
    exact hdirs

theorem makeParent_journal {q : Path} {w v : World} (h : (makeParent q).on w = (.ok (), v)) : v.journal = w.journal := by
  unfold makeParent at h
  cases hp : q.parent? with
  | none =>
    simp only [hp, Run.pure_on, Prod.mk.injEq, true_and] at h
    rw [h]
  | some parent =>
    simp only [hp, Run.bind_on, Run.files_on, Run.setFiles_on] at h
    obtain ⟨-, rfl⟩ := ofFile_on_ok h
    rfl

/-- An output is created once the directory above it has been made. -/
theorem openOutput_creates {q : Path} {w v : World} {l : Location} (h : (openOutput q).on w = (.ok l, v)) :
    ∃ u gs, (makeParent q).on w = (.ok (), u) ∧ u.files.createFile q = .ok (gs, l) ∧ v = ⟨gs, u.journal⟩ := by
  unfold openOutput at h
  obtain ⟨⟨⟩, u, hu, h⟩ := Run.bind_on_eq_ok h
  rw [Run.bind_on_ok (Run.files_on u)] at h
  obtain ⟨⟨gs, k⟩, u', hmade, hset⟩ := Run.bind_on_eq_ok h
  obtain ⟨hcreate, rfl⟩ := ofFile_on_ok hmade
  simp only [Run.bind_on, Run.setFiles_on, Run.pure_on, Prod.mk.injEq, Except.ok.injEq] at hset
  obtain ⟨rfl, rfl⟩ := hset
  exact ⟨u, gs, hu, hcreate, rfl⟩

/-- Where an output is opened, it is empty, and stands where its path leads. -/
theorem openOutput_ok {q : Path} {w v : World} {l : Location} (h : (openOutput q).on w = (.ok l, v)) :
    ∃ fs r, AddsDirs w.files fs ∧ fs.resolve q true = .ok r ∧ r.place? = some l ∧
      v = ⟨fs.put l (.file []), w.journal⟩ := by
  obtain ⟨u, gs, hu, hcreate, rfl⟩ := openOutput_creates h
  have hdirs := makeParent_addsDirs q w
  rw [hu] at hdirs
  obtain ⟨rfl, r, hr, hplace⟩ := createFile_ok hcreate
  exact ⟨u.files, r, hdirs, hr, hplace, by rw [makeParent_journal hu]⟩

/-- Where an output cannot be opened, no file has changed. -/
theorem openOutput_error {q : Path} {w v : World} {e : Error} (h : (openOutput q).on w = (.error e, v)) :
    AddsDirs w.files v.files := by
  unfold openOutput at h
  have hdirs := makeParent_addsDirs q w
  rcases Run.bind_on_eq_error h with hu | ⟨⟨⟩, u, hu, h⟩
  · rwa [hu] at hdirs
  · rw [hu] at hdirs
    rw [Run.bind_on_ok (Run.files_on u)] at h
    rcases Run.bind_on_eq_error h with hcreate | ⟨⟨gs, k⟩, u', -, h⟩
    · have hsame := congrArg (fun s => s.2.files) hcreate
      simp only [ofFile_on_files] at hsame
      rwa [hsame] at hdirs
    · rw [Run.bind_on_ok (Run.setFiles_on u' gs)] at h
      cases h

/-- What is left of the files when a rendering that fails has been taken back. -/
def takenBack (fs : FileSystem) (q : Path) : FileSystem :=
  match fs.removeFile q with
  | .ok gs => gs
  | .error _ => fs

theorem removePartial_on (q : Path) (w : World) :
    ∃ journal, (removePartial q).on w = (.ok (), ⟨takenBack w.files q, journal⟩) := by
  unfold removePartial takenBack
  rw [Run.bind_on_ok (Run.files_on w)]
  cases w.files.removeFile q with
  | ok fs => exact ⟨_, rfl⟩
  | error e => exact ⟨_, rfl⟩

section Settle

variable (file q : Path) (l : Location) {rendering : Template.Rendering Command.Stage} (w : World)

theorem settle_of_none (h : rendering.fault = none) :
    ∃ journal, (settle file q l rendering).on w =
      (.ok rendering.world.1, ⟨w.files.put l (.file (Utf8.encode rendering.text)), journal⟩) := by
  obtain ⟨text, fault, ledger, host, journal⟩ := rendering
  cases h
  exact ⟨_, rfl⟩

/-- Where a rendering fails, its output is taken back. -/
theorem settle_of_some {fault : Template.Fault} (h : rendering.fault = some fault) :
    ∃ journal, (settle file q l rendering).on w =
      (.error (.templateRender file fault.text),
        ⟨takenBack (w.files.put l (.file (Utf8.encode rendering.text))) q, journal⟩) := by
  obtain ⟨text, fault', ledger, host, journal⟩ := rendering
  cases h
  unfold settle
  simp only [Run.bind_on, Run.set_on, Run.files_on, Run.tell_on]
  obtain ⟨j, hj⟩ := removePartial_on q
    ⟨w.files.put l (.file (Utf8.encode text)),
      journal.add .error s!"Failed to render template {file.display}: {fault.text}"⟩
  exact ⟨j, by rw [hj]; rfl⟩

end Settle

theorem settle_ok {file q : Path} {l : Location} {rendering : Template.Rendering Command.Stage} {w v : World}
    {host : Script.Host} (h : (settle file q l rendering).on w = (.ok host, v)) :
    rendering.fault = none ∧ host = rendering.world.1 ∧
      v.files = w.files.put l (.file (Utf8.encode rendering.text)) := by
  cases hf : rendering.fault with
  | none =>
    obtain ⟨journal, hs⟩ := settle_of_none file q l w hf
    rw [hs] at h
    cases h
    exact ⟨rfl, rfl, rfl⟩
  | some fault =>
    obtain ⟨journal, hs⟩ := settle_of_some file q l w hf
    rw [hs] at h
    cases h

theorem settle_error {file q : Path} {l : Location} {rendering : Template.Rendering Command.Stage} {w v : World}
    {e : Error} (h : (settle file q l rendering).on w = (.error e, v)) :
    v.files = takenBack (w.files.put l (.file (Utf8.encode rendering.text))) q := by
  cases hf : rendering.fault with
  | none =>
    obtain ⟨journal, hs⟩ := settle_of_none file q l w hf
    rw [hs] at h
    cases h
  | some fault =>
    obtain ⟨journal, hs⟩ := settle_of_some file q l w hf
    rw [hs] at h
    cases h
    rfl

theorem resolve_notFollowing {fs : FileSystem} {q : Path} {r : Target} (h : fs.resolve q true = .ok r)
    (hno : ∀ k t, fs.resolve q false ≠ .ok (.present k (.link t))) : fs.resolve q false = .ok r := by
  obtain ⟨hnul, hempty, hw⟩ := resolve_iff.mp h
  exact resolve_iff.mpr ⟨hnul, hempty, hw.notFollowing fun k t hk => hno k t (resolve_iff.mpr ⟨hnul, hempty, hk⟩)⟩

/-- What is taken back is the file at the path, and nothing is left there. -/
theorem takenBack_of_file {fs : FileSystem} {q : Path} {l : Location} {c : Bytes}
    (h : fs.resolve q false = .ok (.present l (.file c))) :
    Alters (· = l) fs (takenBack fs q) ∧ (takenBack fs q).resolve q false = .ok (.vacant l) := by
  have hne := (at?_place h rfl).1
  have halters : Alters (· = l) fs (fs.remove l) := .remove hne (e := some c) (at?_of_resolve h)
  have hremoved : takenBack fs q = fs.remove l := by rw [takenBack, removeFile, h]
  have hnone : (fs.remove l).at? l = none := by rw [at?_remove fs l hne, if_pos rfl]
  rw [hremoved]
  exact ⟨halters, resolve_grows halters.grows h rfl (c := none) hnone⟩

section RenderFile

variable {file q : Path} {host : Script.Host} {render : Command.Stage → Template.Rendering Command.Stage} {w v : World}

/-- A file that has been opened and filled. -/
theorem fill {fs : FileSystem} {r : Target} {l : Location} (hdirs : AddsDirs w.files fs)
    (hr : fs.resolve q true = .ok r) (hplace : r.place? = some l) (c : Bytes) :
    Alters (· = l) w.files ((fs.put l (.file [])).put l (.file c)) ∧
      ((fs.put l (.file [])).put l (.file c)).resolve q true = .ok (.present l (.file c)) := by
  obtain ⟨hne, old, hold⟩ := at?_place hr hplace
  have hopen : Alters (· = l) fs (fs.put l (.file [])) := .put [] hne hold
  have hfill : Alters (· = l) (fs.put l (.file [])) ((fs.put l (.file [])).put l (.file c)) :=
    .put c hne (e := some []) (at?_put_self fs _ hne)
  have hall := hopen.trans hfill
  exact ⟨(hdirs.mono fun _ h => h.elim).trans hall,
    resolve_grows hall.grows hr hplace (c := some c) (at?_put_self _ _ hne)⟩

/-- A template that is rendered well changes its own output and nothing else. -/
theorem renderFile_ok {host' : Script.Host} (h : (renderFile file q host render).on w = (.ok host', v)) :
    (render (host, w.journal)).fault = none ∧
      ∃ fs r l, w.files.Grows fs ∧ fs.resolve q true = .ok r ∧ r.place? = some l ∧ Alters (· = l) w.files v.files ∧
        v.files.resolve q true = .ok (.present l (.file (Utf8.encode (render (host, w.journal)).text))) := by
  unfold renderFile at h
  obtain ⟨l, u, hopen, h⟩ := Run.bind_on_eq_ok h
  obtain ⟨fs, r, hdirs, hr, hplace, rfl⟩ := openOutput_ok hopen
  rw [Run.bind_on_ok (Run.get_on _)] at h
  obtain ⟨hfault, -, hfiles⟩ := settle_ok h
  obtain ⟨halters, hresolve⟩ := fill hdirs hr hplace (Utf8.encode (render (host, w.journal)).text)
  rw [← hfiles] at halters hresolve
  exact ⟨hfault, fs, r, l, hdirs.grows, hr, hplace, halters, hresolve⟩

/-- A template that fails changes at most its own output, when no link is there. -/
theorem renderFile_error {e : Error}
    (hno : ∀ gs, w.files.Grows gs → ∀ k t, gs.resolve q false ≠ .ok (.present k (.link t)))
    (h : (renderFile file q host render).on w = (.error e, v)) :
    AddsDirs w.files v.files ∨
      ∃ fs r l, w.files.Grows fs ∧ fs.resolve q true = .ok r ∧ r.place? = some l ∧ Alters (· = l) w.files v.files := by
  unfold renderFile at h
  rcases Run.bind_on_eq_error h with hopen | ⟨l, u, hopen, h⟩
  · exact .inl (openOutput_error hopen)
  · obtain ⟨fs, r, hdirs, hr, hplace, rfl⟩ := openOutput_ok hopen
    rw [Run.bind_on_ok (Run.get_on _)] at h
    obtain ⟨halters, hresolve⟩ := fill hdirs hr hplace (Utf8.encode (render (host, w.journal)).text)
    refine .inr ⟨fs, r, l, hdirs.grows, hr, hplace, ?_⟩
    rw [settle_error h]
    exact halters.trans (takenBack_of_file (resolve_notFollowing hresolve (hno _ halters.grows))).1

end RenderFile

/-- A template file as it is found: it stands below the root under proper names, the last of them with the
extension of templates. -/
structure Found (root : Path) (ext : String) (file : Path) : Prop where
  names : ∃ names last, (∀ n ∈ names ++ [last], Path.IsName n) ∧ file = root.descend (names ++ [last])
  marked : TemplateDir.hasExtension [ext] file = true

/-- Where the output of a template file stands. -/
def Site (fs : FileSystem) (root out : Path) (ext : String) (file : Path) (l : Location) : Prop :=
  ∃ names kept, (∀ n ∈ names ++ [kept ++ Path.dot :: Utf8.encode ext], Path.IsName n) ∧
    file = root.descend (names ++ [kept ++ Path.dot :: Utf8.encode ext]) ∧ fs.Below out (names ++ [kept]) l

section Site

variable {fs : FileSystem} {root out : Path} {ext : String} {file : Path}

/-- No two templates have one output. -/
theorem Site.file_unique {file' : Path} {l : Location} (h : Site fs root out ext file l)
    (h' : Site fs root out ext file' l) : file = file' := by
  obtain ⟨names, kept, -, rfl, hbelow⟩ := h
  obtain ⟨names', kept', -, rfl, hbelow'⟩ := h'
  have hsame := (hbelow.unique hbelow').mp rfl
  obtain ⟨rfl, hkept⟩ := List.append_inj' hsame rfl
  rw [List.singleton_inj.mp hkept]

theorem Site.location_unique {l l' : Location} (h : Site fs root out ext file l)
    (h' : Site fs root out ext file l') : l = l' := by
  obtain ⟨names, kept, hnames, rfl, hbelow⟩ := h
  obtain ⟨names', kept', hnames', hfile, hbelow'⟩ := h'
  refine (hbelow.unique hbelow').mpr ?_
  have hall := Path.descend_inj root hnames hnames' hfile
  obtain ⟨rfl, hlast⟩ := List.append_inj' hall rfl
  rw [List.append_cancel_right (List.singleton_inj.mp hlast)]

variable {gs : FileSystem} {q : Path} (hg : fs.Grows gs) (hfree : fs.LinkFreeBelow out)
  (hfound : Found root ext file) (hq : Path.outputOf root file out ext = .ok q)

include hg hfree hfound hq

theorem site_of_place {r : Target} {l : Location} (hr : gs.resolve q true = .ok r) (hplace : r.place? = some l) :
    Site fs root out ext file l := by
  obtain ⟨⟨names, last, hnames, rfl⟩, hmarked⟩ := hfound
  obtain ⟨kept, hkept, hslash, rfl, rfl⟩ := Path.outputOf_descend hnames hmarked hq
  have hbelow := place_below hg hfree (fun n hn => hnames n (List.mem_append_left _ hn)) ⟨hkept, hslash⟩ hr hplace
  exact ⟨names, kept, hnames, rfl, hbelow.1⟩

theorem no_link_at_output {k : Location} {t : Path} : gs.resolve q false ≠ .ok (.present k (.link t)) := by
  obtain ⟨⟨names, last, hnames, rfl⟩, hmarked⟩ := hfound
  obtain ⟨kept, hkept, hslash, rfl, rfl⟩ := Path.outputOf_descend hnames hmarked hq
  exact not_link_below hg hfree (fun n hn => hnames n (List.mem_append_left _ hn)) ⟨hkept, hslash⟩

end Site

section Loop

variable (r : Renderer) (p : Prepared) (out : Path) (context : List (String × Json))

theorem renderFiles_append (xs ys : List (Path × Template)) (host : Script.Host) :
    renderFiles r p out context (xs ++ ys) host = do
      let (targets, host) ← renderFiles r p out context xs host
      let (more, host) ← renderFiles r p out context ys host
      return (targets ++ more, host) := by
  induction xs generalizing host with
  | nil => simp [renderFiles]
  | cons x xs ih =>
    obtain ⟨file, t⟩ := x
    simp only [List.cons_append, renderFiles, ih, bind_assoc, pure_bind]

variable {r p out context}
variable {xs ys : List (Path × Template)} {host host' : Script.Host} {w v : World}

theorem renderFiles_append_on {targets : List Path} {u : World}
    (h : (renderFiles r p out context xs host).on w = (.ok (targets, host'), u)) :
    (renderFiles r p out context (xs ++ ys) host).on w =
      match (renderFiles r p out context ys host').on u with
      | (.ok (more, host''), v) => (.ok (targets ++ more, host''), v)
      | (.error e, v) => (.error e, v) := by
  rw [renderFiles_append, Run.bind_on_ok h, Run.bind_on]
  rcases (renderFiles r p out context ys host').on u with ⟨_ | ⟨more, host''⟩, v⟩ <;> rfl

theorem renderFiles_append_ok {targets : List Path}
    (h : (renderFiles r p out context (xs ++ ys) host).on w = (.ok (targets, host'), v)) :
    ∃ before mid u behind, (renderFiles r p out context xs host).on w = (.ok (before, mid), u) ∧
      (renderFiles r p out context ys mid).on u = (.ok (behind, host'), v) ∧ targets = before ++ behind := by
  rw [renderFiles_append] at h
  obtain ⟨⟨before, mid⟩, u, hx, h⟩ := Run.bind_on_eq_ok h
  obtain ⟨⟨behind, last⟩, u', hy, h⟩ := Run.bind_on_eq_ok h
  rw [Run.pure_on] at h
  cases h
  exact ⟨before, mid, u, behind, hx, hy, rfl⟩

theorem renderFiles_cons_ok {file : Path} {t : Template} {targets : List Path}
    (h : (renderFiles r p out context ((file, t) :: ys) host).on w = (.ok (targets, host'), v)) :
    ∃ q mid u behind, Path.outputOf p.dir.root file out r.options.templateExtension = .ok q ∧
      (renderFile file q host (p.rendering context t)).on w = (.ok mid, u) ∧
      (renderFiles r p out context ys mid).on u = (.ok (behind, host'), v) ∧ targets = q :: behind := by
  rw [renderFiles] at h
  obtain ⟨q, u, hmap, hnext⟩ := Run.bind_on_eq_ok h
  obtain ⟨hq, rfl⟩ := Run.ofExcept_on_eq hmap
  obtain ⟨mid, u, hfile, hnext⟩ := Run.bind_on_eq_ok hnext
  obtain ⟨⟨behind, last⟩, v', hrest, hend⟩ := Run.bind_on_eq_ok hnext
  rw [Run.pure_on] at hend
  cases hend
  exact ⟨q, mid, u, behind, hq, hfile, hrest, rfl⟩

/-- One template cannot be rendered: it has no output, or its output cannot be written. -/
inductive Fails (r : Renderer) (p : Prepared) (out : Path) (context : List (String × Json)) (file : Path) (t : Template)
    (host : Script.Host) (w : World) (e : Error) : World → Prop where
  | unmapped : Path.outputOf p.dir.root file out r.options.templateExtension = .error e →
    Fails r p out context file t host w e w
  | unwritten {q : Path} {v : World} : Path.outputOf p.dir.root file out r.options.templateExtension = .ok q →
    (renderFile file q host (p.rendering context t)).on w = (.error e, v) → Fails r p out context file t host w e v

/-- Where not all templates are rendered, some are, and then one fails. -/
theorem renderFiles_error {e : Error} (h : (renderFiles r p out context xs host).on w = (.error e, v)) :
    ∃ pre file t post targets mid u, xs = pre ++ (file, t) :: post ∧
      (renderFiles r p out context pre host).on w = (.ok (targets, mid), u) ∧
      Fails r p out context file t mid u e v := by
  induction xs generalizing host w with
  | nil =>
    rw [renderFiles, Run.pure_on] at h
    cases h
  | cons x xs ih =>
    obtain ⟨file, t⟩ := x
    rw [renderFiles] at h
    rcases Run.bind_on_eq_error h with hq | ⟨q, u, hq, h⟩
    · obtain ⟨hmap, rfl⟩ := Run.ofExcept_on_eq hq
      exact ⟨[], file, t, xs, [], host, w, rfl, rfl, .unmapped hmap⟩
    · obtain ⟨hmap, rfl⟩ := Run.ofExcept_on_eq hq
      rcases Run.bind_on_eq_error h with hfile | ⟨mid, u, hfile, h⟩
      · exact ⟨[], file, t, xs, [], host, w, rfl, rfl, .unwritten hmap hfile⟩
      · rcases Run.bind_on_eq_error h with hrest | ⟨⟨behind, last⟩, u', -, h⟩
        · obtain ⟨pre, file', t', post, targets, mid', u', rfl, hpre, hfails⟩ := ih hrest
          refine ⟨(file, t) :: pre, file', t', post, q :: targets, mid', u', rfl, ?_, hfails⟩
          rw [renderFiles, Run.bind_on, Run.ofExcept_on, hmap]
          simp only [Run.bind_on, hfile, hpre, Run.pure_on]
        · rw [Run.pure_on] at h
          cases h

/-- The output of a template is on disk just as it is rendered behind those in `pre`. -/
def Rendered (r : Renderer) (p : Prepared) (out : Path) (context : List (String × Json)) (host : Script.Host)
    (w : World) (pre : List (Path × Template)) (file : Path) (t : Template) (files : FileSystem) : Prop :=
  ∃ targets mid u q, (renderFiles r p out context pre host).on w = (.ok (targets, mid), u) ∧
    Path.outputOf p.dir.root file out r.options.templateExtension = .ok q ∧
    (p.rendering context t (mid, u.journal)).fault = none ∧
    files.readBytes q = .ok (Utf8.encode (p.rendering context t (mid, u.journal)).text)

/-- The places of the outputs of templates. -/
def Sites (fs : FileSystem) (r : Renderer) (p : Prepared) (out : Path) (xs : List (Path × Template)) (l : Location) :
    Prop :=
  ∃ x ∈ xs, Site fs p.dir.root out r.options.templateExtension x.1 l

theorem Sites.notMem {fs : FileSystem} {file : Path} {l : Location}
    (hl : Site fs p.dir.root out r.options.templateExtension file l) (hfile : file ∉ xs.map (·.1)) :
    ¬Sites fs r p out xs l := by
  rintro ⟨x, hx, hsite⟩
  rw [hl.file_unique hsite] at hfile
  exact hfile (List.mem_map_of_mem hx)

/-- What templates alter together, when their outputs stand at locations of `own` only. -/
theorem renderFiles_alters_own {fs : FileSystem} {own : Location → Prop} {targets : List Path} (hg : fs.Grows w.files)
    (hown : ∀ x ∈ xs, ∀ q gs target l, Path.outputOf p.dir.root x.1 out r.options.templateExtension = .ok q →
      fs.Grows gs → gs.resolve q true = .ok target → target.place? = some l → own l)
    (h : (renderFiles r p out context xs host).on w = (.ok (targets, host'), v)) : Alters own w.files v.files := by
  induction xs generalizing host w targets with
  | nil =>
    rw [renderFiles, Run.pure_on] at h
    cases h
    exact .refl _ _
  | cons x xs ih =>
    obtain ⟨file, t⟩ := x
    obtain ⟨q, mid, u, behind, hq, hfile, hrest, -⟩ := renderFiles_cons_ok h
    obtain ⟨-, gs, target, l, hgrows, hr, hplace, halters, -⟩ := renderFile_ok hfile
    have hfirst : Alters own w.files u.files := by
      refine halters.mono ?_
      rintro k rfl
      exact hown (file, t) (by simp) q gs target k hq (hg.trans hgrows) hr hplace
    exact hfirst.trans (ih (hg.trans halters.grows) (fun y hy => hown y (List.mem_cons_of_mem _ hy)) hrest)

section Alters

variable {fs : FileSystem} (hfree : fs.LinkFreeBelow out)

include hfree

theorem renderFiles_alters {targets : List Path} (hg : fs.Grows w.files)
    (hfound : ∀ x ∈ xs, Found p.dir.root r.options.templateExtension x.1)
    (h : (renderFiles r p out context xs host).on w = (.ok (targets, host'), v)) :
    Alters (Sites fs r p out xs) w.files v.files :=
  renderFiles_alters_own hg (fun x hx _ _ _ _ hq hgs hr hplace =>
    ⟨x, hx, site_of_place hgs hfree (hfound x hx) hq hr hplace⟩) h

/-- A template that fails disturbs at most its own output. -/
theorem Fails.alters {file : Path} {t : Template} {e : Error} (hg : fs.Grows w.files)
    (hfound : Found p.dir.root r.options.templateExtension file) (h : Fails r p out context file t host w e v) :
    Alters (Site fs p.dir.root out r.options.templateExtension file) w.files v.files := by
  cases h with
  | unmapped => exact .refl _ _
  | unwritten hq hfile =>
    have hno (gs : FileSystem) (hgs : w.files.Grows gs) (k : Location) (t : Path) :=
      no_link_at_output (k := k) (t := t) (hg.trans hgs) hfree hfound hq
    rcases renderFile_error hno hfile with hdirs | ⟨gs, target, l, hgrows, hr, hplace, halters⟩
    · exact hdirs.mono fun _ h => h.elim
    · have hsite := site_of_place (hg.trans hgrows) hfree hfound hq hr hplace
      refine halters.mono ?_
      rintro k rfl
      exact hsite

/-- An output stays for as long as only other outputs are written. -/
theorem rendered_of_ok {pre post : List (Path × Template)} {file : Path} {t : Template} {targets : List Path}
    {own : Location → Prop} {gs : FileSystem} (hg : fs.Grows w.files)
    (hfound : ∀ x ∈ pre ++ (file, t) :: post, Found p.dir.root r.options.templateExtension x.1)
    (hfile : file ∉ post.map (·.1))
    (h : (renderFiles r p out context (pre ++ (file, t) :: post) host).on w = (.ok (targets, host'), v))
    (hlater : Alters own v.files gs)
    (hown : ∀ l, Site fs p.dir.root out r.options.templateExtension file l → ¬own l) :
    Rendered r p out context host w pre file t gs := by
  obtain ⟨before, mid, u, behind, hpre, hrest, -⟩ := renderFiles_append_ok h
  obtain ⟨q, next, u', others, hq, hone, hpost, -⟩ := renderFiles_cons_ok hrest
  obtain ⟨hfault, fs', target, l, hgrows, hr, hplace, halters, hresolve⟩ := renderFile_ok hone
  have hu := hg.trans (renderFiles_alters hfree hg (fun x hx => hfound x (List.mem_append_left _ hx)) hpre).grows
  have hsite := site_of_place (hu.trans hgrows) hfree (hfound (file, t) (by simp)) hq hr hplace
  have hothers := renderFiles_alters hfree (hu.trans halters.grows) (fun x hx => hfound x (by simp [hx])) hpost
  refine ⟨before, mid, u, q, hpre, hq, hfault, ?_⟩
  have hat := at?_of_resolve hresolve
  rw [← hothers.file_iff (Sites.notMem hsite hfile), ← hlater.file_iff (hown l hsite)] at hat
  exact readBytes_iff.mpr ⟨l, resolve_grows (hothers.grows.trans hlater.grows) hresolve rfl (c := some _) hat⟩

end Alters

end Loop

end Renderer
end ApiStencil
