import ApiStencil.Proofs.Exactness
/-!
What an inspection tells of a run. It makes its way alone, without reading a template, and it comes to the
commands and outputs of every run that goes well.
-/
set_option autoImplicit false

namespace ApiStencil

open Run

theorem Command.Table.load_reads (host : Script.Host) (dir : TemplateDir) (extensions : List String) :
    (load host dir extensions).Reads :=
  (loadAll_reads host dir extensions).bind fun _ => .pure _

/-- What has been loaded was found as scripts. -/
theorem Command.Table.loadAll_found {host : Script.Host} {dir : TemplateDir} {extensions : List String} {w v : World}
    {loaded : List Script.Command × Table × Script.Host} (h : (loadAll host dir extensions).on w = (.ok loaded, v)) :
    ∃ scripts, dir.findFiles w.files extensions = .ok scripts := by
  unfold loadAll at h
  rw [bind_on_ok (files_on w)] at h
  obtain ⟨scripts, u, hfind, -⟩ := bind_on_eq_ok h
  exact ⟨scripts, (ofExcept_on_eq hfind).1⟩

namespace Renderer

theorem outputs_of_map {dir : TemplateDir} {out : Path} {ext : String} {found targets : List Path}
    (h : found.map (fun f => Path.outputOf dir.root f out ext) = targets.map .ok) :
    outputs dir out ext found = .ok (found.zip targets) := by
  induction found generalizing targets with
  | nil =>
    cases targets with
    | nil => rfl
    | cons q targets => cases h
  | cons f found ih =>
    cases targets with
    | nil => cases h
    | cons q targets =>
      rw [List.map_cons, List.map_cons, List.cons.injEq] at h
      obtain ⟨hf, hrest⟩ := h
      rw [outputs, hf, ih hrest]
      rfl

theorem inspect_reads (r : Renderer) (templates out : Path) : (r.inspect templates out).Reads := by
  refine (openDir_reads templates out).bind fun dir => (Command.Table.load_reads _ _ _).bind fun loaded => ?_
  refine Reads.files.bind fun fs => (Reads.ofExcept _).bind fun found => (Reads.ofExcept _).bind fun mapped => ?_
  exact Reads.files.bind fun fs => (Reads.ofExcept _).bind fun scripts => .pure _

/-- What a run works on comes of the same directory and the same scripts wherever they are loaded. -/
theorem prepare_parts {r : Renderer} {templates out : Path} {p : Prepared} {w u : World}
    (h : (r.prepare templates out).on w = (.ok p, u)) :
    ((openDir templates out).on w).1 = .ok p.dir ∧ ∀ v : World, v.files = w.files →
      ((Command.Table.loadAll r.host p.dir r.options.scriptExtensions).on v).1 =
        .ok (p.registered, p.table, p.host) := by
  obtain ⟨dir, u₁, hdir, h⟩ := bind_on_eq_ok h
  have hfiles := (openDir_reads templates out).keepsFiles w
  rw [hdir] at hfiles
  rw [bind_on_ok (tell_on u₁ _ _)] at h
  obtain ⟨⟨registered, table, host⟩, u₂, hload, h⟩ := bind_on_eq_ok h
  obtain ⟨⟨parsed, set⟩, u₃, -, h⟩ := bind_on_eq_ok h
  rw [pure_on] at h
  cases h
  refine ⟨by rw [hdir], fun v hv => ?_⟩
  have hsame := (Command.Table.loadAll_reads r.host dir r.options.scriptExtensions).outcome_eq
    (w := v) (v := ⟨u₁.files, u₁.journal.add .info s!"Rendering templates from {dir.root.display}"⟩)
    (hv.trans hfiles.symm)
  rw [hload] at hsame
  exact hsame

/-- An inspection of what a run works on, if all its templates have outputs. -/
theorem inspect_of_prepare {r : Renderer} {templates out : Path} {p : Prepared} {targets : List Path} {w u : World}
    (hprepare : (r.prepare templates out).on w = (.ok p, u))
    (htargets : p.templates.map (fun x => Path.outputOf p.dir.root x.1 out r.options.templateExtension) =
      targets.map .ok) :
    ∃ scripts v, (r.inspect templates out).on w =
      (.ok ⟨scripts, p.table.entries.map fun (name, c) => (name, c.script), (p.templates.map (·.1)).zip targets⟩, v) := by
  obtain ⟨hdir, hload⟩ := prepare_parts hprepare
  have hfound := (prepare_ok hprepare).1.found
  rcases hopen : (openDir templates out).on w with ⟨opened, v₁⟩
  have hv₁ := (openDir_reads templates out).keepsFiles w
  rw [hopen] at hdir hv₁
  subst hdir
  rcases hall : (Command.Table.loadAll r.host p.dir r.options.scriptExtensions).on v₁ with ⟨loaded, v₂⟩
  have hv₂ := (Command.Table.loadAll_reads r.host p.dir r.options.scriptExtensions).keepsFiles v₁
  have hloaded := hload v₁ hv₁
  rw [hall] at hv₂ hloaded
  subst hloaded
  obtain ⟨scripts, hscripts⟩ := Command.Table.loadAll_found hall
  have hmapped : outputs p.dir out r.options.templateExtension (p.templates.map (·.1)) =
      .ok ((p.templates.map (·.1)).zip targets) := by
    refine outputs_of_map ?_
    rw [List.map_map]
    exact htargets
  refine ⟨scripts, v₂, ?_⟩
  have htable : (Command.Table.load r.host p.dir r.options.scriptExtensions).on v₁ = (.ok (p.table, p.host), v₂) :=
    bind_on_ok hall
  have hsame : v₂.files = w.files := hv₂.trans hv₁
  unfold inspect
  rw [bind_on_ok hopen, bind_on_ok htable, bind_on_ok (files_on v₂)]
  rw [bind_on_ok ((ofExcept_on v₂ _).trans (by rw [hsame, hfound])), bind_on_ok ((ofExcept_on v₂ _).trans (by rw [hmapped]))]
  rw [bind_on_ok (files_on v₂), bind_on_ok ((ofExcept_on v₂ _).trans (by rw [hv₂, hscripts])), pure_on]

/-- A run that goes well writes just the outputs that an inspection tells, with just the commands that it tells; so
no run goes well that an inspection fails for. An inspection itself changes no file. -/
theorem inspect_predicts_render (r : Renderer) (templates out : Path) (data : Json) (w : World) :
    ((r.inspect templates out).on w).2.files = w.files ∧
      (∀ report v, (r.render templates out data).on w = (.ok report, v) →
        ∃ i u, (r.inspect templates out).on w = (.ok i, u) ∧ i.templates.map (·.2) = report.files ∧
          i.commands.map (·.1) = report.commands) ∧
      ∀ e u, (r.inspect templates out).on w = (.error e, u) →
        ∃ e' v, (r.render templates out data).on w = (.error e', v) := by
  have predicts (report : RenderReport) (v : World) (h : (r.render templates out data).on w = (.ok report, v)) :
      ∃ i u, (r.inspect templates out).on w = (.ok i, u) ∧ i.templates.map (·.2) = report.files ∧
        i.commands.map (·.1) = report.commands := by
    obtain ⟨p, u, hprepare, hwrite⟩ := bind_on_eq_ok h
    obtain ⟨hcommands, host, x, hrun, -⟩ := write_ok hwrite
    have htargets := renderFiles_targets hrun
    obtain ⟨scripts, v', hinspect⟩ := inspect_of_prepare hprepare htargets
    refine ⟨_, v', hinspect, ?_, ?_⟩
    · refine List.map_snd_zip ?_
      have hlength := congrArg List.length htargets
      rw [List.length_map, List.length_map] at hlength
      simp [hlength]
    · rw [hcommands, Command.Table.names, List.map_map]
      rfl
  refine ⟨(inspect_reads r templates out).keepsFiles w, predicts, fun e u hinspect => ?_⟩
  rcases hrun : (r.render templates out data).on w with ⟨e' | report, v⟩
  · exact ⟨e', v, rfl⟩
  · obtain ⟨i, u', hok, -⟩ := predicts report v hrun
    rw [hinspect] at hok
    cases hok

/-- What `inspect_predicts_render` says of two nested templates. -/
theorem nested_predicted : ∃ i u, ((ofOptions .default).inspect (.ofString "/t") (.ofString "/o")).on nested = (.ok i, u) ∧
    i.templates.map (·.2) = [.ofString "/o/a", .ofString "/o/s/a.tmpl"] ∧ u.files = nested.files := by
  obtain ⟨hfiles, hpredicts, -⟩ :=
    inspect_predicts_render (ofOptions .default) (.ofString "/t") (.ofString "/o") nestedData nested
  have hgives := nested_gives
  rcases hrun : ((ofOptions .default).render (.ofString "/t") (.ofString "/o") nestedData).on nested with ⟨e | report, v⟩
  · simp [hrun, gives] at hgives
  · simp only [hrun, gives, beq_iff_eq] at hgives
    obtain ⟨i, u, hinspect, htargets, -⟩ := hpredicts report v hrun
    rw [hinspect] at hfiles
    exact ⟨i, u, hinspect, by rw [htargets, hgives], hfiles⟩

end Renderer
end ApiStencil
