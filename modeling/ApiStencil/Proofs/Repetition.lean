import ApiStencil.Proofs.Rediscovery
/-!
Runs that are made again. A second run into the same output root comes to the same report and leaves everything as
it is, when the outputs are spelled below the templates wherever they are there; a run into another output root
comes to the same tree of outputs.
-/
set_option autoImplicit false

namespace ApiStencil

open FileSystem

theorem FileSystem.Fresh.named_ne_nil {fs : FileSystem} {p : Path} (h : fs.Fresh p) : p.named ≠ [] := by
  intro hnil
  have hnone := h.vacant
  rw [hnil] at hnone
  cases hnone

/-- The same files laid in the same way leave the same. -/
theorem FileSystem.View.Lays.unique {base : Location} {a b b' : View} {plan : List (List Bytes × Bytes)}
    (h : Lays base a plan b) (h' : Lays base a plan b') : b = b' := by
  induction h with
  | nil =>
    cases h'
    rfl
  | cons _ _ ih =>
    cases h' with
    | cons _ h' => exact ih h'

namespace Renderer

theorem Goes.unique {root file : Path} {ext : String} {way way' : List Bytes} (h : Goes root ext file way)
    (h' : Goes root ext file way') : way = way' := by
  have hsame := Except.ok.inj ((h.output root).symm.trans (h'.output root))
  exact Path.join_ofPieces_inj root h.nonempty h'.nonempty (fun n hn => (h.names n hn).part) (fun n hn => (h'.names n hn).part)
    hsame

theorem Plans.unique {render : Template → Command.Stage → Template.Rendering Command.Stage} {root : Path} {ext : String}
    {host : Script.Host} {xs : List (Path × Template)} {plan plan' : List (List Bytes × Bytes)}
    (h : Plans render root ext host xs plan) (h' : Plans render root ext host xs plan') : plan = plan' := by
  induction h generalizing plan' with
  | nil =>
    cases h'
    rfl
  | cons hgoes _ _ ih =>
    cases h' with
    | cons hgoes' _ h' => rw [hgoes.unique hgoes', ih h']

/-- What a run that goes well has planned. -/
structure Planned (r : Renderer) (templates out : Path) (data : Json) (p : Prepared)
    (plan : List (List Bytes × Bytes)) (report : RenderReport) (a b : View) : Prop where
  commands : report.commands = p.table.names
  files : p.templates.map (fun x => Path.outputOf templates x.1 out r.options.templateExtension) = report.files.map .ok
  plans : Plans (p.rendering (context data)) templates r.options.templateExtension p.host p.templates plan
  distinct : (plan.map (·.1)).Nodup
  usable : ∀ x ∈ plan, Usable (out.join (.ofPieces x.1))
  lays : View.Lays out.named a plan b

section Render

variable {r : Renderer} {templates out : Path} {data : Json} {report : RenderReport} {w v : World}

theorem render_planned (hreg : w.files.Regular) (hfresh : w.files.Fresh out)
    (h : (r.render templates out data).on w = (.ok report, v)) :
    ∃ p u plan, (r.prepare templates out).on w = (.ok p, u) ∧
      Planned r templates out data p plan report w.files.at? v.files.at? ∧ v.files.Sound := by
  obtain ⟨p, u, hprepare, hwrite⟩ := Run.bind_on_eq_ok h
  obtain ⟨hfrom, hfiles⟩ := prepare_ok hprepare
  obtain ⟨hcommands, host, x, hrun, hend⟩ := write_ok hwrite
  obtain ⟨hnodup, hfound⟩ := hfrom.templates_found hreg.sound
  have hlinks : u.files.LinkFree [] := hfiles ▸ hreg.linkFree
  obtain ⟨plan, hplans, hlays, husable⟩ := renderFiles_plans hfresh.straight hfresh.named_ne_nil hlinks hfound hrun
  have htargets := renderFiles_targets hrun
  rw [hfrom.root] at hplans hfound htargets
  rw [hfiles, ← hend] at hlays
  refine ⟨p, u, plan, hprepare, ⟨hcommands, htargets, hplans, hplans.nodup hnodup hfound, husable, hlays⟩, ?_⟩
  rw [hend]
  exact renderFiles_sound (hfiles ▸ hreg.sound) hrun

/-- A run goes well when all that it works on can be laid down. -/
theorem render_of_plans {p : Prepared} {u : World} {plan : List (List Bytes × Bytes)} {b : View}
    (hprepare : (r.prepare templates out).on w = (.ok p, u)) (hout : out.Straight) (hbelow : out.named ≠ [])
    (hfree : w.files.LinkFree [])
    (hplans : Plans (p.rendering (context data)) templates r.options.templateExtension p.host p.templates plan)
    (husable : ∀ x ∈ plan, Usable (out.join (.ofPieces x.1))) (hlays : View.Lays out.named w.files.at? plan b) :
    ∃ report v, (r.render templates out data).on w = (.ok report, v) ∧ v.files.at? = b ∧
      report.commands = p.table.names ∧
      p.templates.map (fun x => Path.outputOf templates x.1 out r.options.templateExtension) = report.files.map .ok := by
  obtain ⟨hfrom, hfiles⟩ := prepare_ok hprepare
  rw [← hfrom.root] at hplans
  rw [← hfiles] at hlays hfree
  obtain ⟨targets, host, v, hrun, hview⟩ := renderFiles_of_plans hout hbelow hfree hplans husable hlays
  have htargets := renderFiles_targets hrun
  rw [hfrom.root] at htargets
  refine ⟨⟨p.table.names, targets⟩,
    ⟨v.files, v.journal.add .info s!"Rendered {targets.length} file(s) into {out.display}"⟩, ?_, hview, rfl, htargets⟩
  rw [render, Run.bind_on_ok hprepare, write, Run.bind_on_ok hrun, Run.bind_on_ok (Run.tell_on _ _ _), Run.pure_on]

/-- Nothing keeps a directory from being made at a path, nor the directories above it. -/
structure Room (fs : FileSystem) (p : Path) : Prop extends Usable p where
  above : fs.Above [] p.named fun e => e = none ∨ e = some .directory

section Again

variable (hreg : w.files.Regular) {base : Location} (hbase : w.files.Leads templates base) (hfresh : w.files.Fresh out)

include hreg hbase hfresh

theorem prepared_found {p : Prepared} {u : World} (hprepare : (r.prepare templates out).on w = (.ok p, u))
    {extensions : List String} {files : List Path} (hok : p.dir.findFiles w.files extensions = .ok files) :
    (TemplateDir.mk templates none).findFiles w.files extensions = .ok files := by
  have hfrom := (prepare_ok hprepare).1
  rwa [hfrom.dir, TemplateDir.findFiles_fresh hreg hfrom.isDir hbase hfresh] at hok

/-- Where no output root is yet, it does not matter to what is prepared. -/
theorem prepare_elsewhere {p : Prepared} {u : World} (hprepare : (r.prepare templates out).on w = (.ok p, u)) {other : Path}
    (hother : w.files.Fresh other) (j : Journal) : ∃ k, (r.prepare templates other).on ⟨w.files, j⟩ =
      (.ok { p with dir := (TemplateDir.mk templates none).excluding other }, ⟨w.files, k⟩) := by
  have hdir := (prepare_ok hprepare).1.isDir
  exact prepare_carries other hprepare hdir (fun extensions files hok =>
    ⟨(TemplateDir.findFiles_fresh hreg hdir hbase hother extensions).trans (prepared_found hreg hbase hfresh hprepare hok),
      fun _ _ _ hs => hs⟩) j

variable (h : (r.render templates out data).on w = (.ok report, v))

include h

theorem render_same_root (hspelled : base <+: out.named → out.startsWith templates = true) (j : Journal) :
    ∃ u, (r.render templates out data).on ⟨v.files, j⟩ = (.ok report, u) ∧ ∀ l, u.files.at? l = v.files.at? l := by
  obtain ⟨p, u₀, plan, hprepare, hplanned, hsound⟩ := render_planned hreg hfresh h
  have hdir := (prepare_ok hprepare).1.isDir
  have halters := render_alters_below hreg.sound (fun l _ => hreg.linkFree.below l)
    (leads_named hreg.linkFree hfresh.straight.absolute hfresh.straight.names) h
  -- what the first run has written is not found, and the rest is found as before
  obtain ⟨k, hagain⟩ := prepare_carries out hprepare (isDir_grows halters.grows hdir) (fun extensions files hok => by
    have hfound := prepared_found hreg hbase hfresh hprepare hok
    refine ⟨?_, fun f hf s hs => TemplateDir.readText_outputs hreg hdir hbase hfresh halters hfound hf hs⟩
    rw [TemplateDir.findFiles_outputs hreg hdir hbase hfresh halters hspelled hsound, hfound]) j
  obtain ⟨report', u, hrun, hview, hcommands, hfiles⟩ := render_of_plans hagain hfresh.straight hfresh.named_ne_nil
    (hreg.linkFree.grows halters.grows) hplanned.plans hplanned.usable (hplanned.lays.again hplanned.distinct)
  have hsame : report'.files = report.files :=
    (List.map_inj_right fun _ _ => Except.ok.inj).mp (hfiles.symm.trans hplanned.files)
  have hreport : report' = report := by
    obtain ⟨commands', files'⟩ := report'
    obtain ⟨commands, files⟩ := report
    exact congrArg₂ RenderReport.mk (hcommands.trans hplanned.commands.symm) hsame
  exact ⟨u, hreport ▸ hrun, fun l => congrFun hview l⟩

section Elsewhere

variable {other : Path} (hother : w.files.Fresh other) (j : Journal)

include hother

omit hbase h in
theorem none_below_either (names : List Bytes) :
    w.files.at? (other.named ++ names) = w.files.at? (out.named ++ names) := by
  rw [hreg.none_below hother.vacant, hreg.none_below hfresh.vacant]

theorem render_elsewhere_ok (hroom : Room w.files other) :
    ∃ report' u, (r.render templates other data).on ⟨w.files, j⟩ = (.ok report', u) := by
  obtain ⟨p, u₀, plan, hprepare, hplanned, -⟩ := render_planned hreg hfresh h
  obtain ⟨k, hprepare'⟩ := prepare_elsewhere hreg hbase hfresh hprepare hother j
  obtain ⟨b, hlays, -⟩ := hplanned.lays.elsewhere (none_below_either hreg hfresh hother) fun _ => hroom.above
  have husable (x : List Bytes × Bytes) (hx : x ∈ plan) : Usable (other.join (.ofPieces x.1)) := by
    obtain ⟨_, -, hgoes⟩ := hplanned.plans.goes (List.mem_map_of_mem hx)
    obtain ⟨-, hnames⟩ := (usable_join_iff hgoes.nonempty hgoes.names).mp (hplanned.usable x hx)
    exact (usable_join_iff hgoes.nonempty hgoes.names).mpr ⟨hroom.toUsable, hnames⟩
  obtain ⟨report', u, hrun, -⟩ := render_of_plans hprepare' hother.straight hother.named_ne_nil hreg.linkFree
    hplanned.plans husable hlays
  exact ⟨report', u, hrun⟩

theorem render_elsewhere_same {report' : RenderReport} {u : World}
    (hrun : (r.render templates other data).on ⟨w.files, j⟩ = (.ok report', u)) : report'.commands = report.commands ∧
      ∀ names, u.files.at? (other.named ++ names) = v.files.at? (out.named ++ names) := by
  obtain ⟨p, u₀, plan, hprepare, hplanned, -⟩ := render_planned hreg hfresh h
  obtain ⟨p', u', plan', hprepare', hplanned', -⟩ := render_planned (w := ⟨w.files, j⟩) hreg hother hrun
  obtain ⟨k, hprepare''⟩ := prepare_elsewhere hreg hbase hfresh hprepare hother j
  rw [hprepare''] at hprepare'
  cases hprepare'
  obtain rfl := hplanned.plans.unique hplanned'.plans
  refine ⟨hplanned'.commands.trans hplanned.commands.symm, ?_⟩
  obtain ⟨b, hlays, hsame⟩ := hplanned.lays.elsewhere (none_below_either hreg hfresh hother)
    fun hne k => hplanned'.lays.above hne
  rw [hplanned'.lays.unique hlays]
  exact hsame

end Elsewhere

end Again

/-- A run that goes well goes well once more into the same output root, with the same report, and leaves everything as
it is; this needs an output root among the templates to be spelled from the template root on. Into any other output
root that can be made it goes well too, and whenever it does, with the same commands and the same tree of outputs. -/
theorem render_again (hreg : w.files.Regular) {base : Location} (hbase : w.files.Leads templates base)
    (hfresh : w.files.Fresh out) (hspelled : base <+: out.named → out.startsWith templates = true)
    (h : (r.render templates out data).on w = (.ok report, v)) :
    (∀ j, ∃ u, (r.render templates out data).on ⟨v.files, j⟩ = (.ok report, u) ∧
        ∀ l, u.files.at? l = v.files.at? l) ∧
      ∀ other, w.files.Fresh other →
        (Room w.files other → ∀ j, ∃ report' u, (r.render templates other data).on ⟨w.files, j⟩ = (.ok report', u)) ∧
          ∀ j report' u, (r.render templates other data).on ⟨w.files, j⟩ = (.ok report', u) →
            report'.commands = report.commands ∧
              ∀ names, u.files.at? (other.named ++ names) = v.files.at? (out.named ++ names) :=
  ⟨render_same_root hreg hbase hfresh h hspelled, fun _ hother =>
    ⟨fun hroom j => render_elsewhere_ok hreg hbase hfresh h hother j hroom,
      fun j _ _ => render_elsewhere_same hreg hbase hfresh h hother j⟩⟩

end Render

instance (p : Path) : Decidable (Usable p) :=
  decidable_of_iff (0 ∉ p.bytes ∧ ∀ n ∈ p.named, n ≠ [Path.dot] ∧ n ≠ [Path.dot, Path.dot] ∧ n.length ≤ maxName)
    ⟨fun ⟨hzero, hplain⟩ => ⟨hzero, fun n hn => ⟨(hplain n hn).1, (hplain n hn).2.1, (hplain n hn).2.2⟩⟩,
      fun ⟨hzero, hplain⟩ => ⟨hzero, fun n hn => ⟨(hplain n hn).notDot, (hplain n hn).notParent, (hplain n hn).short⟩⟩⟩

instance (fs : FileSystem) (p : Path) : Decidable (fs.Fresh p) :=
  decidable_of_iff (p.Straight ∧ fs.at? p.named = none) ⟨fun ⟨h1, h2⟩ => ⟨h1, h2⟩, fun ⟨h1, h2⟩ => ⟨h1, h2⟩⟩

theorem regular_of_all {fs : FileSystem} (hs : fs.Sound) (hlinks : fs.entries.all (fun x => !x.2.isLink) = true)
    (hconnected : ∀ x ∈ fs.entries, fs.at? x.1.dropLast = some .directory) : fs.Regular :=
  ⟨hs, linkFree_of_all hlinks [], hconnected⟩

/-- A run into an output root among the templates. -/
def withinRun (w : World) : Except Error RenderReport × World :=
  ((ofOptions .default).render (.ofString "/t") (.ofString "/t/gen") nestedData).on w

set_option maxRecDepth 100000 in
theorem withinRun_gives : gives (withinRun nested) [.ofString "/t/gen/a", .ofString "/t/gen/s/a.tmpl"] = true := by
  decide +kernel

/-- What `render_again` says of templates one of which is rendered into a template. -/
theorem nested_again : ∃ report v, withinRun nested = (.ok report, v) ∧
    report.files = [.ofString "/t/gen/a", .ofString "/t/gen/s/a.tmpl"] ∧
      (∃ u, withinRun v = (.ok report, u) ∧ ∀ l, u.files.at? l = v.files.at? l) ∧
      ∃ report' u, ((ofOptions .default).render (.ofString "/t") (.ofString "/p") nestedData).on nested = (.ok report', u) ∧
        ∀ names, u.files.at? ([Utf8.encode "p"] ++ names) = v.files.at? ([Utf8.encode "t", Utf8.encode "gen"] ++ names) := by
  have hgives := withinRun_gives
  rcases hrun : withinRun nested with ⟨e | report, v⟩
  · simp [hrun, gives] at hgives
  · simp only [hrun, gives, beq_iff_eq] at hgives
    have hresolve : nested.files.resolve (.ofString "/t") true = .ok (.present [Utf8.encode "t"] .directory) := rfl
    have hroot : nested.files.Leads (.ofString "/t") [Utf8.encode "t"] :=
      leads_of_resolve hresolve (by simp)
    have hother : nested.files.Fresh (.ofString "/p") := by decide
    have hroom : Room nested.files (.ofString "/p") := by
      refine ⟨by decide, fun k hk hne => ?_⟩
      have hnamed : (Path.ofString "/p").named = [Utf8.encode "p"] := by decide
      rw [hnamed] at hk hne
      rcases List.prefix_cons_iff.mp hk with rfl | ⟨k, rfl, hrest⟩
      · exact .inr rfl
      · exact absurd (congrArg _ (List.prefix_nil.mp hrest)) hne
    obtain ⟨hagain, hothers⟩ := render_again
      (regular_of_all (by decide) (by decide) (by decide)) hroot (by decide)
      (fun _ => by decide) hrun
    obtain ⟨hsucceeds, hsame⟩ := hothers _ hother
    obtain ⟨report', u, hrun'⟩ := hsucceeds hroom nested.journal
    exact ⟨report, v, rfl, hgives, hagain v.journal, report', u, hrun', (hsame _ _ _ hrun').2⟩

/-- A template that is rendered into a template, and a directory to go through. -/
def climbing : World := .ofTexts [["t"], ["t", "x"]] [(["t", "a.tmpl.tmpl"], "A")]

/-- A run whose templates are looked for by a path with a step up in it. -/
def climbingRun (w : World) : Except Error RenderReport × World :=
  ((ofOptions .default).render (.ofString "/t/x/..") (.ofString "/t/gen") (.object [])).on w

/-- Whether two runs go well one after the other and give these outputs, the last of them only in the second run. -/
def adds (run : World → Except Error RenderReport × World) (w : World) (files : List Path) (last : Path) : Bool :=
  match run w with
  | (.error _, _) => false
  | (.ok report, v) =>
    report.files == files && v.files.readBytes last == .error .notFound && gives (run v) (files ++ [last])

set_option maxRecDepth 100000 in
theorem climbing_adds : adds climbingRun climbing [.ofString "/t/gen/a.tmpl"] (.ofString "/t/gen/gen/a") = true := by
  decide +kernel

/-- A second run finds a template among the outputs of the first when the template root is not spelled like the output
root in it, and adds a file. -/
theorem climbing_renders_again : ∃ report v report' u,
    climbing.files.Regular ∧ climbing.files.Leads (.ofString "/t/x/..") [Utf8.encode "t"] ∧
      climbing.files.Fresh (.ofString "/t/gen") ∧
      (Path.ofString "/t/gen").named = [Utf8.encode "t"] ++ [Utf8.encode "gen"] ∧
      climbingRun climbing = (.ok report, v) ∧ climbingRun v = (.ok report', u) ∧ report' ≠ report ∧
      v.files.readBytes (.ofString "/t/gen/gen/a") = .error .notFound ∧
      .ofString "/t/gen/gen/a" ∈ report'.files := by
  have hadds := climbing_adds
  rcases hrun : climbingRun climbing with ⟨e | report, v⟩
  · simp [hrun, adds] at hadds
  rcases hagain : climbingRun v with ⟨e | report', u⟩
  · simp [hrun, hagain, adds, gives] at hadds
  simp only [hrun, hagain, adds, gives, Bool.and_eq_true, beq_iff_eq] at hadds
  obtain ⟨⟨hfiles, hvacant⟩, hfiles'⟩ := hadds
  have hresolve : climbing.files.resolve (.ofString "/t/x/..") true =
      .ok (.present [Utf8.encode "t"] .directory) := rfl
  refine ⟨report, v, report', u, regular_of_all (by decide) (by decide) (by decide),
    leads_of_resolve hresolve (by simp), by decide, by decide, rfl, hagain, ?_, hvacant, ?_⟩
  · rintro rfl
    simp [hfiles] at hfiles'
  · simp [hfiles']

end Renderer
end ApiStencil
