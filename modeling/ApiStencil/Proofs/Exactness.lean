import ApiStencil.Proofs.Preparing
import ApiStencil.Proofs.TemplateNames
/-!
What a run that goes well leaves behind: one output for each template, holding what that template renders,
and no other file made or changed.
-/
set_option autoImplicit false

namespace ApiStencil

open FileSystem

/-- Every template file that is found goes by a path that is a text. -/
def TemplateDir.NamesTexts (dir : TemplateDir) (fs : FileSystem) (ext : String) : Prop :=
  ∀ files, dir.findFiles fs [ext] = .ok files → ∀ f ∈ files, ∀ rel, dir.relative f = .ok rel →
    (Utf8.decode? rel.bytes).isSome

/-- Whether the paths of all template files are texts. -/
def TemplateDir.namesTexts (dir : TemplateDir) (fs : FileSystem) (ext : String) : Bool :=
  match dir.findFiles fs [ext] with
  | .error _ => true
  | .ok files => files.all fun f =>
    match dir.relative f with
    | .error _ => true
    | .ok rel => (Utf8.decode? rel.bytes).isSome

theorem TemplateDir.namesTexts_iff {dir : TemplateDir} {fs : FileSystem} {ext : String} :
    dir.namesTexts fs ext = true ↔ dir.NamesTexts fs ext := by
  unfold TemplateDir.namesTexts TemplateDir.NamesTexts
  cases dir.findFiles fs [ext] with
  | error e => simp
  | ok files =>
    simp only [List.all_eq_true, Except.ok.injEq, forall_eq']
    refine forall₂_congr fun f _ => ?_
    cases dir.relative f with
    | error e => simp
    | ok rel => simp

instance (dir : TemplateDir) (fs : FileSystem) (ext : String) : Decidable (dir.NamesTexts fs ext) :=
  decidable_of_iff _ TemplateDir.namesTexts_iff

namespace Renderer

theorem write_ok {r : Renderer} {p : Prepared} {out : Path} {data : Json} {w v : World} {report : RenderReport}
    (h : (r.write p out data).on w = (.ok report, v)) :
    report.commands = p.table.names ∧ ∃ host u,
      (renderFiles r p out (context data) p.templates p.host).on w = (.ok (report.files, host), u) ∧
        v.files = u.files := by
  obtain ⟨⟨files, host⟩, u, hfiles, hend⟩ := Run.bind_on_eq_ok h
  rw [Run.bind_on_ok (Run.tell_on u _ _)] at hend
  cases hend
  exact ⟨rfl, host, u, hfiles, rfl⟩

theorem renderFiles_targets {r : Renderer} {p : Prepared} {out : Path} {context : List (String × Json)}
    {xs : List (Path × Template)} {host host' : Script.Host} {targets : List Path} {w v : World}
    (h : (renderFiles r p out context xs host).on w = (.ok (targets, host'), v)) :
    xs.map (fun x => Path.outputOf p.dir.root x.1 out r.options.templateExtension) = targets.map .ok := by
  induction xs generalizing host w targets with
  | nil =>
    rw [renderFiles, Run.pure_on] at h
    cases h
    rfl
  | cons x xs ih =>
    obtain ⟨file, t⟩ := x
    obtain ⟨q, mid, u, behind, hq, -, hrest, rfl⟩ := renderFiles_cons_ok h
    rw [List.map_cons, List.map_cons, ih hrest, hq]

/-- No two templates are rendered into the same file. -/
theorem outputOf_inj {root out q : Path} {ext : String} {f g : Path} (hf : Found root ext f) (hg : Found root ext g)
    (hfq : Path.outputOf root f out ext = .ok q) (hgq : Path.outputOf root g out ext = .ok q) : f = g := by
  obtain ⟨⟨names, last, hnames, rfl⟩, hmarked⟩ := hf
  obtain ⟨⟨names', last', hnames', rfl⟩, hmarked'⟩ := hg
  obtain ⟨kept, hkept, hslash, rfl, rfl⟩ := Path.outputOf_descend hnames hmarked hfq
  obtain ⟨kept', hkept', hslash', rfl, hsame⟩ := Path.outputOf_descend hnames' hmarked' hgq
  have hparts {ns : List Bytes} {last k : Bytes} (hns : ∀ n ∈ ns ++ [last], Path.IsName n)
      (hk : k ≠ [] ∧ Path.slash ∉ k) : ∀ n ∈ ns ++ [k], n ≠ [] ∧ Path.slash ∉ n :=
    Path.parts_snoc (fun n hn => hns n (List.mem_append_left _ hn)) hk
  have hall := Path.join_ofPieces_inj out (by simp) (by simp) (hparts hnames ⟨hkept, hslash⟩)
    (hparts hnames' ⟨hkept', hslash'⟩) hsame
  obtain ⟨rfl, hlast⟩ := List.append_inj' hall rfl
  rw [List.singleton_inj.mp hlast]

section Prepared

variable {r : Renderer} {p : Prepared} {templates out : Path} {fs : FileSystem} (hfrom : p.From r templates out fs)
  (hs : fs.Sound)

include hfrom hs

theorem Prepared.From.names_nodup
    (htext : ((TemplateDir.mk templates none).excluding out).NamesTexts fs r.options.templateExtension) :
    ((p.templates.map (·.2)).map (·.name)).Nodup := by
  obtain ⟨hnodup, hfound⟩ := hfrom.templates_found hs
  rw [List.Nodup, List.pairwise_map] at hnodup
  rw [List.map_map, List.Nodup, List.pairwise_map]
  refine hnodup.imp_of_mem fun {x y} hx hy hne hsame => hne ?_
  -- a template's name is its path below the root
  have hname (z : Path × Template) (hz : z ∈ p.templates) : ∃ names, z.1 = p.dir.root.descend names ∧
      Utf8.encode z.2.name = (Path.ofPieces names).bytes ∧ names ≠ [] ∧ ∀ n ∈ names, Path.IsName n := by
    obtain ⟨names, last, hnames, hfile⟩ := (hfound z hz).names
    obtain ⟨rel, source, hrel, -, hparse⟩ := hfrom.parsed z hz
    rw [← hfrom.dir] at htext
    have hdecode := htext _ hfrom.found z.1 (List.mem_map_of_mem hz) rel hrel
    rw [TemplateDir.relative, hfile, Path.relativeTo_descend _ (by simp) hnames, Except.ok.injEq] at hrel
    subst hrel
    obtain ⟨s, hs⟩ := Option.isSome_iff_exists.mp hdecode
    refine ⟨names ++ [last], hfile, ?_, by simp, hnames⟩
    rw [Template.parse_name hparse, Path.templateName_of_decode? (by simp) hnames hs, Utf8.encode_of_decode? hs]
  obtain ⟨names, hxfile, hxname, hxne, hxnames⟩ := hname x hx
  obtain ⟨names', hyfile, hyname, hyne, hynames⟩ := hname y hy
  have hbytes : (Path.ofPieces names).bytes = (Path.ofPieces names').bytes := by
    rw [← hxname, ← hyname]
    exact congrArg Utf8.encode hsame
  have hpieces : names = names' := by
    rw [← Path.pieces_ofPieces_names hxne hxnames, ← Path.pieces_ofPieces_names hyne hynames]
    exact congrArg (fun bs => Path.pieces ⟨bs⟩) hbytes
  rw [hxfile, hyfile, hpieces]

/-- Each template is rendered itself, none in its place. -/
theorem Prepared.From.rendering_eq
    (htext : ((TemplateDir.mk templates none).excluding out).NamesTexts fs r.options.templateExtension)
    {x : Path × Template} (hx : x ∈ p.templates) (context : List (String × Json)) :
    p.rendering context x.2 = p.set.render p.table.commands context x.2 := by
  have hget := Template.Set.get?_of_mem (hfrom.names_nodup hs htext) (List.mem_map_of_mem (f := (·.2)) hx)
  rw [← hfrom.set] at hget
  funext stage
  rw [Prepared.rendering, hget]
  rfl

end Prepared

/-- What a run that goes well has done. -/
structure Exact (r : Renderer) (templates out : Path) (data : Json) (p : Prepared) (w u : World)
    (report : RenderReport) (files : FileSystem) : Prop where
  root : p.dir.root = templates
  ascending : report.commands.Pairwise (· < ·)
  commands : ∀ name, name ∈ report.commands ↔ ∃ c ∈ p.registered, c.name = name
  found : p.dir.findFiles w.files [r.options.templateExtension] = .ok (p.templates.map (·.1))
  outputs : p.templates.map (fun x => Path.outputOf p.dir.root x.1 out r.options.templateExtension) =
    report.files.map .ok
  distinct : report.files.Nodup
  /-- A file holds what its own template renders after those before it. -/
  contents : ∀ pre file t post, p.templates = pre ++ (file, t) :: post → ∃ rel source q targets host x,
    p.dir.relative file = .ok rel ∧ w.files.readText file = .ok source ∧
      Template.parse rel.templateName source = .ok t ∧
      Path.outputOf p.dir.root file out r.options.templateExtension = .ok q ∧
      (renderFiles r p out (context data) pre p.host).on u = (.ok (targets, host), x) ∧
      (p.set.render p.table.commands (context data) t (host, x.journal)).fault = none ∧
      files.readBytes q = .ok (Utf8.encode (p.set.render p.table.commands (context data) t (host, x.journal)).text)
  /-- Where no output stands, nothing is new but directories. -/
  others : ∀ l, (∀ q ∈ report.files, ∀ c, files.resolve q true ≠ .ok (.present l (.file c))) →
    files.at? l = w.files.at? l ∨ w.files.at? l = none ∧ files.at? l = some .directory

/-- A run that goes well renders each template into its own file, and touches no other file. -/
theorem render_exact {r : Renderer} {templates out : Path} {data : Json} {w v : World} {report : RenderReport}
    (hs : w.files.Sound) (hfree : w.files.LinkFreeBelow out)
    (htext : ((TemplateDir.mk templates none).excluding out).NamesTexts w.files r.options.templateExtension)
    (h : (r.render templates out data).on w = (.ok report, v)) :
    ∃ p u, (r.prepare templates out).on w = (.ok p, u) ∧ Exact r templates out data p w u report v.files := by
  obtain ⟨p, u, hprepare, hwrite⟩ := Run.bind_on_eq_ok h
  obtain ⟨hfrom, hsame⟩ := prepare_ok hprepare
  obtain ⟨hcommands, host, x, hrun, hfiles⟩ := write_ok hwrite
  obtain ⟨hnodup, hfound⟩ := hfrom.templates_found hs
  have htargets := renderFiles_targets hrun
  rw [← hsame] at hfree hfrom hs htext
  have halters := renderFiles_alters hfree (.refl _) hfound hrun
  rw [← hfiles] at halters
  have hrendered (pre : List (Path × Template)) (file : Path) (t : Template) (post : List (Path × Template))
      (hall : p.templates = pre ++ (file, t) :: post) :
      Rendered r p out (context data) p.host u pre file t v.files := by
    rw [hall] at hrun hfound hnodup
    rw [List.map_append, List.map_cons] at hnodup
    have hpost := (List.nodup_cons.mp (List.nodup_append.mp hnodup).2.1).1
    have hend : AddsDirs x.files v.files := by
      rw [hfiles]
      exact .refl _ _
    exact rendered_of_ok hfree (.refl _) hfound hpost hrun hend fun _ _ h => h
  refine ⟨p, u, hprepare, hfrom.root, ?_, ?_, ?_, htargets, ?_, ?_, ?_⟩
  · rw [hcommands]
    exact hfrom.lists.ascending
  · rw [hcommands]
    exact hfrom.lists.names
  · rw [← hsame]
    exact hfrom.found
  · have hdistinct : (report.files.map (Except.ok (ε := Error))).Nodup := by
      rw [← htargets, List.Nodup, List.pairwise_map]
      rw [List.Nodup, List.pairwise_map] at hnodup
      refine hnodup.imp_of_mem fun {x y} hx hy hne he => hne ?_
      have hmem := List.mem_map_of_mem (f := fun x => Path.outputOf p.dir.root x.1 out r.options.templateExtension) hx
      rw [htargets] at hmem
      obtain ⟨q, -, hq⟩ := List.mem_map.mp hmem
      exact outputOf_inj (hfound x hx) (hfound y hy) hq.symm (he.symm.trans hq.symm)
    rw [List.Nodup, List.pairwise_map] at hdistinct
    exact hdistinct.imp fun hne he => hne (by rw [he])
  · intro pre file t post hall
    have hmem : (file, t) ∈ p.templates := by simp [hall]
    obtain ⟨targets, mid, x, q, hpre, hq, hfault, hread⟩ := hrendered pre file t post hall
    obtain ⟨rel, source, hrel, hsource, hparse⟩ := hfrom.parsed _ hmem
    rw [hfrom.rendering_eq hs htext hmem] at hfault hread
    rw [hsame] at hsource
    exact ⟨rel, source, q, targets, mid, x, hrel, hsource, hparse, hq, hpre, hfault, hread⟩
  · intro l hl
    rw [← hsame]
    refine halters.elsewhere ?_
    rintro ⟨⟨file, t⟩, hmem, hsite⟩
    obtain ⟨pre, post, hall⟩ := List.append_of_mem hmem
    obtain ⟨_, _, _, q, -, hq, -, hread⟩ := hrendered pre file t post hall
    obtain ⟨l', hl'⟩ := readBytes_iff.mp hread
    have hsite' := site_of_place halters.grows hfree (hfound _ hmem) hq hl' rfl
    have hq' : q ∈ report.files := by
      have hin := List.mem_map_of_mem (f := fun x => Path.outputOf p.dir.root x.1 out r.options.templateExtension) hmem
      rw [htargets, hq] at hin
      simpa using hin
    rw [hsite.location_unique hsite'] at hl
    exact hl q hq' _ hl'

/-- Templates in two directories, and a file that is none. -/
def nested : World :=
  .ofTexts [["t"], ["t", "s"]]
    [(["t", "a.tmpl"], "A \x7b\x7b n \x7d\x7d"), (["t", "s", "a.tmpl.tmpl"], "B"), (["t", "b"], "C")]

def nestedData : Json := .object [("n", .string "1")]

/-- Whether a run goes well and gives these outputs. -/
def gives (run : Except Error RenderReport × World) (files : List Path) : Bool :=
  match run.1 with
  | .ok report => report.files == files
  | .error _ => false

set_option maxRecDepth 100000 in
theorem nested_gives :
    gives (((ofOptions .default).render (.ofString "/t") (.ofString "/o") nestedData).on nested) [.ofString "/o/a", .ofString "/o/s/a.tmpl"] =
      true := by
  decide +kernel

/-- What `render_exact` says of such a run. -/
theorem nested_exact : ∃ report v p u, ((ofOptions .default).render (.ofString "/t") (.ofString "/o") nestedData).on nested = (.ok report, v) ∧
    report.files = [.ofString "/o/a", .ofString "/o/s/a.tmpl"] ∧
      ((ofOptions .default).prepare (.ofString "/t") (.ofString "/o")).on nested = (.ok p, u) ∧
      Exact (ofOptions .default) (.ofString "/t") (.ofString "/o") nestedData p nested u report v.files := by
  have hgives := nested_gives
  rcases hrun : ((ofOptions .default).render (.ofString "/t") (.ofString "/o") nestedData).on nested with ⟨e | report, v⟩
  · simp [hrun, gives] at hgives
  · simp only [hrun, gives, beq_iff_eq] at hgives
    obtain ⟨p, u, hprepare, hexact⟩ :=
      render_exact (by decide) (linkFreeBelow_of_all (by decide) _) (by decide) hrun
    exact ⟨report, v, p, u, rfl, hgives, hprepare, hexact⟩

end Renderer
end ApiStencil
