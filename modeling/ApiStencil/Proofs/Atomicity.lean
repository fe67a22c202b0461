import ApiStencil.Proofs.Preparing
/-!
What a run that fails leaves behind. Nothing, when it fails before the first output; otherwise the outputs
of the templates before the one that fails, whole, and nothing of those behind it.
-/
set_option autoImplicit false

namespace ApiStencil

open FileSystem Renderer

namespace Generate

/-- All that a run does before the first output. -/
def gather (c : Config) : Run (Input × Prepared) := do
  let input ← input c
  let p ← (Renderer.ofOptions c.renderOptions).prepare input.templates input.out
  return (input, p)

theorem gather_reads (c : Config) : (gather c).Reads :=
  (input_reads c).bind fun _ => (prepare_reads _ _ _).bind fun _ => .pure _

theorem gather_ok {c : Config} {input : Input} {p : Prepared} {w u : World}
    (h : (gather c).on w = (.ok (input, p), u)) :
    p.From (Renderer.ofOptions c.renderOptions) input.templates input.out w.files ∧ u.files = w.files := by
  have hkeeps := (gather_reads c).keepsFiles w
  rw [h] at hkeeps
  refine ⟨?_, hkeeps⟩
  obtain ⟨input', w', hinput, hprepare⟩ := Run.bind_on_eq_ok h
  obtain ⟨p', u', hp, hend⟩ := Run.bind_on_eq_ok hprepare
  rw [Run.pure_on] at hend
  cases hend
  have hfirst := (input_reads c).keepsFiles w
  rw [hinput] at hfirst
  have hfrom := (prepare_ok hp).1
  rwa [show w'.files = w.files from hfirst] at hfrom

end Generate

/-- A run gathers all it needs, and then writes. -/
theorem generate_eq (c : Config) :
    generate c = (do
      let (input, p) ← Generate.gather c
      (Renderer.ofOptions c.renderOptions).write p input.out input.data) := by
  simp [generate, Generate.gather, Renderer.render]

namespace Renderer

theorem write_error {r : Renderer} {p : Prepared} {out : Path} {data : Json} {w v : World} {e : Error}
    (h : (r.write p out data).on w = (.error e, v)) :
    (renderFiles r p out (context data) p.templates p.host).on w = (.error e, v) := by
  rcases Run.bind_on_eq_error h with h | ⟨⟨files, host⟩, u, -, hend⟩
  · exact h
  · rw [Run.bind_on_ok (Run.tell_on u _ _)] at hend
    cases hend

/-- What is left when a template fails: those before it are rendered, and those behind it are untouched. -/
structure LeavesPrefix (r : Renderer) (p : Prepared) (out : Path) (data : Json) (w : World)
    (pre post : List (Path × Template)) (files : FileSystem) : Prop where
  rendered : ∀ before file t behind, pre = before ++ (file, t) :: behind →
    Rendered r p out (context data) p.host w before file t files
  /-- A file at an output of a later template is still there. -/
  kept : ∀ y ∈ post, ∀ q c, Path.outputOf p.dir.root y.1 out r.options.templateExtension = .ok q →
    w.files.readBytes q = .ok c → files.readBytes q = .ok c
  /-- A file at an output of a later template was there before. -/
  notMade : ∀ y ∈ post, ∀ q l c, Path.outputOf p.dir.root y.1 out r.options.templateExtension = .ok q →
    files.resolve q true = .ok (.present l (.file c)) → w.files.at? l = some (.file c)

theorem leavesPrefix_of_fails {r : Renderer} {p : Prepared} {templates out : Path} {data : Json} {w u v : World}
    {pre post : List (Path × Template)} {file : Path} {t : Template} {targets : List Path} {host : Script.Host}
    {e : Error} (hfrom : p.From r templates out w.files) (hs : w.files.Sound) (hfree : w.files.LinkFreeBelow out)
    (hall : p.templates = pre ++ (file, t) :: post)
    (hpre : (renderFiles r p out (context data) pre p.host).on w = (.ok (targets, host), u))
    (hfails : Fails r p out (context data) file t host u e v) : LeavesPrefix r p out data w pre post v.files := by
  obtain ⟨hnodup, hfound⟩ := hfrom.templates_found hs
  rw [hall] at hnodup hfound
  rw [List.map_append, List.map_cons] at hnodup
  obtain ⟨hpreNodup, hrest, hapart⟩ := List.nodup_append.mp hnodup
  have hfoundPre : ∀ x ∈ pre, Found p.dir.root r.options.templateExtension x.1 :=
    fun x hx => hfound x (List.mem_append_left _ hx)
  have hfoundFile := hfound (file, t) (by simp)
  have hpreAlters := renderFiles_alters hfree (.refl _) hfoundPre hpre
  have hfailAlters := hfails.alters hfree hpreAlters.grows hfoundFile
  -- a later output is apart from those before it and from the one that fails
  have hlater (y : Path × Template) (hy : y ∈ post) {l : Location}
      (hl : Site w.files p.dir.root out r.options.templateExtension y.1 l) (c : Bytes) :
      v.files.at? l = some (.file c) ↔ w.files.at? l = some (.file c) := by
    have hmem : y.1 ∈ post.map (·.1) := List.mem_map_of_mem hy
    have hnotFile : ¬Site w.files p.dir.root out r.options.templateExtension file l := by
      intro hsame
      exact (List.nodup_cons.mp hrest).1 (hsame.file_unique hl ▸ hmem)
    have hnotPre : ¬Sites w.files r p out pre l :=
      Sites.notMem hl fun hpreMem => hapart _ hpreMem _ (List.mem_cons_of_mem _ hmem) rfl
    rw [hfailAlters.file_iff hnotFile, hpreAlters.file_iff hnotPre]
  refine ⟨?_, ?_, ?_⟩
  · rintro before file' t' behind rfl
    rw [List.map_append, List.map_cons] at hpreNodup
    have hnotBehind := (List.nodup_cons.mp (List.nodup_append.mp hpreNodup).2.1).1
    refine rendered_of_ok hfree (.refl _) hfoundPre hnotBehind hpre hfailAlters fun l hl hsame => ?_
    exact hapart file' (by simp) file (by simp) (hl.file_unique hsame)
  · intro y hy q c hq hread
    obtain ⟨l, hl⟩ := readBytes_iff.mp hread
    have hsite := site_of_place (.refl _) hfree (hfound y (by simp [hy])) hq hl rfl
    have hat := (hlater y hy hsite c).mpr (at?_of_resolve hl)
    exact readBytes_iff.mpr ⟨l, resolve_grows (hpreAlters.grows.trans hfailAlters.grows) hl rfl (c := some c) hat⟩
  · intro y hy q l c hq hl
    have hgrows := hpreAlters.grows.trans hfailAlters.grows
    have hsite := site_of_place hgrows hfree (hfound y (by simp [hy])) hq hl rfl
    exact (hlater y hy hsite c).mp (at?_of_resolve hl)

end Renderer

/-- A run that fails before the first output changes nothing. One that fails at a template has rendered all
templates before it, and leaves the outputs of those behind it alone, when there are no links below the
output root. -/
theorem generate_atomic {c : Config} {w v : World} {e : Error} (h : (generate c).on w = (.error e, v)) :
    ((Generate.gather c).on w = (.error e, v) ∧ v.files = w.files) ∨
      ∃ input p u, (Generate.gather c).on w = (.ok (input, p), u) ∧ u.files = w.files ∧
        ∃ pre file t post targets host x, p.templates = pre ++ (file, t) :: post ∧
          (renderFiles (.ofOptions c.renderOptions) p input.out (context input.data) pre p.host).on u =
            (.ok (targets, host), x) ∧
          Fails (.ofOptions c.renderOptions) p input.out (context input.data) file t host x e v ∧
          (w.files.Sound → w.files.LinkFreeBelow input.out →
            LeavesPrefix (.ofOptions c.renderOptions) p input.out input.data u pre post v.files) := by
  rw [generate_eq] at h
  rcases Run.bind_on_eq_error h with hgather | ⟨⟨input, p⟩, u, hgather, hwrite⟩
  · have hkeeps := (Generate.gather_reads c).keepsFiles w
    rw [hgather] at hkeeps
    exact .inl ⟨hgather, hkeeps⟩
  · obtain ⟨hfrom, hfiles⟩ := Generate.gather_ok hgather
    obtain ⟨pre, file, t, post, targets, host, x, hall, hpre, hfails⟩ := renderFiles_error (write_error hwrite)
    refine .inr ⟨input, p, u, hgather, hfiles, pre, file, t, post, targets, host, x, hall, hpre, hfails, ?_⟩
    rw [← hfiles] at hfrom ⊢
    intro hs hfree
    exact leavesPrefix_of_fails hfrom hs hfree hall hpre hfails

/-- Three templates, of which the second asks for something that is not in the document. -/
def halting : World :=
  .ofTexts [["t"]] [(["d.json"], "\x7b\"openapi\": \"3.0.0\", \"info\": \x7b\"title\": \"A\", \"version\": \"1\"\x7d, \"paths\": \x7b\x7d\x7d"),
    (["t", "a.tmpl"], "A"), (["t", "b.tmpl"], "\x7b\x7b b \x7d\x7d"), (["t", "c.tmpl"], "C")]

def haltingConfig : Config := .ofPaths "/d.json" "/t" "/o"

/-- Whether a run gathers all it needs and fails then, with a text in one file. -/
def haltsBehind (gathered : Except Error (Generate.Input × Prepared)) (run : Except Error RenderReport × World)
    (q : Path) (text : String) : Bool :=
  match gathered, run with
  | .ok _, (.error _, v) =>
    match v.files.readText q with
    | .ok s => s == text
    | .error _ => false
  | _, _ => false

set_option maxRecDepth 100000 in
theorem halting_halts :
    haltsBehind ((Generate.gather haltingConfig).on halting).1 ((generate haltingConfig).on halting) (.ofString "/o/a")
      "A" = true := by
  decide +kernel

/-- What `generate_atomic` says of such a run. -/
theorem halting_leavesPrefix : ∃ e v input p u pre file t post,
    (generate haltingConfig).on halting = (.error e, v) ∧
      (Generate.gather haltingConfig).on halting = (.ok (input, p), u) ∧ p.templates = pre ++ (file, t) :: post ∧
      v.files.readText (.ofString "/o/a") = .ok "A" ∧
      LeavesPrefix (.ofOptions haltingConfig.renderOptions) p input.out input.data u pre post v.files := by
  have hhalts := halting_halts
  rcases hrun : (generate haltingConfig).on halting with ⟨e | report, v⟩
  · rcases generate_atomic hrun with ⟨hgather, -⟩ | ⟨input, p, u, hgather, -, pre, file, t, post, -, -, -, hall, -, -, hleaves⟩
    · simp [hgather, haltsBehind] at hhalts
    · simp only [hrun, hgather, haltsBehind] at hhalts
      split at hhalts
      · rename_i s hs
        rw [beq_iff_eq] at hhalts
        exact ⟨e, v, input, p, u, pre, file, t, post, rfl, hgather, hall, by rw [hs, hhalts],
          hleaves (by decide) (linkFreeBelow_of_all (by decide) _)⟩
      · cases hhalts
  · simp [hrun, haltsBehind] at hhalts

end ApiStencil
