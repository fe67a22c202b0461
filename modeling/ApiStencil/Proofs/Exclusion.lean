import ApiStencil.Proofs.Preparing
import ApiStencil.Proofs.Standing
/-!
What is left out of a directory that outputs are written into. Paths are compared as they are spelled, so
the outputs below the root are left out exactly when their path is that of the root with the names that
lead down to them; spelled in any other way they are found again.
-/
set_option autoImplicit false

namespace ApiStencil

open FileSystem

theorem FileSystem.Rooted.append {fs : FileSystem} {l : Location} {names : List Bytes} (h : fs.Rooted l)
    (hn : ∀ k, k <+: names → fs.at? (l ++ k) = some .directory) : fs.Rooted (l ++ names) := by
  intro k hk
  rcases List.prefix_or_prefix_of_prefix hk (List.prefix_append l names) with hk' | ⟨m, rfl⟩
  · exact h k hk'
  · exact hn m ((List.prefix_append_right_inj l).mp hk)

namespace TemplateDir

/-- A file with one of the extensions stands at a location, with directories above it. -/
structure Marked (fs : FileSystem) (extensions : List String) (l : Location) : Prop where
  file : ∃ c, fs.at? l = some (.file c)
  within : fs.Rooted l.dropLast
  named : ∃ name, l.getLast? = some name ∧ hasExtension extensions ⟨name⟩ = true

theorem root_excluding (root out : Path) : ((TemplateDir.mk root none).excluding out).root = root := by
  unfold excluding
  split <;> rfl

/-- A path below the root is left out exactly when it is spelled like the path of the outputs. -/
theorem skips_descend_iff {root out : Path} {names : List Bytes} (h : ∀ n ∈ names, Path.IsName n) :
    ((TemplateDir.mk root none).excluding out).skips (root.descend names) = true ↔
      names ≠ [] ∧ out.components = root.components ++ names.map .name := by
  have hcomponents := Path.components_descend root h
  unfold excluding skips
  split
  · rename_i hbelow
    simp only [Bool.and_eq_true, Bool.not_eq_eq_eq_not, Bool.not_true, Path.same, beq_eq_false_iff_ne] at hbelow
    simp only [Option.any_some, Path.same, beq_iff_eq, hcomponents]
    refine ⟨fun he => ⟨?_, he.symm⟩, fun he => he.2.symm⟩
    rintro rfl
    exact hbelow.2 (by simpa using he.symm)
  · rename_i hnot
    simp only [Option.any_none, Bool.false_eq_true, false_iff, not_and]
    intro hne he
    refine hnot ?_
    simp [Path.startsWith, Path.same, he, hne]

theorem hasExtension_descend (extensions : List String) (root : Path) {names : List Bytes} {last : Bytes}
    (h : ∀ n ∈ names ++ [last], Path.IsName n) :
    hasExtension extensions (root.descend (names ++ [last])) = hasExtension extensions ⟨last⟩ := by
  have halone := Path.fileName?_of_name (h last (by simp))
  simp only [hasExtension, Path.extensionText?, Path.extension?, Path.fileName?_descend root h, halone]

section Locations

variable {fs : FileSystem} {dir : TemplateDir} {extensions : List String} {base : Location} {names : List Bytes}

theorem Stands.marked_location {f : Path} (h : dir.Stands fs extensions f base names) (hrooted : fs.Rooted base)
    (hne : names ≠ []) : Marked fs extensions (base ++ names) := by
  rcases List.eq_nil_or_concat names with rfl | ⟨front, last, rfl⟩
  · exact absurd rfl hne
  · rw [List.concat_eq_append] at h ⊢
    refine ⟨h.file, ?_, last, by simp, ?_⟩
    · rw [List.dropLast_append_of_ne_nil (by simp), List.dropLast_concat]
      exact hrooted.append fun k hk => h.within k (hk.trans (List.prefix_append _ _)) fun he => by
        rw [he] at hk
        exact absurd hk.length_le (by simp)
    · rw [← hasExtension_descend extensions dir.root h.proper, ← h.path]
      exact h.marked

theorem Marked.proper (hs : fs.Sound) (h : Marked fs extensions (base ++ names)) (hne : names ≠ []) :
    ∀ n ∈ names, Path.IsName n := by
  obtain ⟨c, hc⟩ := h.file
  rw [at?_of_ne_nil fs (by simp [hne])] at hc
  exact fun n hn => hs.names _ (mem_of_lookup hc) n (List.mem_append_right _ hn)

theorem Marked.directories (h : Marked fs extensions (base ++ names)) {k : List Bytes} (hk : k <+: names)
    (hne : k ≠ names) : fs.at? (base ++ k) = some .directory := by
  rcases List.eq_nil_or_concat names with rfl | ⟨front, last, rfl⟩
  · exact absurd (List.prefix_nil.mp hk) hne
  · rw [List.concat_eq_append] at hk hne h
    have hfront := (List.prefix_concat_iff.mp hk).resolve_left hne
    have hwithin := h.within
    rw [List.dropLast_append_of_ne_nil (by simp), List.dropLast_concat] at hwithin
    exact hwithin _ ((List.prefix_append_right_inj base).mpr hfront)

/-- What stands below the root at such a location is found, unless it is left out. -/
theorem Marked.stands (hs : fs.Sound) (hbase : fs.Leads dir.root base) (h : Marked fs extensions (base ++ names))
    (hne : names ≠ []) (hkept : ∀ k, k <+: names → dir.skips (dir.root.descend k) = false) :
    dir.Stands fs extensions (dir.root.descend names) base names := by
  have hproper := h.proper hs hne
  have hdirs {k : List Bytes} (hk : k <+: names) (hk' : k ≠ names) := h.directories hk hk'
  refine ⟨hbase, rfl, hproper, ?_, h.file, fun k hk hk' => hdirs hk hk', hkept, ?_⟩
  · exact hbase.below hproper fun k _ hk => no_link_within h.file (fun k hk hk' => hdirs hk hk') hk
  · obtain ⟨name, hname, hmarked⟩ := h.named
    rcases List.eq_nil_or_concat names with rfl | ⟨front, last, rfl⟩
    · exact absurd rfl hne
    · rw [List.concat_eq_append] at hname hproper ⊢
      rw [hasExtension_descend extensions dir.root hproper]
      obtain rfl : last = name := by simpa using hname
      exact hmarked

end Locations

section LeftOut

variable {fs : FileSystem} (hs : fs.Sound) {root out : Path} {base : Location} {names : List Bytes}
  (hroot : fs.isDir root = true) (hbase : fs.Leads root base) (hout : fs.Leads out (base ++ names)) (hne : names ≠ [])

include hroot hbase in
theorem resolve_root : fs.resolve root true = .ok (.present base .directory) ∧ fs.Rooted base := by
  obtain ⟨l, hl⟩ := isDir_iff.mp hroot
  obtain rfl := (leads_of_resolve hl (by simp)).unique hbase
  exact ⟨hl, (resolve_iff.mp hl).2.2.rooted fs.rooted_nil⟩

include hbase hout in
/-- The outputs are spelled as names below the root in one way at most. -/
theorem eq_of_spelled {k : List Bytes} (hk : ∀ n ∈ k, Path.IsName n)
    (hno : ∀ m, m ≠ [] → m <+: k → ∀ t, fs.at? (base ++ m) ≠ some (.link t))
    (hspelled : out.components = root.components ++ k.map .name) : k = names := by
  have hsame : out.same (root.descend k) = true := by
    rw [Path.same, Path.components_descend root hk, hspelled, beq_self_eq_true]
  exact List.append_cancel_left (((hbase.below hk hno).of_same hsame).unique hout)

include hs hroot hbase hout hne

/-- Of the files among the outputs those with one of the extensions are found, or none of them. -/
theorem found_among_outputs_iff (extensions : List String) :
    ∃ found, ((TemplateDir.mk root none).excluding out).findFiles fs extensions = .ok found ∧
      ∀ l, base ++ names <+: l → ((∃ f ∈ found, fs.Leads f l) ↔
        Marked fs extensions l ∧ out.components ≠ root.components ++ names.map .name) := by
  obtain ⟨hresolve, hrooted⟩ := resolve_root hroot hbase
  obtain ⟨dir, hdir⟩ : ∃ dir, dir = (TemplateDir.mk root none).excluding out := ⟨_, rfl⟩
  have hsame : dir.root = root := by rw [hdir, root_excluding]
  have hkeeps {k : List Bytes} (hk : ∀ n ∈ k, Path.IsName n) :
      dir.skips (root.descend k) = true ↔ k ≠ [] ∧ out.components = root.components ++ k.map .name := by
    rw [hdir]
    exact skips_descend_iff hk
  rw [← hdir]
  rw [← hsame] at hresolve hkeeps hbase ⊢
  have hskip : dir.skips dir.root = false := by
    have hnot := mt (hkeeps (k := []) (by simp)).mp (by simp)
    simpa [Path.descend] using hnot
  obtain ⟨found, hfound, hmem⟩ := mem_findFiles_iff hs extensions hresolve hskip
  refine ⟨found, hfound, fun l hl => ⟨?_, ?_⟩⟩
  · rintro ⟨f, hf, hleads⟩
    obtain ⟨ns, hstands⟩ := (hmem f).mp hf
    obtain rfl := hleads.unique hstands.leads
    have hpre : names <+: ns := (List.prefix_append_right_inj base).mp hl
    refine ⟨hstands.marked_location hrooted fun he => ?_, fun hspelled => ?_⟩
    · exact hne (List.prefix_nil.mp (he ▸ hpre))
    · have hproper : ∀ n ∈ names, Path.IsName n := fun n hn => hstands.proper n (hpre.subset hn)
      have hkept := hstands.kept names hpre
      rw [(hkeeps hproper).mpr ⟨hne, hspelled⟩] at hkept
      cases hkept
  · rintro ⟨hmarked, hspelled⟩
    obtain ⟨rest, rfl⟩ := hl
    rw [List.append_assoc] at hmarked ⊢
    have hall : names ++ rest ≠ [] := by simp [hne]
    have hstands := hmarked.stands hs hbase hall fun k hk => ?_
    · exact ⟨_, (hmem _).mpr ⟨_, hstands⟩, hstands.leads⟩
    · -- what is left out on the way would be where the outputs are
      have hproper : ∀ n ∈ k, Path.IsName n := fun n hn => hmarked.proper hs hall n (hk.subset hn)
      rw [Bool.eq_false_iff]
      intro hskip
      have hspelled' := ((hkeeps hproper).mp hskip).2
      have hno (m : List Bytes) (hm : m <+: k) :=
        no_link_within hmarked.file (fun _ hk hk' => hmarked.directories hk hk') (hm.trans hk)
      obtain rfl := eq_of_spelled hbase hout hproper (fun m _ hm => hno m hm) hspelled'
      exact hspelled hspelled'

end LeftOut

end TemplateDir

theorem Renderer.openDir_of_isDir {templates : Path} (out : Path) {w : World} (h : w.files.isDir templates = true) :
    (openDir templates out).on w = (.ok ((TemplateDir.mk templates none).excluding out), w) := by
  have hopen : TemplateDir.open? w.files templates = .ok ⟨templates, none⟩ := by rw [TemplateDir.open?, if_pos h]
  rw [openDir, Run.bind_on_ok (Run.files_on w), Run.bind_on, Run.ofExcept_on, hopen]
  rfl

open TemplateDir

namespace Generate

/-- When the outputs of a run go below its templates, those among them that look like templates or scripts
are found by the run exactly if the path of the outputs is not spelled as the path of the templates with
the names that lead down. -/
theorem outputs_found_iff {c : Config} {w v u : World} {input : Input} {dir : TemplateDir} (hs : w.files.Sound)
    (hinput : (Generate.input c).on w = (.ok input, v))
    (hdir : (Renderer.openDir input.templates input.out).on v = (.ok dir, u)) {base : Location} {names : List Bytes}
    (hbase : w.files.Leads input.templates base) (hout : w.files.Leads input.out (base ++ names)) (hne : names ≠ [])
    (extensions : List String) :
    u.files = w.files ∧ ∃ found, dir.findFiles u.files extensions = .ok found ∧
      ∀ l, base ++ names <+: l → ((∃ f ∈ found, w.files.Leads f l) ↔
        Marked w.files extensions l ∧ input.out.components ≠ input.templates.components ++ names.map .name) := by
  have hfirst := (input_reads c).keepsFiles w
  have hsecond := (Renderer.openDir_reads input.templates input.out).keepsFiles v
  rw [hinput] at hfirst
  rw [hdir] at hsecond
  obtain ⟨rfl, hroot⟩ := Renderer.openDir_ok hdir
  have hfiles : u.files = w.files := Eq.trans hsecond hfirst
  rw [show v.files = w.files from hfirst] at hroot
  rw [hfiles]
  exact ⟨rfl, found_among_outputs_iff hs hroot hbase hout hne extensions⟩

/-- Outputs in a directory below the templates, with an old one there that looks like a template. -/
def nestedOutputs : World :=
  .ofTexts [["t"], ["t", "x"], ["t", "gen"]]
    [(["d.json"], "\x7b\"openapi\": \"3.0.0\", \"info\": \x7b\"title\": \"A\", \"version\": \"1\"\x7d, \"paths\": \x7b\x7d\x7d"),
      (["t", "a.tmpl"], "A"), (["t", "gen", "old.tmpl"], "B")]

def rootsOf : Except Error Input → List Path
  | .ok input => [input.templates, input.out]
  | .error _ => []

theorem input_opens {c : Config} {w : World} {templates out : Path}
    (hroots : rootsOf ((input c).on w).1 = [templates, out]) (hroot : w.files.isDir templates = true) :
    ∃ input v u, (Generate.input c).on w = (.ok input, v) ∧ input.templates = templates ∧ input.out = out ∧
      (Renderer.openDir input.templates input.out).on v = (.ok ((TemplateDir.mk templates none).excluding out), u) ∧
      u.files = w.files := by
  have hkeeps := (input_reads c).keepsFiles w
  rcases hinput : (input c).on w with ⟨e | input, v⟩
  · simp [hinput, rootsOf] at hroots
  · rw [hinput] at hroots hkeeps
    simp only [rootsOf, List.cons.injEq, and_true] at hroots
    obtain ⟨rfl, rfl⟩ := hroots
    have hfiles : v.files = w.files := hkeeps
    rw [← hfiles] at hroot
    exact ⟨input, v, v, rfl, rfl, rfl, Renderer.openDir_of_isDir input.out hroot, hfiles⟩

set_option maxRecDepth 100000 in
theorem nestedOutputs_roots (out : String) (h : out = "/t/gen" ∨ out = "/t/x/../gen") :
    rootsOf ((Generate.input (.ofPaths "/d.json" "/t" out)).on nestedOutputs).1 = [.ofString "/t", .ofString out] := by
  rcases h with rfl | rfl <;> decide +kernel

/-- Where the old output stands. -/
def oldOutput : Location := [Utf8.encode "t"] ++ [Utf8.encode "gen"] ++ [Utf8.encode "old.tmpl"]

theorem nestedOutputs_leads : nestedOutputs.files.Leads (.ofString "/t") [Utf8.encode "t"] ∧
    nestedOutputs.files.Leads (.ofString "/t/gen") ([Utf8.encode "t"] ++ [Utf8.encode "gen"]) ∧
      nestedOutputs.files.Leads (.ofString "/t/x/../gen") ([Utf8.encode "t"] ++ [Utf8.encode "gen"]) ∧
        nestedOutputs.files.Leads (.ofString "/t/gen/old.tmpl") oldOutput := by
  have hleads {p : Path} {l : Location} {e : Entry} (h : nestedOutputs.files.resolve p true = .ok (.present l e))
      (hno : ∀ t, e ≠ .link t) : nestedOutputs.files.Leads p l :=
    leads_of_resolve h fun k t he => by
      cases he
      exact hno t rfl
  exact ⟨hleads (e := .directory) rfl (by simp), hleads (e := .directory) rfl (by simp),
    hleads (e := .directory) rfl (by simp), hleads (e := .file (Utf8.encode "B")) rfl (by simp)⟩

/-- A parent step in the path of the outputs is enough for an old output to be found as a template, without
any link. -/
theorem respelled_found : ∃ input v dir u found f,
    (Generate.input (.ofPaths "/d.json" "/t" "/t/x/../gen")).on nestedOutputs = (.ok input, v) ∧
      (Renderer.openDir input.templates input.out).on v = (.ok dir, u) ∧
      nestedOutputs.files.LinkFree [] ∧ nestedOutputs.files.Leads input.templates [Utf8.encode "t"] ∧
      nestedOutputs.files.isDir input.out = true ∧
      nestedOutputs.files.Leads input.out ([Utf8.encode "t"] ++ [Utf8.encode "gen"]) ∧
      dir.findFiles u.files ["tmpl"] = .ok found ∧ f ∈ found ∧
      nestedOutputs.files.Leads f oldOutput := by
  obtain ⟨input, v, u, hinput, htemplates, hout, hdir, hfiles⟩ :=
    input_opens (nestedOutputs_roots "/t/x/../gen" (.inr rfl)) (by decide)
  obtain ⟨hroot, -, hleads, hold⟩ := nestedOutputs_leads
  have hfind : ((TemplateDir.mk (.ofString "/t") none).excluding (.ofString "/t/x/../gen")).findFiles u.files ["tmpl"] =
      .ok [.ofString "/t/a.tmpl", .ofString "/t/gen/old.tmpl"] := by
    rw [hfiles]
    rfl
  refine ⟨input, v, _, u, _, .ofString "/t/gen/old.tmpl", hinput, hdir, ?_, ?_, ?_, ?_, hfind, by simp, hold⟩
  · exact linkFree_of_all (by decide) []
  · rwa [htemplates]
  · rw [hout]
    decide
  · rwa [hout]

/-- What `outputs_found_iff` says when the path of the outputs is spelled like that of the templates. -/
theorem plain_left_out : ∃ input v dir u found,
    (Generate.input (.ofPaths "/d.json" "/t" "/t/gen")).on nestedOutputs = (.ok input, v) ∧
      (Renderer.openDir input.templates input.out).on v = (.ok dir, u) ∧
      dir.findFiles u.files ["tmpl"] = .ok found ∧ ∀ f ∈ found, ¬nestedOutputs.files.Leads f oldOutput := by
  obtain ⟨input, v, u, hinput, htemplates, hout, hdir, -⟩ :=
    input_opens (nestedOutputs_roots "/t/gen" (.inl rfl)) (by decide)
  obtain ⟨hroot, hleads, -, -⟩ := nestedOutputs_leads
  rw [← htemplates] at hroot
  rw [← hout] at hleads
  obtain ⟨-, found, hfound, hiff⟩ :=
    outputs_found_iff (by decide) hinput hdir hroot hleads (by simp) ["tmpl"]
  refine ⟨input, v, _, u, found, hinput, hdir, hfound, fun f hf hold => ?_⟩
  have hspelled := ((hiff oldOutput (List.prefix_append _ _)).mp ⟨f, hf, hold⟩).2
  rw [htemplates, hout] at hspelled
  exact hspelled (by decide)

end Generate
end ApiStencil
