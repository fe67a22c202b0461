import Mathlib.Data.List.Infix
import ApiStencil.Proofs.Exclusion
import ApiStencil.Proofs.Mirroring
/-!
How templates are told from other files. A file is looked for by what stands behind the last dot of its name, and the
marker of a template is taken off as a text that the name ends in, so the two agree unless there is a dot in the
marker itself. A template with such a marker is never found.
-/
set_option autoImplicit false

namespace ApiStencil

namespace Utf8

/-- The encoding of any other character has no byte of a small one. -/
theorem mem_encode_iff {mark : UInt8} (hmark : mark < 0x80) (s : String) :
    mark ∈ encode s ↔ Char.ofNat mark.toNat ∈ s.toList := by
  constructor
  · intro h
    obtain ⟨before, behind, hsplit⟩ := List.append_of_mem h
    have hdecode := decode?_encode s
    rw [hsplit] at hdecode
    obtain ⟨t, u, -, -, hs⟩ := decode?_mark hmark hdecode
    simp [hs]
  · intro h
    refine List.mem_flatMap.mpr ⟨_, h, ?_⟩
    have hitem := (Item.one mark hmark).encode
    simp [hitem]

end Utf8

namespace Path

/-- A name ends in a marker and begins with something else. -/
def Strips (ext name kept : String) : Prop :=
  kept ≠ "" ∧ name.toList = kept.toList ++ '.' :: ext.toList

/-- The extension of a name is what stands behind its last dot, if that is not the first of it. -/
theorem extension?_eq_some_iff {p : Path} {name after : Bytes} (hname : p.fileName? = some name) :
    p.extension? = some after ↔ ∃ before, before ≠ [] ∧ name = before ++ dot :: after ∧ dot ∉ after := by
  constructor
  · intro h
    obtain ⟨before, hne, hsplit⟩ := split_of_extension? hname h
    refine ⟨before, hne, hsplit, ?_⟩
    simp only [extension?, hname] at h
    split at h
    · cases h
    · intro hdot
      rw [← Option.some.inj h, List.mem_reverse] at hdot
      have hnot := List.all_eq_true.mp List.all_takeWhile dot hdot
      simp at hnot
  · rintro ⟨before, hne, rfl, hdot⟩
    have hall : ∀ b ∈ after.reverse, (b != dot) = true := by
      intro b hb
      have : b ≠ dot := by
        rintro rfl
        exact hdot (List.mem_reverse.mp hb)
      simpa using this
    have hafter : ((before ++ dot :: after).reverse.takeWhile (· != dot)).reverse = after := by
      rw [List.reverse_append, List.reverse_cons, List.append_assoc, List.takeWhile_append_of_pos hall]
      simp
    have hlen : ¬(before ++ dot :: after).length - after.length ≤ 1 := by
      have := List.length_pos_iff.mpr hne
      simp only [List.length_append, List.length_cons]
      omega
    simp only [extension?, hname, hafter]
    rw [if_neg hlen]

theorem hasExtension_iff {last : Bytes} {name ext : String} (hlast : IsName last) (hname : Utf8.decode? last = some name) :
    TemplateDir.hasExtension [ext] ⟨last⟩ = true ↔ '.' ∉ ext.toList ∧ ∃ kept, Strips ext name kept := by
  have hfile := fileName?_of_name hlast
  have hmarked : TemplateDir.hasExtension [ext] ⟨last⟩ = true ↔
      ∃ after, (⟨last⟩ : Path).extension? = some after ∧ Utf8.decode? after = some ext := by
    simp [TemplateDir.hasExtension, extensionText?, Option.any_eq_true, Option.bind_eq_some_iff]
  rw [hmarked]
  constructor
  · rintro ⟨after, hafter, hext⟩
    obtain ⟨before, hne, rfl, hdot⟩ := (extension?_eq_some_iff hfile).mp hafter
    obtain ⟨kept, ext', hkept, hext', hsplit⟩ := Utf8.decode?_mark (by decide) hname
    obtain rfl : ext' = ext := Option.some.inj (hext'.symm.trans hext)
    refine ⟨?_, kept, ?_, hsplit⟩
    · rwa [← Utf8.encode_of_decode? hext, Utf8.mem_encode_iff (by decide)] at hdot
    · rintro rfl
      exact hne (Utf8.encode_of_decode? hkept).symm
  · rintro ⟨hdot, kept, hne, hsplit⟩
    have hlast' : last = Utf8.encode kept ++ dot :: Utf8.encode ext := by
      rw [← Utf8.encode_of_decode? hname, Utf8.encode, hsplit, List.flatMap_append]
      rfl
    have hbefore : Utf8.encode kept ≠ [] := encode_ne_nil (by simpa using hne)
    refine ⟨Utf8.encode ext, (extension?_eq_some_iff hfile).mpr ⟨_, hbefore, hlast', ?_⟩, Utf8.decode?_encode ext⟩
    rwa [Utf8.mem_encode_iff (by decide)]

/-- What the marker is taken off from, with a name left. -/
theorem strips_iff {root out : Path} {names : List Bytes} {last : Bytes} {name ext : String}
    (h : ∀ n ∈ names ++ [last], IsName n) (hname : Utf8.decode? last = some name) (kept : String) :
    Strips ext name kept ↔ withoutMarker name ext = kept ∧ kept ≠ name ∧
      outputOf root (root.descend (names ++ [last])) out ext = .ok (out.join (ofPieces (names ++ [Utf8.encode kept]))) := by
  have hlast := h last (by simp)
  have hfile : (ofPieces (names ++ [last])).fileName? = some last := by
    simp [fileName?, components_ofPieces (by simp) h]
  have hout : outputOf root (root.descend (names ++ [last])) out ext =
      if (withoutMarker name ext).isEmpty then
        .error (.template s!"Template {(root.descend (names ++ [last])).display} has no output file name")
      else .ok (out.join ((ofPieces (names ++ [last])).withFileName (Utf8.encode (withoutMarker name ext)))) := by
    simp only [outputOf, relativeTo_descend root (by simp) h, hfile, Option.bind_some, hname]
  constructor
  · rintro ⟨hne, hsplit⟩
    have hkept : withoutMarker name ext = kept := withoutMarker_of_marked hsplit
    have hslash : slash ∉ Utf8.encode kept := by
      refine Unmarked.slash_notMem (.inl hsplit) ?_
      rw [Utf8.encode_of_decode? hname]
      exact hlast.noSlash
    refine ⟨hkept, ?_, ?_⟩
    · rintro rfl
      have hlen := congrArg List.length hsplit
      rw [List.length_append, List.length_cons] at hlen
      omega
    · rw [hout, hkept, if_neg (by simpa using hne),
        withFileName_ofPieces (fun n hn => h n (List.mem_append_left _ hn)) hlast hslash]
  · rintro ⟨hkept, hne, hok⟩
    refine ⟨?_, ?_⟩
    · rintro rfl
      rw [hout, hkept] at hok
      cases hok
    · rcases unmarked_withoutMarker name ext with hsplit | ⟨-, hsame⟩
      · rwa [hkept] at hsplit
      · exact absurd (hkept.symm.trans hsame) hne

end Path

namespace TemplateDir

/-- A file below the root, with nothing on the way that is left out. -/
structure Holds (dir : TemplateDir) (fs : FileSystem) (f : Path) (base : Location) (names : List Bytes) : Prop where
  rootLeads : fs.Leads dir.root base
  path : f = dir.root.descend names
  proper : ∀ n ∈ names, Path.IsName n
  file : ∃ c, fs.at? (base ++ names) = some (.file c)
  within : ∀ k, k <+: names → k ≠ names → fs.at? (base ++ k) = some .directory
  kept : ∀ k, k <+: names → dir.skips (dir.root.descend k) = false

theorem Holds.stands_iff {dir : TemplateDir} {fs : FileSystem} {f : Path} {base : Location} {names : List Bytes}
    (h : dir.Holds fs f base names) (extensions : List String) :
    dir.Stands fs extensions f base names ↔ hasExtension extensions f = true := by
  refine ⟨fun hstands => hstands.marked, fun hmarked => ⟨h.rootLeads, h.path, h.proper, ?_, h.file, h.within, h.kept, hmarked⟩⟩
  rw [h.path]
  exact h.rootLeads.below h.proper fun k _ hk => FileSystem.no_link_within h.file h.within hk

/-- A file is found by its extension just when its name ends in the marker and is longer, which is when its output goes
by the name without the marker, unless the marker holds a dot: then the file is not found, whatever its name is. -/
theorem found_iff_strips {fs : FileSystem} (hs : fs.Sound) {dir : TemplateDir} {f : Path} {base : Location}
    {names : List Bytes} {last : Bytes} {name : String} (hroot : fs.isDir dir.root = true)
    (h : dir.Holds fs f base (names ++ [last])) (hname : Utf8.decode? last = some name) (ext : String) (out : Path) :
    ∃ found, dir.findFiles fs [ext] = .ok found ∧
      (f ∈ found ↔ '.' ∉ ext.toList ∧ ∃ kept, Path.Strips ext name kept) ∧
      ∀ kept, Path.Strips ext name kept ↔ Path.withoutMarker name ext = kept ∧ kept ≠ name ∧
        Path.outputOf dir.root f out ext = .ok (out.join (.ofPieces (names ++ [Utf8.encode kept]))) := by
  have hskip : dir.skips dir.root = false := h.kept [] List.nil_prefix
  obtain ⟨found, hfound, hmem⟩ := mem_findFiles_iff hs [ext] (resolve_root hroot h.rootLeads).1 hskip
  refine ⟨found, hfound, ?_, ?_⟩
  · have hext := hasExtension_descend [ext] dir.root h.proper
    rw [hmem f, ← Path.hasExtension_iff (h.proper last (by simp)) hname, ← hext, ← h.path]
    constructor
    · rintro ⟨_, hstands⟩
      exact hstands.marked
    · intro hmarked
      exact ⟨_, (h.stands_iff [ext]).mpr hmarked⟩
  · rw [h.path]
    exact Path.strips_iff h.proper hname

/-- Two files below a directory of templates, one of them in another directory. -/
def markedFiles : FileSystem :=
  (World.ofTexts [["t"], ["t", "d"]] [(["t", "a.html.tmpl"], "A"), (["t", "d", ".b.tmpl.tmpl"], "B")]).files

/-- Whether a file stands below the root is told by looking at all directories on the way. -/
theorem Holds.of_inits {dir : TemplateDir} {fs : FileSystem} {f : Path} {base : Location} {names : List Bytes}
    (hroot : fs.resolve dir.root true = .ok (.present base .directory)) (hpath : f = dir.root.descend names)
    (hproper : ∀ n ∈ names, Path.IsName n)
    (hfile : ∃ c, fs.at? (base ++ names) = some (.file c))
    (hwithin : ∀ k ∈ names.inits, k ≠ names → fs.at? (base ++ k) = some .directory)
    (hkept : ∀ k ∈ names.inits, dir.skips (dir.root.descend k) = false) :
    dir.Holds fs f base names :=
  ⟨FileSystem.leads_of_resolve hroot (by simp), hpath, hproper, hfile,
    fun k hk => hwithin k ((List.mem_inits k names).mpr hk), fun k hk => hkept k ((List.mem_inits k names).mpr hk)⟩

/-- A file in an inner directory, whose name begins with a dot and ends in the marker twice. -/
theorem inner_found : ∃ found, (TemplateDir.mk (.ofString "/t") none).findFiles markedFiles ["tmpl"] = .ok found ∧
    (.ofString "/t/d/.b.tmpl.tmpl" ∈ found ↔ '.' ∉ "tmpl".toList ∧ ∃ kept, Path.Strips "tmpl" ".b.tmpl.tmpl" kept) ∧
    ∀ kept, Path.Strips "tmpl" ".b.tmpl.tmpl" kept ↔
      Path.withoutMarker ".b.tmpl.tmpl" "tmpl" = kept ∧ kept ≠ ".b.tmpl.tmpl" ∧
        Path.outputOf (.ofString "/t") (.ofString "/t/d/.b.tmpl.tmpl") (.ofString "/o") "tmpl" =
          .ok ((Path.ofString "/o").join (.ofPieces ([Utf8.encode "d"] ++ [Utf8.encode kept]))) := by
  have h : (TemplateDir.mk (.ofString "/t") none).Holds markedFiles (.ofString "/t/d/.b.tmpl.tmpl") [Utf8.encode "t"]
      ([Utf8.encode "d"] ++ [Utf8.encode ".b.tmpl.tmpl"]) :=
    .of_inits rfl rfl (by decide) ⟨Utf8.encode "B", rfl⟩ (by decide) (by decide)
  exact found_iff_strips (by decide) (by decide) h (Utf8.decode?_encode _) "tmpl" (.ofString "/o")

/-- A marker with a dot in it passes as a setting, and the output of a template goes without it, but the template is
not found. -/
theorem dotted_lost : ∃ c : Config, c.validate = .ok () ∧ c.renderOptions.templateExtension = "html.tmpl" ∧
    (TemplateDir.mk (.ofString "/t") none).Holds markedFiles (.ofString "/t/a.html.tmpl") [Utf8.encode "t"]
      ([] ++ [Utf8.encode "a.html.tmpl"]) ∧
    Path.Strips "html.tmpl" "a.html.tmpl" "a" ∧
    Path.outputOf (.ofString "/t") (.ofString "/t/a.html.tmpl") (.ofString "/o") "html.tmpl" = .ok (.ofString "/o/a") ∧
    (TemplateDir.mk (.ofString "/t") none).findFiles markedFiles ["html.tmpl"] = .ok [] := by
  refine ⟨{ Config.ofPaths "d.json" "t" "o" with templateExtension := ".html.tmpl" }, rfl, rfl, ?_, ?_, rfl, rfl⟩
  · exact .of_inits rfl rfl (by decide) ⟨Utf8.encode "A", rfl⟩ (by decide) (by decide)
  · exact ⟨by decide, rfl⟩

end TemplateDir
end ApiStencil
