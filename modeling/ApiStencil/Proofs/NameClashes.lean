import ApiStencil.Proofs.Preparing
import ApiStencil.Proofs.TemplateNames
/-!
Two templates with one name. The name of a template is its path as it reads, and what is no text reads as
replacement characters; so different paths can read alike, and then the last of them is rendered in place
of them all.
-/
set_option autoImplicit false

namespace ApiStencil

namespace Utf8

/-- A slash is read only where one stands. -/
theorem slash_mem_of_scan (fuel : Nat) {bs : Bytes} (h : '/' ∈ (scan.go fuel bs).map fun item => item.1.getD '\ufffd') :
    Path.slash ∈ bs := by
  induction fuel generalizing bs with
  | zero => simp [scan.go] at h
  | succ fuel ih =>
    cases bs with
    | nil => simp [scan.go] at h
    | cons b rest =>
      rcases hi : item b rest with ⟨c, n⟩
      simp only [scan.go, hi, List.map_cons, List.mem_cons] at h
      rcases h with hc | h
      · cases c with
        | none => exact absurd hc (by decide)
        | some c =>
          obtain rfl : '/' = c := hc
          obtain ⟨hitem, -⟩ := item_inv hi
          have hencode : [Path.slash] = b :: rest.take n := hitem.encode
          obtain ⟨rfl, -⟩ := List.cons.inj hencode
          simp
      · exact List.mem_cons_of_mem _ (List.mem_of_mem_drop (ih h))

theorem slash_notMem_lossy {bs : Bytes} (h : Path.slash ∉ bs) : '/' ∉ (lossy bs).toList := by
  intro hmem
  rw [lossy, String.toList_ofList] at hmem
  exact h (slash_mem_of_scan _ hmem)

end Utf8

namespace Path

theorem templateName_ofPieces {names : List Bytes} (hne : names ≠ []) (h : ∀ n ∈ names, IsName n) :
    templateName (ofPieces names) = String.intercalate "/" (names.map Utf8.lossy) := by
  rw [templateName, components_ofPieces hne h, List.map_map]
  rfl

/-- Slashes part the names again. -/
theorem intercalate_lossy_inj {ns ms : List Bytes} (hn : ns ≠ []) (hm : ms ≠ []) (hns : ∀ n ∈ ns, IsName n)
    (hms : ∀ m ∈ ms, IsName m)
    (h : String.intercalate "/" (ns.map Utf8.lossy) = String.intercalate "/" (ms.map Utf8.lossy)) :
    ns.map Utf8.lossy = ms.map Utf8.lossy := by
  have hparts {ps : List Bytes} (hne : ps ≠ []) (hps : ∀ p ∈ ps, IsName p) :
      (List.intercalate ['/'] ((ps.map Utf8.lossy).map String.toList)).splitOn '/' =
        (ps.map Utf8.lossy).map String.toList := by
    refine List.splitOn_intercalate '/' ?_ (by simpa using hne)
    intro cs hcs
    simp only [List.map_map, List.mem_map, Function.comp_apply] at hcs
    obtain ⟨p, hp, rfl⟩ := hcs
    exact Utf8.slash_notMem_lossy (hps p hp).noSlash
  have hchars := congrArg String.toList h
  rw [String.toList_intercalate, String.toList_intercalate] at hchars
  have hsplit := congrArg (List.splitOn '/') hchars
  rw [show "/".toList = ['/'] from rfl, hparts hn hns, hparts hm hms] at hsplit
  exact (List.map_inj_right fun a b => String.toList_inj.mp).mp hsplit

end Path

namespace Template.Set

/-- Of the templates of one name the last one is found. -/
theorem get?_ofList (ts : List Template) (name : String) :
    (ofList ts).get? name = ts.reverse.find? (·.name == name) := by
  induction ts with
  | nil => rfl
  | cons t ts ih =>
    rw [List.reverse_cons, List.find?_append, ← ih]
    show List.find? _ (if (ofList ts).templates.any (·.name == t.name) then _ else _) = _
    by_cases hlater : (ofList ts).templates.any (·.name == t.name) = true
    · rw [if_pos hlater]
      by_cases hname : t.name = name
      · subst hname
        have hsome : ((ofList ts).get? t.name).isSome = true := by
          rw [get?, List.find?_isSome]
          simpa using hlater
        rw [Option.or_of_isSome hsome]
        rfl
      · simp [hname, get?, ofList]
    · rw [if_neg hlater]
      by_cases hname : t.name = name
      · subst hname
        have hnone : (ofList ts).get? t.name = none := by
          rw [get?, List.find?_eq_none]
          simpa using hlater
        simp [hnone]
      · simp [hname, get?, ofList]

end Template.Set

/-- Two files below a directory whose paths read alike, name by name. -/
def TemplateDir.ReadAlike (dir : TemplateDir) (f g : Path) : Prop :=
  ∃ rel rel', dir.relative f = .ok rel ∧ dir.relative g = .ok rel' ∧
    rel.components.map (fun c => Utf8.lossy c.bytes) = rel'.components.map (fun c => Utf8.lossy c.bytes)

namespace Renderer

/-- A template is what has been read from its own file. -/
def ReadFrom (dir : TemplateDir) (fs : FileSystem) (x : Path × Template) : Prop :=
  ∃ rel source, dir.relative x.1 = .ok rel ∧ fs.readText x.1 = .ok source ∧
    Template.parse rel.templateName source = .ok x.2

/-- The template that goes by the name of `x`: of those whose paths read like that of `x` it is the last one. -/
def LastAlike (dir : TemplateDir) (ts : List (Path × Template)) (x y : Path × Template) : Prop :=
  ∃ pre post, ts = pre ++ y :: post ∧ dir.ReadAlike x.1 y.1 ∧ ∀ z ∈ post, ¬dir.ReadAlike x.1 z.1

section Alike

variable {dir : TemplateDir} {fs : FileSystem} {ext : String} {x y : Path × Template}
  (hx : Found dir.root ext x.1) (hy : Found dir.root ext y.1)

include hx in
/-- What a template is called, by the names that lead to its file. -/
theorem ReadFrom.named (hread : ReadFrom dir fs x) : ∃ names, names ≠ [] ∧ (∀ n ∈ names, Path.IsName n) ∧
    x.1 = dir.root.descend names ∧ dir.relative x.1 = .ok (.ofPieces names) ∧
    x.2.name = String.intercalate "/" (names.map Utf8.lossy) := by
  obtain ⟨⟨names, last, hnames, hfile⟩, -⟩ := hx
  obtain ⟨rel, source, hrel, -, hparse⟩ := hread
  have hroot : dir.relative x.1 = .ok (.ofPieces (names ++ [last])) := by
    rw [TemplateDir.relative, hfile, Path.relativeTo_descend _ (by simp) hnames]
  obtain rfl : rel = .ofPieces (names ++ [last]) := Except.ok.inj (hrel.symm.trans hroot)
  refine ⟨names ++ [last], by simp, hnames, hfile, hroot, ?_⟩
  rw [Template.parse_name hparse, Path.templateName_ofPieces (by simp) hnames]

include hx hy

/-- Templates are called the same exactly when their paths read alike. -/
theorem name_eq_iff (hxread : ReadFrom dir fs x) (hyread : ReadFrom dir fs y) :
    x.2.name = y.2.name ↔ dir.ReadAlike x.1 y.1 := by
  obtain ⟨ns, hne, hns, -, hrel, hname⟩ := hxread.named hx
  obtain ⟨ms, hne', hms, -, hrel', hname'⟩ := hyread.named hy
  have hreading {ps : List Bytes} (hne : ps ≠ []) (hps : ∀ p ∈ ps, Path.IsName p) :
      (Path.ofPieces ps).components.map (fun c => Utf8.lossy c.bytes) = ps.map Utf8.lossy := by
    rw [Path.components_ofPieces hne hps, List.map_map]
    rfl
  rw [hname, hname']
  constructor
  · intro h
    refine ⟨_, _, hrel, hrel', ?_⟩
    rw [hreading hne hns, hreading hne' hms]
    exact Path.intercalate_lossy_inj hne hne' hns hms h
  · rintro ⟨rel, rel', h, h', halike⟩
    obtain rfl : .ofPieces ns = rel := Except.ok.inj (hrel.symm.trans h)
    obtain rfl : .ofPieces ms = rel' := Except.ok.inj (hrel'.symm.trans h')
    rw [hreading hne hns, hreading hne' hms] at halike
    rw [halike]

/-- Paths that are texts do not read alike, unless they are the same. -/
theorem eq_of_readAlike (hxread : ReadFrom dir fs x) (hyread : ReadFrom dir fs y) (h : dir.ReadAlike x.1 y.1)
    (htext : ∀ rel, dir.relative x.1 = .ok rel ∨ dir.relative y.1 = .ok rel → (Utf8.decode? rel.bytes).isSome) :
    x.1 = y.1 := by
  have hname := (name_eq_iff hx hy hxread hyread).mpr h
  obtain ⟨ns, hne, hns, hfile, hrel, hxname⟩ := hxread.named hx
  obtain ⟨ms, hne', hms, hfile', hrel', hyname⟩ := hyread.named hy
  obtain ⟨s, hs⟩ := Option.isSome_iff_exists.mp (htext _ (.inl hrel))
  obtain ⟨s', hs'⟩ := Option.isSome_iff_exists.mp (htext _ (.inr hrel'))
  have hsame : s = s' := by
    rw [← Path.lossy_of_decode?_ofPieces hne hs, ← Path.lossy_of_decode?_ofPieces hne' hs', ← hxname, ← hyname, hname]
  have hpieces : ns = ms := by
    rw [← Path.pieces_ofPieces_names hne hns, ← Path.pieces_ofPieces_names hne' hms, Path.pieces, Path.pieces,
      ← Utf8.encode_of_decode? hs, ← Utf8.encode_of_decode? hs', hsame]
  rw [hfile, hfile', hpieces]

end Alike

section Names

variable {dir : TemplateDir} {fs : FileSystem} {ext : String} {ts : List (Path × Template)}
  (hfound : ∀ x ∈ ts, Found dir.root ext x.1) (hread : ∀ x ∈ ts, ReadFrom dir fs x)

include hfound hread

/-- No name is given twice exactly when no two files read alike. -/
theorem names_nodup_iff (hnodup : (ts.map (·.1)).Nodup) :
    (ts.map (·.2.name)).Nodup ↔ ∀ x ∈ ts, ∀ y ∈ ts, dir.ReadAlike x.1 y.1 → x.1 = y.1 := by
  rw [List.Nodup, List.pairwise_map] at hnodup ⊢
  constructor
  · intro h x hx y hy halike
    have hname := (name_eq_iff (hfound x hx) (hfound y hy) (hread x hx) (hread y hy)).mpr halike
    obtain ⟨pre, post, rfl⟩ := List.append_of_mem hx
    obtain ⟨-, hrest, hapart⟩ := List.pairwise_append.mp h
    rcases List.mem_append.mp hy with hy | hy
    · exact absurd hname.symm (hapart y hy x (by simp))
    · rcases List.mem_cons.mp hy with rfl | hy
      · rfl
      · exact absurd hname ((List.pairwise_cons.mp hrest).1 y hy)
  · intro h
    refine hnodup.imp_of_mem fun {x y} hx hy hne hname => hne ?_
    exact h x hx y hy ((name_eq_iff (hfound x hx) (hfound y hy) (hread x hx) (hread y hy)).mp hname)

/-- Under the name of a template the last one is found whose path reads like its own. -/
theorem get?_lastAlike {x : Path × Template} (hx : x ∈ ts) :
    ∃ y ∈ ts, LastAlike dir ts x y ∧ (Template.Set.ofList (ts.map (·.2))).get? x.2.name = some y.2 := by
  have hlast : ∃ y, ts.reverse.find? (fun y => y.2.name == x.2.name) = some y := by
    refine Option.isSome_iff_exists.mp (List.find?_isSome.mpr ⟨x, by simpa using hx, by simp⟩)
  obtain ⟨y, hy⟩ := hlast
  obtain ⟨hname, as, bs, hsplit, hbefore⟩ := List.find?_eq_some_iff_append.mp hy
  have hall : ts = bs.reverse ++ y :: as.reverse := by
    have := congrArg List.reverse hsplit
    simpa using this
  have hmem : y ∈ ts := by simp [hall]
  have hiff {z : Path × Template} (hz : z ∈ ts) := name_eq_iff (hfound x hx) (hfound z hz) (hread x hx) (hread z hz)
  refine ⟨y, hmem, ⟨bs.reverse, as.reverse, hall, (hiff hmem).mp (beq_iff_eq.mp hname).symm, ?_⟩, ?_⟩
  · intro z hz halike
    have hz : z ∈ as := List.mem_reverse.mp hz
    have hne := hbefore z hz
    rw [(hiff (by simp [hall, hz])).mpr halike] at hne
    simp at hne
  · rw [Template.Set.get?_ofList, ← List.map_reverse, List.find?_map]
    rw [show ((fun t : Template => t.name == x.2.name) ∘ fun y : Path × Template => y.2) =
      fun y => y.2.name == x.2.name from rfl, hy]
    rfl

end Names

/-- The names of the templates of a directory are all different exactly when no two of their paths read alike,
which only paths can that are no texts. Under each name the engine holds the template that was read last of
those whose paths read alike, and it renders that one in place of each of them. -/
theorem parseAll_names {dir : TemplateDir} {ext : String} {w v : World} {ts : List (Path × Template)}
    {set : Template.Set} (hs : w.files.Sound) (hroot : w.files.isDir dir.root = true)
    (h : (parseAll dir ext).on w = (.ok (ts, set), v)) :
    ((ts.map (·.2.name)).Nodup ↔ ∀ x ∈ ts, ∀ y ∈ ts, dir.ReadAlike x.1 y.1 → x.1 = y.1) ∧
      (∀ x ∈ ts, ∃ y ∈ ts, LastAlike dir ts x y ∧ ReadFrom dir w.files y ∧ set.get? x.2.name = some y.2 ∧
        ∀ p : Prepared, p.set = set → ∀ context, p.rendering context x.2 = set.render p.table.commands context y.2) ∧
      ∀ x ∈ ts, ∀ y ∈ ts, dir.ReadAlike x.1 y.1 →
        (∀ rel, dir.relative x.1 = .ok rel ∨ dir.relative y.1 = .ok rel → (Utf8.decode? rel.bytes).isSome) →
        x.1 = y.1 := by
  obtain ⟨hfind, rfl, hparsed⟩ := parseAll_ok h
  obtain ⟨hnodup, hall⟩ := TemplateDir.findFiles_found hs dir hroot hfind
  have hfound : ∀ x ∈ ts, Found dir.root ext x.1 := fun x hx => hall x.1 (List.mem_map_of_mem hx)
  have hread : ∀ x ∈ ts, ReadFrom dir w.files x := fun x hx => hparsed x hx
  refine ⟨names_nodup_iff hfound hread hnodup, fun x hx => ?_, fun x hx y hy => ?_⟩
  · obtain ⟨y, hy, hlast, hget⟩ := get?_lastAlike hfound hread hx
    refine ⟨y, hy, hlast, hread y hy, hget, fun p hp context => ?_⟩
    funext stage
    rw [Prepared.rendering, hp, hget]
    rfl
  · exact eq_of_readAlike (hfound x hx) (hfound y hy) (hread x hx) (hread y hy)

/-- Two directories whose names are no texts, with a template of one name in each. -/
def alike : World :=
  ⟨⟨[([[116]], .directory), ([[116], [100, 254]], .directory), ([[116], [100, 255]], .directory),
    ([[116], [100, 254], Utf8.encode "a.tmpl"], .file (Utf8.encode "A")),
    ([[116], [100, 255], Utf8.encode "a.tmpl"], .file (Utf8.encode "B"))], ⟨[Path.slash]⟩⟩, .empty⟩

def alikeDir : TemplateDir := ⟨.ofString "/t", none⟩

def namesOf : Except Error (List (Path × Template) × Template.Set) → List String
  | .ok (ts, _) => ts.map (·.2.name)
  | .error _ => []

theorem alike_names : namesOf ((parseAll alikeDir "tmpl").on alike).1 = ["d\ufffd/a.tmpl", "d\ufffd/a.tmpl"] := by
  decide

/-- Two templates that are read without a fault can have one name. -/
theorem alike_not_nodup : ∃ ts set v, (parseAll alikeDir "tmpl").on alike = (.ok (ts, set), v) ∧
    ¬(ts.map (·.2.name)).Nodup := by
  have hnames := alike_names
  rcases hrun : (parseAll alikeDir "tmpl").on alike with ⟨e | ⟨ts, set⟩, v⟩
  · simp [hrun, namesOf] at hnames
  · rw [hrun] at hnames
    refine ⟨ts, set, v, rfl, ?_⟩
    rw [show ts.map (·.2.name) = _ from hnames]
    decide

/-- What `parseAll_names` says of these two. -/
theorem alike_readAlike : ∃ ts set v, (parseAll alikeDir "tmpl").on alike = (.ok (ts, set), v) ∧
    ∃ x ∈ ts, ∃ y ∈ ts, alikeDir.ReadAlike x.1 y.1 ∧ x.1 ≠ y.1 := by
  have hnames := alike_names
  rcases hrun : (parseAll alikeDir "tmpl").on alike with ⟨e | ⟨ts, set⟩, v⟩
  · simp [hrun, namesOf] at hnames
  · rw [hrun] at hnames
    have hiff := (parseAll_names (by decide) (by decide) hrun).1
    rw [show ts.map (·.2.name) = _ from hnames] at hiff
    have hnot := mt hiff.mpr (by decide)
    refine ⟨ts, set, v, rfl, ?_⟩
    simpa only [Classical.not_forall, Classical.not_imp, exists_prop, ne_eq] using hnot

end Renderer
end ApiStencil
