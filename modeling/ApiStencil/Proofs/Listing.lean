import Mathlib.Data.List.Sort
import ApiStencil.Proofs.Recognition
/-!
What a search of the templates lists. The files come in the order of the components of their paths, each of them once,
and they are just those that stand below the root and outside of what is left out; so it does not matter in which
order the directories name what they hold. Each file that is listed can be related to the root and has an output,
unless its name is no text.
-/
set_option autoImplicit false

namespace ApiStencil

namespace Path

def Component.rank : Component → Nat
  | .root => 0
  | .current => 1
  | .parent => 2
  | .name _ => 3

/-- Names come behind all other components, and go by their bytes. -/
def Component.Before : Component → Component → Prop
  | .name a, .name b => a < b
  | c, d => c.rank < d.rank

instance : LT Component := ⟨Component.Before⟩

instance : Std.Irrefl (· < · : Component → Component → Prop) where
  irrefl c := by
    cases c with
    | name a => exact List.lt_irrefl a
    | root | current | parent => exact Nat.lt_irrefl _

instance : Std.Asymm (· < · : Component → Component → Prop) where
  asymm c d h := by
    cases c <;> cases d
    case name.name => exact List.lt_asymm h
    all_goals exact Nat.lt_asymm h

/-- The order of paths, component by component. -/
def Before (p q : Path) : Prop := p.components < q.components

theorem descend_before {root : Path} {names names' : List Bytes} (h : ∀ n ∈ names, IsName n) (h' : ∀ n ∈ names', IsName n)
    (hlt : names < names') : (root.descend names).Before (root.descend names') := by
  rw [Before, components_descend root h, components_descend root h']
  exact List.append_left_lt (List.map_lt (fun _ _ hab => hab) hlt)

theorem nodup_of_ascending {ps : List Path} (h : ps.Pairwise Before) : ps.Nodup :=
  h.imp fun {p q} hlt => by
    rintro rfl
    exact List.lt_irrefl p.components hlt

/-- There is one order only in which paths ascend. -/
theorem eq_of_ascending {ps qs : List Path} (hp : ps.Pairwise Before) (hq : qs.Pairwise Before)
    (h : ∀ p, p ∈ ps ↔ p ∈ qs) : ps = qs := by
  have : Std.Asymm Before := ⟨fun _ _ hlt => List.lt_asymm hlt⟩
  exact hp.eq_of_mem_iff hq h

end Path

namespace FileSystem

/-- What a path stands for depends on nothing but what stands where. -/
theorem walkNames_congr {fs gs : FileSystem} (hat : ∀ l, gs.at? l = fs.at? l) (follow : Bool)
    (onLink : Location → List Bytes → Except IoError Target) (here : Location) (names : List Bytes) :
    walkNames gs follow onLink here names = walkNames fs follow onLink here names := by
  induction names generalizing here with
  | nil => rw [walkNames, walkNames, hat]
  | cons name rest ih => simp only [walkNames, hat, ih]

theorem walk_congr {fs gs : FileSystem} (hat : ∀ l, gs.at? l = fs.at? l) (follow : Bool) (n : Nat) :
    walk gs follow n = walk fs follow n := by
  induction n with
  | zero =>
    funext here names
    exact walkNames_congr hat follow _ here names
  | succ n ih =>
    funext here names
    rw [walk, walk, ih]
    exact walkNames_congr hat follow _ here names

theorem resolve_congr {fs gs : FileSystem} (hat : ∀ l, gs.at? l = fs.at? l) (hdir : gs.workingDir = fs.workingDir)
    (p : Path) (follow : Bool) : gs.resolve p follow = fs.resolve p follow := by
  rw [resolve, resolve, stepsFromRoot, stepsFromRoot, hdir, walk_congr hat]

section Order

variable {fs : FileSystem} (hs : fs.Sound) {es : List (Location × Entry)} (hperm : es.Perm fs.entries)

include hs hperm

/-- It does not matter in which order entries are listed. -/
theorem Sound.perm : (FileSystem.mk es fs.workingDir).Sound :=
  ⟨(hperm.map _).nodup_iff.mpr hs.locations, fun x hx => hs.names x (hperm.mem_iff.mp hx)⟩

theorem at?_perm (l : Location) : (FileSystem.mk es fs.workingDir).at? l = fs.at? l := by
  rcases Decidable.em (l = []) with rfl | hl
  · rfl
  · rw [at?_of_ne_nil _ hl, at?_of_ne_nil _ hl]
    refine Option.ext fun e => ⟨fun h => ?_, fun h => ?_⟩
    · exact lookup_of_mem hs.locations (hperm.mem_iff.mp (mem_of_lookup h))
    · exact lookup_of_mem (hs.perm hperm).locations (hperm.mem_iff.mpr (mem_of_lookup h))

end Order

end FileSystem

namespace TemplateDir

open FileSystem

/-- A directory of templates as it can come about: opened, and with outputs left out. -/
inductive Opened (fs : FileSystem) : TemplateDir → Prop where
  | opened {root : Path} {dir : TemplateDir} : open? fs root = .ok dir → Opened fs dir
  | excluding {dir : TemplateDir} (p : Path) : Opened fs dir → Opened fs (dir.excluding p)

namespace Opened

variable {fs : FileSystem} {dir : TemplateDir} (h : dir.Opened fs)

include h

theorem isDir : fs.isDir dir.root = true := by
  induction h with
  | opened hopen =>
    unfold open? at hopen
    split at hopen
    · rename_i hroot
      cases hopen
      exact hroot
    · cases hopen
  | excluding p _ ih =>
    unfold TemplateDir.excluding
    split <;> exact ih

theorem excluded_below : ∀ p ∈ dir.excluded, p.startsWith dir.root = true ∧ p.same dir.root = false := by
  induction h with
  | opened hopen =>
    unfold open? at hopen
    split at hopen <;> cases hopen
    exact nofun
  | excluding p _ ih =>
    unfold TemplateDir.excluding
    split
    · rename_i hbelow
      rintro _ ⟨⟩
      simpa using hbelow
    · exact ih

theorem skips_root : dir.skips dir.root = false := by
  rw [Bool.eq_false_iff]
  intro hskip
  rw [skips, Option.any_eq_true] at hskip
  obtain ⟨p, hp, hsame⟩ := hskip
  have hother := (h.excluded_below p hp).2
  rw [Path.same, beq_eq_false_iff_ne] at hother
  exact hother (beq_iff_eq.mp hsame).symm

end Opened

/-- Names that lead from the root to a regular file, through directories only. The root may be a link to a
directory, but no other link is followed. -/
inductive Reaches (fs : FileSystem) (root : Path) : List Bytes → Prop where
  | alone {l : Location} {c : Bytes} : fs.resolve root false = .ok (.present l (.file c)) → Reaches fs root []
  | below {base : Location} {names : List Bytes} {c : Bytes} : fs.resolve root true = .ok (.present base .directory) →
    names ≠ [] → fs.at? (base ++ names) = some (.file c) →
    (∀ k, k <+: names → k ≠ names → fs.at? (base ++ k) = some .directory) → Reaches fs root names

/-- The files that a search is to list: those that the root reaches, neither at nor below what is left out, with one of
the extensions. -/
def Lists (dir : TemplateDir) (fs : FileSystem) (extensions : List String) (f : Path) : Prop :=
  ∃ names, Reaches fs dir.root names ∧ f = dir.root.descend names ∧ (∀ p ∈ dir.excluded, f.startsWith p = false) ∧
    ∃ ext ∈ extensions, f.extensionText? = some ext

theorem hasExtension_iff_mem {extensions : List String} {f : Path} :
    hasExtension extensions f = true ↔ ∃ ext ∈ extensions, f.extensionText? = some ext := by
  rw [hasExtension, Option.any_eq_true]
  constructor
  · rintro ⟨ext, hext, hmem⟩
    exact ⟨ext, List.contains_iff_mem.mp hmem, hext⟩
  · rintro ⟨ext, hmem, hext⟩
    exact ⟨ext, hext, List.contains_iff_mem.mpr hmem⟩

theorem Reaches.proper {fs : FileSystem} (hs : fs.Sound) {root : Path} {names : List Bytes} (h : Reaches fs root names) :
    ∀ n ∈ names, Path.IsName n := by
  cases h with
  | alone => simp
  | below _ hne hfile _ =>
    rw [at?_of_ne_nil fs (by simp [hne])] at hfile
    exact fun n hn => hs.names _ (mem_of_lookup hfile) n (List.mem_append_right _ hn)

theorem Reaches.congr {fs gs : FileSystem} (hat : ∀ l, gs.at? l = fs.at? l) (hdir : gs.workingDir = fs.workingDir)
    {root : Path} {names : List Bytes} (h : Reaches fs root names) : Reaches gs root names := by
  cases h with
  | alone hroot => exact .alone ((resolve_congr hat hdir root false).trans hroot)
  | below hroot hne hfile hdirs =>
    exact .below ((resolve_congr hat hdir root true).trans hroot) hne ((hat _).trans hfile)
      fun k hk hk' => (hat _).trans (hdirs k hk hk')

/-- Nothing on the way to a file is left out just when the file is not at or below what is left out. -/
theorem kept_iff {dir : TemplateDir} (hbelow : ∀ p ∈ dir.excluded, p.startsWith dir.root = true) {names : List Bytes}
    (hproper : ∀ n ∈ names, Path.IsName n) :
    (∀ k, k <+: names → dir.skips (dir.root.descend k) = false) ↔
      ∀ p ∈ dir.excluded, (dir.root.descend names).startsWith p = false := by
  have hcomponents {k : List Bytes} (hk : k <+: names) :=
    Path.components_descend dir.root fun n hn => hproper n (hk.subset hn)
  constructor
  · intro hkept p hp
    rw [Bool.eq_false_iff, Path.startsWith, Ne, List.isPrefixOf_iff_prefix, hcomponents (List.prefix_refl _)]
    intro hpre
    obtain ⟨rest, hrest⟩ := List.isPrefixOf_iff_prefix.mp (hbelow p hp)
    rw [← hrest, List.prefix_append_right_inj] at hpre
    obtain ⟨k, hk, rfl⟩ := List.prefix_map_iff.mp hpre
    have hskip := hkept k hk
    rw [skips, Option.any_eq_false] at hskip
    have hother := hskip p hp
    rw [Path.same, hcomponents hk, hrest, beq_self_eq_true] at hother
    cases hother
  · intro hout k hk
    rw [Bool.eq_false_iff]
    intro hskip
    rw [skips, Option.any_eq_true] at hskip
    obtain ⟨p, hp, hsame⟩ := hskip
    have hnot := hout p hp
    rw [Bool.eq_false_iff, Path.startsWith, Ne, List.isPrefixOf_iff_prefix, ← beq_iff_eq.mp hsame, hcomponents hk,
      hcomponents (List.prefix_refl _)] at hnot
    exact hnot ((List.prefix_append_right_inj _).mpr (hk.map _))

section Search

variable {fs : FileSystem} (hs : fs.Sound) {dir : TemplateDir}
  (hbelow : ∀ p ∈ dir.excluded, p.startsWith dir.root = true) (hskip : dir.skips dir.root = false)

include hs hbelow hskip

/-- A search from a directory. -/
theorem lists_below (extensions : List String) {base : Location}
    (hroot : fs.resolve dir.root true = .ok (.present base .directory)) :
    ∃ found, dir.findFiles fs extensions = .ok found ∧ found.Pairwise Path.Before ∧
      ∀ f, f ∈ found ↔ dir.Lists fs extensions f := by
  obtain ⟨found, hfound, hmem⟩ := mem_findFiles_iff hs extensions hroot hskip
  have hlead : fs.Leads dir.root base := leads_of_resolve hroot (by simp)
  refine ⟨found, hfound, ?_, fun f => (hmem f).trans ⟨?_, ?_⟩⟩
  · obtain ⟨nss, hspread, -, -⟩ := findFiles_spread hs dir (isDir_iff.mpr ⟨base, hroot⟩) hfound
    rw [hspread.eq]
    refine List.pairwise_map.mpr (hspread.ascending.imp_of_mem fun hns hns' hlt => ?_)
    exact Path.descend_before (hspread.names _ hns) (hspread.names _ hns') hlt
  · rintro ⟨names, h⟩
    obtain ⟨c, hc⟩ := h.file
    have hne : names ≠ [] := by
      rintro rfl
      rw [List.append_nil, at?_of_resolve hroot] at hc
      cases hc
    refine ⟨names, .below hroot hne hc h.within, h.path, ?_, hasExtension_iff_mem.mp h.marked⟩
    rw [h.path]
    exact (kept_iff hbelow h.proper).mp h.kept
  · rintro ⟨names, hreaches, rfl, hout, hext⟩
    have hproper := hreaches.proper hs
    cases hreaches with
    | alone hfile =>
      -- the root leads to one place only
      have hplace := (leads_of_resolve hfile (by simp)).unique hlead
      have hat := at?_of_resolve hfile
      rw [Target.location] at hplace
      rw [hplace, at?_of_resolve hroot] at hat
      cases hat
    | below hroot' hne hfile hdirs =>
      obtain ⟨rfl, -⟩ := Target.present.inj (Except.ok.inj (hroot'.symm.trans hroot))
      refine ⟨names, hlead, rfl, hproper, ?_, ⟨_, hfile⟩, hdirs, (kept_iff hbelow hproper).mpr hout,
        hasExtension_iff_mem.mpr hext⟩
      exact hlead.below hproper fun k _ hk => no_link_within ⟨_, hfile⟩ hdirs hk

omit hs in
/-- A search from what is no directory any more. -/
theorem lists_alone (extensions : List String) {l : Location} {e : Entry}
    (hroot : fs.resolve dir.root true = .ok (.present l e)) (he : e ≠ .directory) :
    ∃ found, dir.findFiles fs extensions = .ok found ∧ found.Pairwise Path.Before ∧
      ∀ f, f ∈ found ↔ dir.Lists fs extensions f := by
  obtain ⟨found, hfound, hlen, hmem⟩ := mem_findFiles_alone extensions hroot he hskip
  refine ⟨found, hfound, ?_, fun f => (hmem f).trans ⟨?_, ?_⟩⟩
  · rcases found with _ | ⟨f, _ | ⟨g, rest⟩⟩
    · exact .nil
    · exact List.pairwise_singleton _ f
    · simp at hlen
  · rintro ⟨⟨l, c, hfile⟩, rfl, hmarked⟩
    refine ⟨[], .alone hfile, rfl, ?_, hasExtension_iff_mem.mp hmarked⟩
    refine (kept_iff hbelow (show ∀ n ∈ ([] : List Bytes), Path.IsName n by simp)).mp fun k hk => ?_
    rw [List.prefix_nil.mp hk]
    exact hskip
  · rintro ⟨names, hreaches, rfl, -, hext⟩
    cases hreaches with
    | alone hfile => exact ⟨⟨_, _, hfile⟩, rfl, hasExtension_iff_mem.mpr hext⟩
    | below hroot' =>
      obtain ⟨-, rfl⟩ := Target.present.inj (Except.ok.inj (hroot.symm.trans hroot'))
      exact absurd rfl he

theorem lists_found (extensions : List String) {l : Location} {e : Entry}
    (hroot : fs.resolve dir.root true = .ok (.present l e)) :
    ∃ found, dir.findFiles fs extensions = .ok found ∧ found.Pairwise Path.Before ∧
      ∀ f, f ∈ found ↔ dir.Lists fs extensions f := by
  by_cases he : e = .directory
  · subst he
    exact lists_below hs hbelow hskip extensions hroot
  · exact lists_alone hbelow hskip extensions hroot he

end Search

/-- What a search of a template directory finds ascends, holds just the files that it is to list, and is the same in
whichever order the entries of the directories come. -/
theorem findFiles_canonical {earlier fs : FileSystem} (hs : fs.Sound) {dir : TemplateDir} (hopened : dir.Opened earlier)
    {extensions : List String} {found : List Path} (h : dir.findFiles fs extensions = .ok found) :
    found.Pairwise Path.Before ∧ found.Nodup ∧ (∀ f, f ∈ found ↔ dir.Lists fs extensions f) ∧
      ∀ es : List (Location × Entry), es.Perm fs.entries →
        dir.findFiles ⟨es, fs.workingDir⟩ extensions = .ok found := by
  have hbelow (p : Path) (hp : p ∈ dir.excluded) := (hopened.excluded_below p hp).1
  obtain ⟨hskip, l, e, hroot⟩ := (findFiles_cases h).resolve_left fun hall => by
    rw [hopened.skips_root] at hall
    exact Bool.false_ne_true hall.1
  obtain ⟨found', h', hascending, hmem⟩ := lists_found hs hbelow hskip extensions hroot
  obtain rfl := Except.ok.inj (h.symm.trans h')
  refine ⟨hascending, Path.nodup_of_ascending hascending, hmem, fun es hperm => ?_⟩
  have hat := at?_perm hs hperm
  have hat' (l : Location) := (hat l).symm
  obtain ⟨again, hagain, hascending', hmem'⟩ := lists_found (hs.perm hperm) hbelow hskip extensions
    ((resolve_congr hat rfl dir.root true).trans hroot)
  have hsame (f : Path) : f ∈ again ↔ f ∈ found := by
    rw [hmem', hmem]
    constructor
    · rintro ⟨names, hreaches, hrest⟩
      exact ⟨names, hreaches.congr hat' rfl, hrest⟩
    · rintro ⟨names, hreaches, hrest⟩
      exact ⟨names, hreaches.congr hat rfl, hrest⟩
  rw [hagain, Path.eq_of_ascending hascending' hascending hsame]

/-- A directory beside a file of the same name with an extension, outputs, and a link among the templates. -/
def besides : FileSystem :=
  (World.ofTexts [["t"], ["t", "gen"], ["t", "d"]]
    [(["t", "d.js"], "A"), (["t", "d", "a.mjs"], "B"), (["t", "d", ".js"], "C"), (["t", "gen", "old.js"], "D")]).files.put
      [Utf8.encode "t", Utf8.encode "link.js"] (.link (.ofString "d.js"))

def besidesDir : TemplateDir := (TemplateDir.mk (.ofString "/t") none).excluding (.ofString "/t/gen")

/-- What stands in the directory comes before the file, as the shorter name does. -/
theorem besides_listed : besidesDir.findFiles besides ["js", "mjs", "js"] =
    .ok [.ofString "/t/d/a.mjs", .ofString "/t/d.js"] := rfl

theorem besides_opened : besidesDir.Opened besides := by
  have hopen : open? besides (.ofString "/t") = .ok ⟨.ofString "/t", none⟩ := rfl
  exact (Opened.opened hopen).excluding _

theorem besides_canonical : [Path.ofString "/t/d/a.mjs", .ofString "/t/d.js"].Pairwise Path.Before ∧
    [Path.ofString "/t/d/a.mjs", .ofString "/t/d.js"].Nodup ∧
    (∀ f, f ∈ [Path.ofString "/t/d/a.mjs", .ofString "/t/d.js"] ↔ besidesDir.Lists besides ["js", "mjs", "js"] f) ∧
    ∀ es : List (Location × Entry), es.Perm besides.entries →
      besidesDir.findFiles ⟨es, besides.workingDir⟩ ["js", "mjs", "js"] =
        .ok [.ofString "/t/d/a.mjs", .ofString "/t/d.js"] :=
  findFiles_canonical (by decide) besides_opened besides_listed

/-- A template that is found can be related to the root, and its output has a name, whatever the extension is; only a
name that is no text has no output. -/
theorem found_has_output {fs : FileSystem} (hs : fs.Sound) {dir : TemplateDir} (hopened : dir.Opened fs) {ext : String}
    {found : List Path} (h : dir.findFiles fs [ext] = .ok found) {f : Path} (hf : f ∈ found) (out : Path) :
    ∃ rel last, dir.relative f = .ok rel ∧ f.fileName? = some last ∧
      ((∃ q, Path.outputOf dir.root f out ext = .ok q) ∨
        Utf8.decode? last = none ∧ Path.outputOf dir.root f out ext =
          .error (.template s!"Invalid template file name: {rel.display}")) := by
  obtain ⟨⟨names, last, hproper, rfl⟩, hmarked⟩ := (findFiles_found hs dir hopened.isDir h).2 f hf
  have hrelative := Path.relativeTo_descend dir.root (by simp) hproper
  refine ⟨_, last, hrelative, Path.fileName?_descend dir.root hproper, ?_⟩
  cases hname : Utf8.decode? last with
  | none =>
    have hfile : (Path.ofPieces (names ++ [last])).fileName? = some last := by
      simp [Path.fileName?, Path.components_ofPieces (by simp) hproper]
    right
    simp only [Path.outputOf, hrelative, hfile, Option.bind_some, hname, and_self]
  | some name =>
    rw [hasExtension_descend [ext] dir.root hproper] at hmarked
    obtain ⟨-, kept, hstrips⟩ := (Path.hasExtension_iff (hproper last (by simp)) hname).mp hmarked
    exact .inl ⟨_, ((Path.strips_iff hproper hname kept).mp hstrips).2.2⟩

/-- Two files with an empty extension, the name of one of them no text. -/
def endingInDot : FileSystem :=
  (World.ofTexts [["t"]] [(["t", "a."], "A")]).files.put [Utf8.encode "t", [0xff, Path.dot]] (.file [])

theorem endingInDot_listed : (TemplateDir.mk (.ofString "/t") none).findFiles endingInDot [""] =
    .ok [.ofString "/t/a.", (Path.ofString "/t").join ⟨[0xff, Path.dot]⟩] := rfl

theorem endingInDot_has_output : ∃ rel last,
    (TemplateDir.mk (.ofString "/t") none).relative (.ofString "/t/a.") = .ok rel ∧
      (Path.ofString "/t/a.").fileName? = some last ∧
      ((∃ q, Path.outputOf (.ofString "/t") (.ofString "/t/a.") (.ofString "/o") "" = .ok q) ∨
        Utf8.decode? last = none ∧ Path.outputOf (.ofString "/t") (.ofString "/t/a.") (.ofString "/o") "" =
          .error (.template s!"Invalid template file name: {rel.display}")) := by
  have hopen : open? endingInDot (.ofString "/t") = .ok ⟨.ofString "/t", none⟩ := rfl
  exact found_has_output (by decide) (.opened hopen) endingInDot_listed (by simp) (.ofString "/o")

end TemplateDir
end ApiStencil
