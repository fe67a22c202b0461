import ApiStencil.Proofs.Discovery
import ApiStencil.Proofs.Pieces
/-!
Two templates with one output. A name that is a dot and the extension leaves a lone dot, and the path of
its output is then the path of the directory that it should stand in. That is the only way for two outputs
to be one path.
-/
set_option autoImplicit false

namespace ApiStencil

/-- A file below a directory, by the proper names that lead to it. -/
structure Path.GoesBy (root : Path) (names : List Bytes) (f : Path) : Prop where
  proper : ∀ n ∈ names, IsName n
  path : f = root.descend names

theorem Path.GoesBy.unique {root f : Path} {names names' : List Bytes} (h : GoesBy root names f)
    (h' : GoesBy root names' f) : names = names' :=
  descend_inj root h.proper h'.proper (h.path.symm.trans h'.path)

namespace Renderer

open ApiStencil.Path

/-- The name of `f` is a dot with the extension, in a directory named like the output of `g`, which stands
beside that directory. -/
def DotNamed (root : Path) (ext : String) (f g : Path) : Prop :=
  ∃ names d, GoesBy root (names ++ [d] ++ [dot :: dot :: Utf8.encode ext]) f ∧
    GoesBy root (names ++ [d ++ dot :: Utf8.encode ext]) g

/-- The output of a file goes by the names of the file, the last of them without the extension. -/
theorem Found.output {root out q f : Path} {ext : String} (h : Found root ext f)
    (hq : outputOf root f out ext = .ok q) :
    ∃ names kept, GoesBy root (names ++ [kept ++ dot :: Utf8.encode ext]) f ∧ (kept ≠ [] ∧ slash ∉ kept) ∧
      q = out.join (ofPieces (names ++ [kept])) := by
  obtain ⟨⟨names, last, hnames, rfl⟩, hmarked⟩ := h
  obtain ⟨kept, hkept, hslash, rfl, rfl⟩ := outputOf_descend hnames hmarked hq
  exact ⟨names, kept, ⟨hnames, rfl⟩, ⟨hkept, hslash⟩, rfl⟩

/-- A path of which only a lone dot is left stands for the directory that it should stand in. -/
theorem components_dot_output (out : Path) {names : List Bytes} (hnames : ∀ n ∈ names, IsName n) {d : Bytes}
    (hd : IsName d) :
    (out.join (ofPieces (names ++ [d] ++ [[dot]]))).components = (out.join (ofPieces (names ++ [d]))).components := by
  have hfront : ∀ n ∈ names ++ [d], IsName n := by
    intro n hn
    rcases List.mem_append.mp hn with hn | hn
    · exact hnames n hn
    · rwa [List.mem_singleton.mp hn]
  have hdot : ([dot] : Bytes) ≠ [] ∧ slash ∉ [dot] := by decide
  have hparts := parts_snoc hfront hdot
  have hparts' := parts_snoc hnames hd.part
  have hrel := isAbsolute_ofPieces_of_parts (by simp) hparts
  have hrel' := isAbsolute_ofPieces_of_parts (by simp) hparts'
  refine components_eq_of ?_ ?_ ?_
  · rw [isAbsolute_join hrel, isAbsolute_join hrel']
  · rw [named_join_of_relative hrel, named_join_of_relative hrel', named_ofPieces_snoc hfront hdot,
      named_ofPieces_snoc hnames hd.part]
    simp [hd.notDot]
  · rw [pieces_join_ofPieces out (by simp) hparts, pieces_join_ofPieces out (by simp) hparts', ← List.append_assoc]
    rw [List.head?_append, Option.or_of_isSome (by simp)]

section Clash

variable {root out q q' f g : Path} {ext : String} (hf : Found root ext f) (hg : Found root ext g)
  (hfq : outputOf root f out ext = .ok q) (hgq : outputOf root g out ext = .ok q')

include hf hg hfq hgq

/-- A file that is named by a dot and the extension has the output of the file beside its directory. -/
theorem same_of_dotNamed (h : DotNamed root ext f g) : q.same q' = true := by
  obtain ⟨names, d, hfnames, hgnames⟩ := h
  obtain ⟨ns, kept, hns, -, rfl⟩ := hf.output hfq
  obtain ⟨ns', kept', hns', hkept', rfl⟩ := hg.output hgq
  obtain ⟨rfl, hlast⟩ := List.append_inj' (hns.unique hfnames) rfl
  obtain ⟨rfl, hlast'⟩ := List.append_inj' (hns'.unique hgnames) rfl
  have hdot : kept = [dot] := List.append_cancel_right (List.singleton_inj.mp hlast)
  obtain rfl : kept' = d := List.append_cancel_right (List.singleton_inj.mp hlast')
  subst hdot
  have hd : IsName kept' := hfnames.proper kept' (by simp)
  have hfront : ∀ n ∈ ns', IsName n := fun n hn => hfnames.proper n (by simp [hn])
  rw [same, beq_iff_eq]
  exact components_dot_output out hfront hd

/-- If two files have one output, they are one file, or one of them is named by a dot and the extension. -/
theorem eq_or_dotNamed_of_same (h : q.same q' = true) : f = g ∨ DotNamed root ext f g ∨ DotNamed root ext g f := by
  obtain ⟨names, kept, hnames, hkept, rfl⟩ := hf.output hfq
  obtain ⟨names', kept', hnames', hkept', rfl⟩ := hg.output hgq
  have hfront : ∀ n ∈ names, IsName n := fun n hn => hnames.proper n (by simp [hn])
  have hfront' : ∀ n ∈ names', IsName n := fun n hn => hnames'.proper n (by simp [hn])
  have hnamed := congrArg (List.filterMap Component.piece?) (beq_iff_eq.mp h)
  rw [← named_eq, ← named_eq, named_join_of_relative (isAbsolute_ofPieces_of_parts (by simp) (parts_snoc hfront hkept)),
    named_join_of_relative (isAbsolute_ofPieces_of_parts (by simp) (parts_snoc hfront' hkept')), named_ofPieces_snoc hfront hkept,
    named_ofPieces_snoc hfront' hkept', List.append_cancel_left_eq] at hnamed
  by_cases hdot : kept = [dot]
  · by_cases hdot' : kept' = [dot]
    · left
      rw [if_pos hdot, if_pos hdot', List.append_nil, List.append_nil] at hnamed
      rw [hnames.path, hnames'.path, hnamed, hdot, hdot']
    · right
      left
      rw [if_pos hdot, if_neg hdot', List.append_nil] at hnamed
      subst hnamed hdot
      exact ⟨names', kept', hnames, hnames'⟩
  · by_cases hdot' : kept' = [dot]
    · right
      right
      rw [if_neg hdot, if_pos hdot', List.append_nil] at hnamed
      subst hnamed hdot'
      exact ⟨names, kept, hnames', hnames⟩
    · left
      rw [if_neg hdot, if_neg hdot'] at hnamed
      obtain ⟨rfl, hlast⟩ := List.append_inj' hnamed rfl
      rw [hnames.path, hnames'.path, List.singleton_inj.mp hlast]

end Clash

/-- Two different templates have one output exactly when one of them is named by a dot and the extension only,
in a directory that is named like the output of the other. -/
theorem outputs_same_iff {fs : FileSystem} (hs : fs.Sound) {dir : TemplateDir} (hroot : fs.isDir dir.root = true)
    {ext : String} {found : List Path} (hfound : dir.findFiles fs [ext] = .ok found) {out f g q q' : Path}
    (hf : f ∈ found) (hg : g ∈ found) (hne : f ≠ g) (hfq : outputOf dir.root f out ext = .ok q)
    (hgq : outputOf dir.root g out ext = .ok q') :
    q.same q' = true ↔ DotNamed dir.root ext f g ∨ DotNamed dir.root ext g f := by
  have hall := (TemplateDir.findFiles_found hs dir hroot hfound).2
  constructor
  · intro h
    exact (eq_or_dotNamed_of_same (hall f hf) (hall g hg) hfq hgq h).resolve_left hne
  · rintro (h | h)
    · exact same_of_dotNamed (hall f hf) (hall g hg) hfq hgq h
    · have hsame := same_of_dotNamed (hall g hg) (hall f hf) hgq hfq h
      rw [same, beq_iff_eq] at hsame ⊢
      exact hsame.symm

/-- A template that is named by a dot and the extension, and one beside its directory. -/
def shadowed : World := .ofTexts [["t"], ["t", "x"]] [(["t", "x", "..tmpl"], "A"), (["t", "x.tmpl"], "B")]

def shadowedDir : TemplateDir := ⟨.ofString "/t", none⟩

theorem shadowed_found :
    shadowedDir.findFiles shadowed.files ["tmpl"] = .ok [.ofString "/t/x/..tmpl", .ofString "/t/x.tmpl"] := rfl

theorem shadowed_outputs :
    outputOf (.ofString "/t") (.ofString "/t/x/..tmpl") (.ofString "/o") "tmpl" = .ok (.ofString "/o/x/.") ∧
      outputOf (.ofString "/t") (.ofString "/t/x.tmpl") (.ofString "/o") "tmpl" = .ok (.ofString "/o/x") :=
  ⟨rfl, rfl⟩

/-- Two different templates can have one output. -/
theorem shadowed_clash : ∃ found f g q q', shadowedDir.findFiles shadowed.files ["tmpl"] = .ok found ∧ f ∈ found ∧
    g ∈ found ∧ f ≠ g ∧ outputOf shadowedDir.root f (.ofString "/o") "tmpl" = .ok q ∧
      outputOf shadowedDir.root g (.ofString "/o") "tmpl" = .ok q' ∧ q.same q' = true :=
  ⟨_, _, _, _, _, shadowed_found, by simp, by simp, by decide, shadowed_outputs.1, shadowed_outputs.2, by decide⟩

/-- What `outputs_same_iff` says of these two. -/
theorem shadowed_dotNamed : (Path.ofString "/o/x/.").same (.ofString "/o/x") = true ∧
    (DotNamed (.ofString "/t") "tmpl" (.ofString "/t/x/..tmpl") (.ofString "/t/x.tmpl") ∨
      DotNamed (.ofString "/t") "tmpl" (.ofString "/t/x.tmpl") (.ofString "/t/x/..tmpl")) := by
  have hs : shadowed.files.Sound := by decide
  have hroot : shadowed.files.isDir shadowedDir.root = true := by decide
  have hsame : (Path.ofString "/o/x/.").same (.ofString "/o/x") = true := by decide
  have hiff := outputs_same_iff hs hroot shadowed_found (by simp) (by simp) (by decide) shadowed_outputs.1
    shadowed_outputs.2
  exact ⟨hsame, hiff.mp hsame⟩

end Renderer
end ApiStencil
