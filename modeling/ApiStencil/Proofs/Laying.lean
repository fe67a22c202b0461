import ApiStencil.Proofs.Oblivious
import ApiStencil.Proofs.Straight
/-!
What a run lays down. Below an output root that is named straight, each template is laid down as a file with
directories above it, whatever else is there, as long as nothing stands in its way.
-/
set_option autoImplicit false

namespace ApiStencil

namespace FileSystem

theorem Sound.put {fs : FileSystem} (hs : fs.Sound) {l : Location} (hl : ∀ n ∈ l, Path.IsName n) (e : Entry) :
    (fs.put l e).Sound := by
  refine ⟨?_, fun x hx => ?_⟩
  · rw [FileSystem.put, List.map_cons, List.nodup_cons]
    refine ⟨fun hmem => ?_, hs.locations.sublist (List.filter_sublist.map _)⟩
    obtain ⟨x, hx, he⟩ := List.mem_map.mp hmem
    simp [he] at hx
  · rcases List.mem_cons.mp hx with rfl | hx
    · exact hl
    · exact hs.names x (List.mem_filter.mp hx).1

theorem steps_parts {p : Path} {n : Bytes} (h : n ∈ steps p) : n ≠ [] ∧ Path.slash ∉ n := by
  have hpiece (hn : n ∈ p.pieces.filter (· != [])) : n ≠ [] ∧ Path.slash ∉ n :=
    ⟨by simpa using (List.mem_filter.mp hn).2, Path.slash_notMem_pieces (List.mem_filter.mp hn).1⟩
  unfold steps at h
  dsimp only at h
  split at h
  · rcases List.mem_append.mp h with h | h
    · exact hpiece h
    · rw [List.mem_singleton.mp h]
      decide
  · exact hpiece h

/-- A walk stops at a location of proper names. -/
theorem Walks.names {fs : FileSystem} {follow : Bool} {n : Nat} {d : Location} {names : List Bytes} {r : Target}
    (h : Walks fs follow n d names r) (hd : ∀ m ∈ d, Path.IsName m) (hn : ∀ m ∈ names, m ≠ [] ∧ Path.slash ∉ m) :
    ∀ m ∈ r.location, Path.IsName m := by
  have hchild {d : Location} {name : Bytes} (hd : ∀ m ∈ d, Path.IsName m) (hname : name ≠ [] ∧ Path.slash ∉ name)
      (hp : Plain name) : ∀ m ∈ d ++ [name], Path.IsName m := by
    intro m hm
    rcases List.mem_append.mp hm with hm | hm
    · exact hd m hm
    · rw [List.mem_singleton.mp hm]
      exact ⟨hname.1, hname.2, hp.notDot, hp.notParent⟩
  induction h with
  | here => exact hd
  | stay _ _ ih => exact ih hd fun m hm => hn m (List.mem_cons_of_mem _ hm)
  | up _ _ ih => exact ih (fun m hm => hd m (List.dropLast_subset _ hm)) fun m hm => hn m (List.mem_cons_of_mem _ hm)
  | down _ hp _ _ _ ih => exact ih (hchild hd (hn _ (by simp)) hp) fun m hm => hn m (List.mem_cons_of_mem _ hm)
  | vacant _ _ hp _ => exact hchild hd (hn _ (by simp)) hp
  | link _ _ _ hp _ => exact hchild hd (hn _ (by simp)) hp
  | @through n d name rest t r _ _ _ _ _ ih =>
    refine ih (fun m hm => ?_) fun m hm => ?_
    · split at hm
      · cases hm
      · exact hd m hm
    · rcases List.mem_append.mp hm with hm | hm
      · exact steps_parts hm
      · exact hn m (List.mem_cons_of_mem _ hm)

theorem names_of_resolve {fs : FileSystem} {p : Path} {follow : Bool} {r : Target} (h : fs.resolve p follow = .ok r) :
    ∀ n ∈ r.location, Path.IsName n :=
  (resolve_iff.mp h).2.2.names (by simp) fun _ hm => steps_parts hm

namespace Sound

variable {fs : FileSystem} (hs : fs.Sound)

include hs

theorem makeDir {gs : FileSystem} {p : Path} (h : fs.makeDir p = .ok gs) : gs.Sound := by
  obtain ⟨l, hr, rfl⟩ := makeDir_ok h
  exact hs.put (names_of_resolve hr) _

theorem ensureDir (p : Path) : (fs.ensureDir p).2.Sound := by
  unfold FileSystem.ensureDir
  cases h : fs.makeDir p with
  | ok gs => exact hs.makeDir h
  | error e => exact hs

theorem ensureDirs_go (fuel : Nat) (p : Path) : (ensureDirs.go fuel fs p).2.Sound := by
  induction fuel generalizing p with
  | zero => exact hs
  | succ fuel ih =>
    rw [ensureDirs.go]
    split
    · exact hs
    · split
      · rename_i h
        exact hs.makeDir h
      · split
        · exact hs
        · rename_i parent _
          have hparent := ih parent
          split
          · rename_i hgo
            rwa [hgo] at hparent
          · rename_i hgo
            rw [hgo] at hparent
            exact hparent.ensureDir p
      · exact hs

theorem ensureDirs (p : Path) : (fs.ensureDirs p).2.Sound := hs.ensureDirs_go _ p

theorem createFile {gs : FileSystem} {p : Path} {l : Location} (h : fs.createFile p = .ok (gs, l)) :
    gs.Sound ∧ ∀ n ∈ l, Path.IsName n := by
  obtain ⟨rfl, r, hr, hplace⟩ := createFile_ok h
  have hnames := names_of_resolve hr
  rw [Target.location_of_place? hplace] at hnames
  exact ⟨hs.put hnames _, hnames⟩

end Sound

/-- What stands at each location. -/
abbrev View := Location → Option Entry

namespace View

/-- A file at a location, with directories above it. -/
def lay (a : View) (l : Location) (c : Bytes) : View :=
  fun k => if k = l then some (.file c) else if k <+: l then some .directory else a k

/-- Nothing stands in the way of a file: only directories are above its location, and none is there. -/
structure Free (a : View) (l : Location) : Prop where
  above : ∀ k, k <+: l → k ≠ l → a k = none ∨ a k = some .directory
  place : ∃ c : Option Bytes, a l = c.map .file

/-- Files are laid below a location one after another, each where nothing stands in its way. -/
inductive Lays (base : Location) : View → List (List Bytes × Bytes) → View → Prop where
  | nil (a : View) : Lays base a [] a
  | cons {a b : View} {way : List Bytes} {c : Bytes} {rest : List (List Bytes × Bytes)} : a.Free (base ++ way) →
    Lays base (a.lay (base ++ way) c) rest b → Lays base a ((way, c) :: rest) b

section Lay

variable {a b : View} {k l : Location} {c : Bytes}

theorem lay_self (a : View) (l : Location) (c : Bytes) : a.lay l c l = some (.file c) := if_pos rfl

theorem lay_above (a : View) (c : Bytes) (hk : k <+: l) (hne : k ≠ l) : a.lay l c k = some .directory := by
  rw [lay, if_neg hne, if_pos hk]

theorem lay_other (a : View) (c : Bytes) (hk : ¬k <+: l) : a.lay l c k = a k := by
  have hne : k ≠ l := by
    rintro rfl
    exact hk (List.prefix_refl k)
  rw [lay, if_neg hne, if_neg hk]

/-- What is laid already is not laid anew. -/
theorem lay_of_standing (hfile : a l = some (.file c)) (habove : ∀ k, k <+: l → k ≠ l → a k = some .directory) :
    a.lay l c = a := by
  funext k
  by_cases he : k = l
  · rw [he, lay_self, hfile]
  · by_cases hk : k <+: l
    · rw [lay_above a c hk he, habove k hk he]
    · exact lay_other a c hk

theorem Free.lay_directory (hfree : a.Free l) (hk : a k = some .directory) : a.lay l c k = some .directory := by
  by_cases he : k = l
  · subst he
    obtain ⟨old, hold⟩ := hfree.place
    rw [hk] at hold
    cases old <;> cases hold
  · by_cases hpre : k <+: l
    · exact lay_above a c hpre he
    · rw [lay_other a c hpre, hk]

theorem Free.lay_file {old : Bytes} (hfree : a.Free l) (hne : k ≠ l) (hk : a k = some (.file old)) :
    a.lay l c k = some (.file old) := by
  by_cases hpre : k <+: l
  · rcases hfree.above k hpre hne with h | h
    · rw [hk] at h
      cases h
    · rw [hk] at h
      cases h
  · rw [lay_other a c hpre, hk]

end Lay

namespace Lays

variable {base : Location} {a b : View} {plan : List (List Bytes × Bytes)}

theorem directory (h : Lays base a plan b) {k : Location} (hk : a k = some .directory) : b k = some .directory := by
  induction h with
  | nil => exact hk
  | cons hfree _ ih => exact ih (hfree.lay_directory hk)

theorem file (h : Lays base a plan b) {way : List Bytes} {c : Bytes} (hway : way ∉ plan.map (·.1))
    (hk : a (base ++ way) = some (.file c)) : b (base ++ way) = some (.file c) := by
  induction h with
  | nil => exact hk
  | cons hfree _ ih =>
    rw [List.map_cons, List.mem_cons, not_or] at hway
    refine ih hway.2 (hfree.lay_file (fun he => hway.1 (List.append_cancel_left he)) hk)

/-- Files that go to different places all stand in the end, with directories above them. -/
theorem standing (h : Lays base a plan b) (hnodup : (plan.map (·.1)).Nodup) {way : List Bytes} {c : Bytes}
    (hmem : (way, c) ∈ plan) : b (base ++ way) = some (.file c) ∧
      ∀ k, k <+: base ++ way → k ≠ base ++ way → b k = some .directory := by
  induction h with
  | nil => cases hmem
  | @cons a b way' c' rest hfree hrest ih =>
    obtain ⟨hfirst, hnodup⟩ := List.nodup_cons.mp hnodup
    rcases List.mem_cons.mp hmem with he | hmem
    · cases he
      exact ⟨hrest.file hfirst (lay_self _ _ _), fun k hk hne => hrest.directory (lay_above _ _ hk hne)⟩
    · exact ih hnodup hmem

/-- Laid once more, the same files change nothing. -/
theorem again (h : Lays base a plan b) (hnodup : (plan.map (·.1)).Nodup) : Lays base b plan b := by
  have hstand (way : List Bytes) (c : Bytes) (hmem : (way, c) ∈ plan) := h.standing hnodup hmem
  clear h hnodup
  induction plan with
  | nil => exact .nil b
  | cons x rest ih =>
    obtain ⟨way, c⟩ := x
    obtain ⟨hfile, habove⟩ := hstand way c (by simp)
    refine .cons ⟨fun k hk hne => .inr (habove k hk hne), some c, hfile⟩ ?_
    rw [lay_of_standing hfile habove]
    exact ih fun way c hmem => hstand way c (List.mem_cons_of_mem _ hmem)

/-- Only directories are above files that can be laid. -/
theorem above (h : Lays base a plan b) (hne : plan ≠ []) {k : Location} (hk : k <+: base) (hkb : k ≠ base) :
    a k = none ∨ a k = some .directory := by
  cases h with
  | nil => exact absurd rfl hne
  | @cons _ _ way _ _ hfree _ =>
    refine hfree.above k (hk.trans (List.prefix_append base way)) ?_
    rintro rfl
    exact hkb (hk.eq_of_length_le (by simp))

/-- Below another location where the same stands, the same files can be laid, and come to stand in the same way. -/
theorem elsewhere (h : Lays base a plan b) {base' : Location} {a' : View}
    (hsame : ∀ names, a' (base' ++ names) = a (base ++ names))
    (habove : plan ≠ [] → ∀ k, k <+: base' → k ≠ base' → a' k = none ∨ a' k = some .directory) :
    ∃ b', Lays base' a' plan b' ∧ ∀ names, b' (base' ++ names) = b (base ++ names) := by
  induction h generalizing a' with
  | nil => exact ⟨a', .nil a', hsame⟩
  | @cons a b way c rest hfree _ ih =>
    have hfree' : a'.Free (base' ++ way) := by
      obtain ⟨old, hold⟩ := hfree.place
      refine ⟨fun k hk hne => ?_, old, by rw [hsame, hold]⟩
      rcases List.prefix_or_prefix_of_prefix hk (List.prefix_append base' way) with hpre | ⟨names, rfl⟩
      · by_cases he : k = base'
        · subst he
          have hroot : a' k = a base := by simpa using hsame []
          rw [hroot]
          exact hfree.above base (List.prefix_append base way) fun he => hne (by simpa using he)
        · exact habove (by simp) k hpre he
      · rw [hsame]
        exact hfree.above (base ++ names) ((List.prefix_append_right_inj base).mpr ((List.prefix_append_right_inj base').mp hk))
          fun he => hne (by rw [List.append_cancel_left he])
    have hsame' (names : List Bytes) : a'.lay (base' ++ way) c (base' ++ names) = a.lay (base ++ way) c (base ++ names) := by
      simp only [lay, List.append_cancel_left_eq, List.prefix_append_right_inj, hsame]
    have habove' (k : Location) (hk : k <+: base') (hne : k ≠ base') :
        a'.lay (base' ++ way) c k = none ∨ a'.lay (base' ++ way) c k = some .directory := by
      refine .inr (lay_above _ _ (hk.trans (List.prefix_append _ _)) ?_)
      rintro rfl
      exact hne (hk.eq_of_length_le (by simp))
    obtain ⟨b', hlays, hb'⟩ := ih hsame' fun _ => habove'
    exact ⟨b', .cons hfree' hlays, hb'⟩

end Lays

end View

end FileSystem

namespace Renderer

open FileSystem

section Sound

theorem makeParent_sound (q : Path) {w : World} (hs : w.files.Sound) : ((makeParent q).on w).2.files.Sound := by
  unfold makeParent
  cases q.parent? with
  | none => exact hs
  | some parent =>
    have hdirs := hs.ensureDirs parent
    simp only [Run.bind_on, Run.files_on, Run.setFiles_on, ofFile_on_files]
    exact hdirs

theorem openOutput_sound {q : Path} {w v : World} {l : Location} (hs : w.files.Sound)
    (h : (openOutput q).on w = (.ok l, v)) : v.files.Sound ∧ ∀ n ∈ l, Path.IsName n := by
  obtain ⟨u, gs, hu, hcreate, rfl⟩ := openOutput_creates h
  have hdirs := makeParent_sound q hs
  rw [hu] at hdirs
  exact hdirs.createFile hcreate

theorem renderFile_sound {file q : Path} {host host' : Script.Host}
    {render : Command.Stage → Template.Rendering Command.Stage} {w v : World} (hs : w.files.Sound)
    (h : (renderFile file q host render).on w = (.ok host', v)) : v.files.Sound := by
  unfold renderFile at h
  obtain ⟨l, u, hopen, h⟩ := Run.bind_on_eq_ok h
  obtain ⟨hsound, hnames⟩ := openOutput_sound hs hopen
  rw [Run.bind_on_ok (Run.get_on _)] at h
  obtain ⟨-, -, hfiles⟩ := settle_ok h
  rw [hfiles]
  exact hsound.put hnames _

theorem renderFiles_sound {r : Renderer} {p : Prepared} {out : Path} {context : List (String × Json)}
    {xs : List (Path × Template)} {host host' : Script.Host} {targets : List Path} {w v : World} (hs : w.files.Sound)
    (h : (renderFiles r p out context xs host).on w = (.ok (targets, host'), v)) : v.files.Sound := by
  induction xs generalizing host w targets with
  | nil =>
    rw [renderFiles, Run.pure_on] at h
    cases h
    exact hs
  | cons x xs ih =>
    obtain ⟨file, t⟩ := x
    obtain ⟨q, mid, u, behind, -, hfile, hrest, -⟩ := renderFiles_cons_ok h
    exact ih (renderFile_sound hs hfile) hrest

end Sound

section RenderFile

variable {file q : Path} {host : Script.Host} {render : Command.Stage → Template.Rendering Command.Stage} {w v : World}

theorem renderFile_grows {host' : Script.Host} (h : (renderFile file q host render).on w = (.ok host', v)) :
    w.files.Grows v.files := by
  obtain ⟨-, _, _, _, -, -, -, halters, -⟩ := renderFile_ok h
  exact halters.grows

variable (hq : q.Direct) (hfree : w.files.LinkFree [])

include hq hfree

/-- A template that is rendered well has found its way free. -/
theorem renderFile_free {host' : Script.Host} (h : (renderFile file q host render).on w = (.ok host', v)) :
    (0 ∉ q.bytes ∧ ∀ n ∈ q.named, Plain n) ∧ View.Free w.files.at? q.named := by
  obtain ⟨-, fs, r, l, -, -, -, halters, hresolve⟩ := renderFile_ok h
  obtain ⟨hnul, -, hwalks⟩ := resolve_iff.mp hresolve
  have hsteps : v.files.stepsFromRoot q = q.named := by rw [stepsFromRoot, if_pos hq.absolute, hq.steps_eq]
  rw [hsteps] at hwalks
  have hlinks : v.files.LinkFree [] := fun k t hk he => hfree k t hk ((halters.grows.links _ t).mp he)
  obtain ⟨hplain, habove, hr⟩ := hwalks.above hlinks hq.names
  obtain ⟨rfl, hat⟩ := Target.holding_eq_present.mp hr.symm
  rw [List.nil_append] at halters hat
  refine ⟨⟨by simpa using hnul, hplain⟩, fun k hk hne => ?_, ?_⟩
  · -- a directory that stands now has stood or has been made
    have hdir : v.files.at? k = some .directory := habove k hk hne
    rcases halters.elsewhere hne with he | ⟨hnone, -⟩
    · exact .inr (he ▸ hdir)
    · exact .inl hnone
  · have hchange := halters.at? q.named
    rw [hat] at hchange
    generalize w.files.at? q.named = old at hchange ⊢
    generalize hnew : some (Entry.file _) = new at hchange
    cases hchange with
    | same => exact ⟨some _, hnew.symm⟩
    | made => cases hnew
    | written c => exact ⟨c, rfl⟩

omit hq in
theorem makeParent_ok {parent : Path} (hup : q.parent? = some parent) (hparent : parent.Direct) (hnul : 0 ∉ parent.bytes)
    (hplain : ∀ n ∈ parent.named, Plain n)
    (hclear : ∀ k, k <+: parent.named → w.files.at? k = none ∨ w.files.at? k = some .directory) :
    ∃ fs, (makeParent q).on w = (.ok (), ⟨fs, w.journal⟩) ∧
      ∀ k, fs.at? k = if k <+: parent.named then some .directory else w.files.at? k := by
  obtain ⟨hok, hat⟩ := ensureDirs_direct hparent hnul hplain hfree hclear
  rcases hmade : w.files.ensureDirs parent with ⟨result, fs⟩
  rw [hmade] at hok hat
  dsimp only at hok hat
  subst hok
  refine ⟨fs, ?_, hat⟩
  simp only [makeParent, hup, Run.bind_on, Run.files_on, Run.setFiles_on, hmade, Run.ofFile_ok_on]

/-- Where its way is free, a template that can be rendered is laid down there. -/
theorem renderFile_lays (file : Path) (hlen : 1 < q.named.length) (hnul : 0 ∉ q.bytes) (hplain : ∀ n ∈ q.named, Plain n)
    (hway : View.Free w.files.at? q.named) (hfault : (render (host, w.journal)).fault = none) :
    ∃ v, (renderFile file q host render).on w = (.ok (render (host, w.journal)).world.1, v) ∧
      v.files.at? = View.lay w.files.at? q.named (Utf8.encode (render (host, w.journal)).text) := by
  obtain ⟨parent, hup, hparent, hnamed, hnul'⟩ := hq.parent? hlen
  have habove {k : Location} : k <+: parent.named ↔ k <+: q.named ∧ k ≠ q.named := by
    rw [hnamed, prefix_dropLast_iff hq.named_ne_nil]
  have hbelow := (habove.mp (List.prefix_refl _)).1
  obtain ⟨fs, hmade, hat⟩ := makeParent_ok (q := q) hfree hup hparent (hnul' hnul)
    (fun n hn => hplain n (hbelow.subset hn)) fun k hk => hway.above k (habove.mp hk).1 (habove.mp hk).2
  -- the directories above stand now, and no link has been made
  have hlinks : fs.LinkFree [] := by
    have hgrows := (makeParent_addsDirs q w).grows
    rw [hmade] at hgrows
    exact fun k t hk he => hfree k t hk ((hgrows.links _ t).mp he)
  have hresolve := resolve_of_above hq hnul hplain hlinks
    (fun k hk hne => by rw [List.nil_append, hat, if_pos (habove.mpr ⟨hk, hne⟩)]) true
  have hself : fs.at? q.named = w.files.at? q.named := by
    rw [hat, if_neg fun hk => (habove.mp hk).2 rfl]
  obtain ⟨old, hold⟩ := hway.place
  rw [hself, hold] at hresolve
  have hcreate : fs.createFile q = .ok (fs.put q.named (.file []), q.named) := by
    rw [createFile, hresolve]
    cases old <;> rfl
  have hopen : (openOutput q).on w = (.ok q.named, ⟨fs.put q.named (.file []), w.journal⟩) := by
    simp only [openOutput, Run.bind_on, hmade, Run.files_on, hcreate, Run.ofFile_ok_on, Run.setFiles_on, Run.pure_on]
  obtain ⟨journal, hsettle⟩ := settle_of_none file q q.named ⟨fs.put q.named (.file []), w.journal⟩ hfault
  refine ⟨_, by rw [renderFile, Run.bind_on_ok hopen, Run.bind_on_ok (Run.get_on _), hsettle], ?_⟩
  -- what stands at a location: the file, a directory above it, or what stood there
  funext k
  have hne := hq.named_ne_nil
  rw [at?_put _ _ _ _ hne, at?_put _ _ _ _ hne, hat]
  by_cases he : k = q.named
  · rw [if_pos he, he, View.lay_self]
  · rw [if_neg he, if_neg he]
    by_cases hk : k <+: q.named
    · rw [if_pos (habove.mpr ⟨hk, he⟩), View.lay_above _ _ hk he]
    · rw [if_neg fun hpre => hk (habove.mp hpre).1, View.lay_other _ _ hk]

end RenderFile

/-- Wherever the output root is, the output of a template file goes by these names below it. -/
structure Goes (root : Path) (ext : String) (file : Path) (way : List Bytes) : Prop where
  nonempty : way ≠ []
  names : ∀ n ∈ way, Path.IsName n
  output : ∀ out, Path.outputOf root file out ext = .ok (out.join (.ofPieces way))

theorem outputOf_anywhere {root file out q : Path} {ext : String} (h : Path.outputOf root file out ext = .ok q)
    (out' : Path) : ∃ q', Path.outputOf root file out' ext = .ok q' := by
  unfold Path.outputOf at h ⊢
  cases hrel : Path.relativeTo root file with
  | error e => simp [hrel] at h
  | ok rel =>
    cases hname : rel.fileName?.bind Utf8.decode? with
    | none => simp [hrel, hname] at h
    | some name =>
      simp only [hrel, hname] at h ⊢
      split at h
      · cases h
      · rename_i hkept
        rw [if_neg hkept]
        exact ⟨_, rfl⟩

theorem goes_of_outputOf {root out q : Path} {ext : String} {names : List Bytes} {kept : Bytes}
    (hnames : ∀ n ∈ names ++ [kept ++ Path.dot :: Utf8.encode ext], Path.IsName n) (hkept : Path.IsName kept)
    (hmarked : TemplateDir.hasExtension [ext] (root.descend (names ++ [kept ++ Path.dot :: Utf8.encode ext])) = true)
    (h : Path.outputOf root (root.descend (names ++ [kept ++ Path.dot :: Utf8.encode ext])) out ext = .ok q) :
    Goes root ext (root.descend (names ++ [kept ++ Path.dot :: Utf8.encode ext])) (names ++ [kept]) := by
  refine ⟨by simp, fun n hn => ?_, fun out' => ?_⟩
  · rcases List.mem_append.mp hn with hn | hn
    · exact hnames n (List.mem_append_left _ hn)
    · rwa [List.mem_singleton.mp hn]
  · obtain ⟨q', hq'⟩ := outputOf_anywhere h out'
    obtain ⟨kept', -, -, hsame, rfl⟩ := Path.outputOf_descend hnames hmarked hq'
    rw [hq', List.append_cancel_right hsame]

/-- Paths that the system takes: without zero bytes, and without names that are too long. -/
structure Usable (p : Path) : Prop where
  noZero : 0 ∉ p.bytes
  plain : ∀ n ∈ p.named, Plain n

section Join

variable {out : Path} {way : List Bytes} (hne : way ≠ []) (hway : ∀ n ∈ way, Path.IsName n)

include hne hway

theorem named_join_way (out : Path) : (out.join (.ofPieces way)).named = out.named ++ way := by
  have hnamed : (Path.ofPieces way).named = way := by
    rw [Path.named, Path.pieces_ofPieces_names hne hway]
    exact List.filter_eq_self.mpr fun n hn => by simp [(hway n hn).notBlank]
  rw [Path.named_join_of_relative (Path.isAbsolute_ofPieces_of_parts hne fun n hn => (hway n hn).part), hnamed]

theorem direct_join_way (hout : out.Straight) : (out.join (.ofPieces way)).Direct := by
  have hrel := Path.isAbsolute_ofPieces_of_parts hne fun n hn => (hway n hn).part
  have hpieces := Path.pieces_join_ofPieces out hne fun n hn => (hway n hn).part
  refine ⟨⟨by rw [Path.isAbsolute_join hrel, hout.absolute], fun b hb => ?_⟩, ?_⟩
  · rw [hpieces] at hb
    rcases List.mem_append.mp hb with hb | hb
    · exact hout.dotless b (Path.stem_subset out hb)
    · exact ⟨(hway b hb).notDot, (hway b hb).notParent⟩
  · obtain ⟨front, last, rfl⟩ := (List.eq_nil_or_concat way).resolve_left hne
    rw [List.concat_eq_append] at hpieces hway ⊢
    rw [hpieces, ← List.append_assoc, List.getLast?_concat]
    exact fun he => (hway last (by simp)).nonempty (Option.some.inj he)

theorem usable_join_iff : Usable (out.join (.ofPieces way)) ↔ Usable out ∧ ∀ n ∈ way, Plain n ∧ 0 ∉ n := by
  have hpieces := Path.pieces_join_ofPieces out hne fun n hn => (hway n hn).part
  have hstem : (∃ b ∈ out.stem, 0 ∈ b) ↔ ∃ b ∈ out.pieces, 0 ∈ b := by
    have hfilter := Path.filter_stem out (fun b => b.contains 0) rfl
    have hmem (bs : List Bytes) : (∃ b ∈ bs, 0 ∈ b) ↔ bs.filter (fun b => b.contains 0) ≠ [] := by
      simp [List.filter_eq_nil_iff]
    rw [hmem, hmem, hfilter]
  have hbytes : 0 ∉ (out.join (.ofPieces way)).bytes ↔ 0 ∉ out.bytes ∧ ∀ n ∈ way, 0 ∉ n := by
    rw [Path.mem_bytes_iff (by decide), Path.mem_bytes_iff (by decide), ← hstem, hpieces]
    grind
  have hnamed := named_join_way hne hway out
  constructor
  · rintro ⟨hzero, hplain⟩
    obtain ⟨hout, hzeros⟩ := hbytes.mp hzero
    rw [hnamed] at hplain
    exact ⟨⟨hout, fun n hn => hplain n (List.mem_append_left _ hn)⟩,
      fun n hn => ⟨hplain n (List.mem_append_right _ hn), hzeros n hn⟩⟩
  · rintro ⟨⟨hout, hplain⟩, hnames⟩
    refine ⟨hbytes.mpr ⟨hout, fun n hn => (hnames n hn).2⟩, fun n hn => ?_⟩
    rw [hnamed] at hn
    rcases List.mem_append.mp hn with hn | hn
    · exact hplain n hn
    · exact (hnames n hn).1

end Join

theorem one_lt_named {root file out : Path} {ext : String} {way : List Bytes} (h : Goes root ext file way)
    (hbelow : out.named ≠ []) : 1 < (out.join (.ofPieces way)).named.length := by
  have hout := List.length_pos_iff.mpr hbelow
  have hway := List.length_pos_iff.mpr h.nonempty
  rw [named_join_way h.nonempty h.names out, List.length_append]
  omega

/-- What templates are to be laid down as, one after another: the names of their outputs below the output root, and
what they render, whatever has been reported before. -/
inductive Plans (render : Template → Command.Stage → Template.Rendering Command.Stage) (root : Path) (ext : String) :
    Script.Host → List (Path × Template) → List (List Bytes × Bytes) → Prop where
  | nil (host : Script.Host) : Plans render root ext host [] []
  | cons {host : Script.Host} {file : Path} {t : Template} {way : List Bytes} {rest : List (Path × Template)}
    {plan : List (List Bytes × Bytes)} : Goes root ext file way → (render t (host, .empty)).fault = none →
    Plans render root ext (render t (host, .empty)).world.1 rest plan →
    Plans render root ext host ((file, t) :: rest) ((way, Utf8.encode (render t (host, .empty)).text) :: plan)

section Nodup

variable {render : Template → Command.Stage → Template.Rendering Command.Stage} {root : Path} {ext : String}
  {host : Script.Host} {xs : List (Path × Template)} {plan : List (List Bytes × Bytes)}

theorem Plans.goes (h : Plans render root ext host xs plan) {way : List Bytes} (hmem : way ∈ plan.map (·.1)) :
    ∃ x ∈ xs, Goes root ext x.1 way := by
  induction h with
  | nil => cases hmem
  | @cons _ file t _ _ _ hgoes _ _ ih =>
    rcases List.mem_cons.mp hmem with rfl | hmem
    · exact ⟨(file, t), by simp, hgoes⟩
    · obtain ⟨x, hx, hway⟩ := ih hmem
      exact ⟨x, List.mem_cons_of_mem _ hx, hway⟩

/-- Different templates go to different places. -/
theorem Plans.nodup (h : Plans render root ext host xs plan) (hnodup : (xs.map (·.1)).Nodup)
    (hfound : ∀ x ∈ xs, Found root ext x.1) : (plan.map (·.1)).Nodup := by
  induction h with
  | nil => exact .nil
  | @cons _ file t way rest plan hgoes _ hrest ih =>
    obtain ⟨hfirst, hnodup⟩ := List.nodup_cons.mp hnodup
    refine List.nodup_cons.mpr ⟨fun hmem => ?_, ih hnodup fun x hx => hfound x (List.mem_cons_of_mem _ hx)⟩
    obtain ⟨x, hx, hway⟩ := hrest.goes hmem
    have hsame := outputOf_inj (hfound (file, t) (by simp)) (hfound x (List.mem_cons_of_mem _ hx))
      (hgoes.output root) (hway.output root)
    exact hfirst (List.mem_map.mpr ⟨x, hx, hsame.symm⟩)

end Nodup

section Plans

variable {r : Renderer} {p : Prepared} {out : Path} {context : List (String × Json)} {xs : List (Path × Template)}
  {host : Script.Host} {w : World} (hout : out.Straight) (hbelow : out.named ≠ []) (hfree : w.files.LinkFree [])

include hout hbelow hfree

/-- A run that goes well lays down what it plans, each file where nothing stands in its way. -/
theorem renderFiles_plans {host' : Script.Host} {targets : List Path} {v : World}
    (hfound : ∀ x ∈ xs, Found p.dir.root r.options.templateExtension x.1)
    (h : (renderFiles r p out context xs host).on w = (.ok (targets, host'), v)) :
    ∃ plan, Plans (p.rendering context) p.dir.root r.options.templateExtension host xs plan ∧
      View.Lays out.named w.files.at? plan v.files.at? ∧ ∀ x ∈ plan, Usable (out.join (.ofPieces x.1)) := by
  -- the file system stays without links below the outputs, whatever has been laid down
  induction xs generalizing host w targets with
  | nil =>
    rw [renderFiles, Run.pure_on] at h
    cases h
    exact ⟨[], .nil _, .nil _, by simp⟩
  | cons x xs ih =>
    obtain ⟨file, t⟩ := x
    obtain ⟨q, mid, u, behind, hq, hone, hrest, -⟩ := renderFiles_cons_ok h
    obtain ⟨⟨names, last, hnames, hfile⟩, hmarked⟩ := hfound (file, t) (by simp)
    dsimp only at hfile
    subst hfile
    obtain ⟨kept, hkept, hslash, rfl, rfl⟩ := Path.outputOf_descend hnames hmarked hq
    obtain ⟨hfault, fs, target, l, hgrows, hr, hplace, -⟩ := renderFile_ok hone
    have hfront (n : Bytes) (hn : n ∈ names) := hnames n (List.mem_append_left _ hn)
    have hname := (place_below hgrows (fun l _ => hfree.below l) hfront ⟨hkept, hslash⟩ hr hplace).2
    have hgoes := goes_of_outputOf hnames hname hmarked hq
    -- the world that a template is laid down in is known from its way
    have hdirect := direct_join_way hgoes.nonempty hgoes.names hout
    have hnamed := named_join_way hgoes.nonempty hgoes.names out
    obtain ⟨husable, hclear⟩ := renderFile_free hdirect hfree hone
    obtain ⟨v', hlaid, hview⟩ :=
      renderFile_lays hdirect hfree _ (one_lt_named hgoes hbelow) husable.1 husable.2 hclear hfault
    rw [hone, Prod.mk.injEq, Except.ok.injEq] at hlaid
    obtain ⟨rfl, rfl⟩ := hlaid
    obtain ⟨plan, hplans, hlays, hall⟩ := ih (hfree.grows (renderFile_grows hone))
      (fun x hx => hfound x (List.mem_cons_of_mem _ hx)) hrest
    have halike := p.rendering_oblivious context t host w.journal .empty
    rw [halike.fault] at hfault
    rw [halike.world] at hplans
    rw [halike.text, hnamed] at hview
    rw [hnamed] at hclear
    rw [hview] at hlays
    refine ⟨_, .cons hgoes hfault hplans, .cons hclear hlays, fun y hy => ?_⟩
    rcases List.mem_cons.mp hy with rfl | hy
    · exact ⟨husable.1, husable.2⟩
    · exact hall y hy

/-- What is planned goes well where nothing stands in its way. -/
theorem renderFiles_of_plans {plan : List (List Bytes × Bytes)} {b : View}
    (hplans : Plans (p.rendering context) p.dir.root r.options.templateExtension host xs plan)
    (husable : ∀ x ∈ plan, Usable (out.join (.ofPieces x.1))) (hlays : View.Lays out.named w.files.at? plan b) :
    ∃ targets host' v, (renderFiles r p out context xs host).on w = (.ok (targets, host'), v) ∧ v.files.at? = b := by
  induction hplans generalizing w with
  | nil host =>
    cases hlays
    exact ⟨[], host, w, rfl, rfl⟩
  | @cons host file t way rest plan hgoes hfault _ ih =>
    cases hlays with
    | cons hclear hlays =>
      have hdirect := direct_join_way hgoes.nonempty hgoes.names hout
      have hnamed := named_join_way hgoes.nonempty hgoes.names out
      obtain ⟨hzero, hplain⟩ := husable _ List.mem_cons_self
      have halike := p.rendering_oblivious context t host w.journal .empty
      rw [← halike.fault] at hfault
      obtain ⟨v, hone, hview⟩ :=
        renderFile_lays hdirect hfree file (one_lt_named hgoes hbelow) hzero hplain (hnamed ▸ hclear) hfault
      rw [halike.world] at hone
      rw [halike.text, hnamed] at hview
      rw [← hview] at hlays
      obtain ⟨targets, host', v', hrest, hb⟩ :=
        ih (hfree.grows (renderFile_grows hone)) (fun x hx => husable x (List.mem_cons_of_mem _ hx)) hlays
      refine ⟨out.join (.ofPieces way) :: targets, host', v', ?_, hb⟩
      rw [renderFiles, Run.bind_on, Run.ofExcept_on, hgoes.output out]
      simp only [Run.bind_on, hone, hrest, Run.pure_on]

end Plans

end Renderer
end ApiStencil
