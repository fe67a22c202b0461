import ApiStencil.Proofs.Discovery
import ApiStencil.Proofs.Pieces
/-!
Where files stand that are found below a directory. A file is found by the names that lead to it through
directories, unless a directory on the way is left out, and its path leads to the place it is read from.
-/
set_option autoImplicit false

namespace ApiStencil

/-- Going down by names is joining them all at once. -/
theorem Path.descend_eq_join (p : Path) {names : List Bytes} (hne : names ≠ []) (h : ∀ n ∈ names, IsName n) :
    p.descend names = p.join (ofPieces names) := by
  rw [← ofPieces_pieces (p.descend names), ← ofPieces_pieces (p.join (ofPieces names)), pieces_descend p hne h,
    pieces_join_ofPieces p hne fun n hn => (h n hn).part]

namespace FileSystem

def Target.location : Target → Location
  | .present l _ | .vacant l => l

theorem Target.location_of_place? {r : Target} {l : Location} (h : r.place? = some l) : r.location = l := by
  cases r with
  | vacant k => exact Option.some.inj h
  | present k e =>
    cases e with
    | file c => exact Option.some.inj h
    | directory => cases h
    | link t => cases h

/-- A walk ends where its names lead, unless it stops at a link. -/
theorem Walks.heads {fs : FileSystem} {follow : Bool} {n : Nat} {d : Location} {names : List Bytes} {r : Target}
    (h : Walks fs follow n d names r) (hno : ∀ k t, r ≠ .present k (.link t)) : fs.Heads d names r.location := by
  induction h with
  | here n hd => exact .here _
  | stay _ _ ih => exact .stay (ih hno)
  | up _ _ ih => exact .up (ih hno)
  | down _ hp he hl _ ih =>
    exact .down hp.notDot hp.notParent (fun t ht => hl t (Option.some.inj (he.symm.trans ht))) (ih hno)
  | vacant n _ hp he => exact .down hp.notDot hp.notParent (by simp [he]) (.here _)
  | link => exact absurd rfl (hno _ _)
  | through _ hp he _ _ ih => exact .through hp.notDot hp.notParent he (ih hno)

theorem Walks.rooted {fs : FileSystem} {follow : Bool} {n : Nat} {d l : Location} {names : List Bytes}
    (h : Walks fs follow n d names (.present l .directory)) (hd : fs.Rooted d) : fs.Rooted l := by
  generalize hr : Target.present l .directory = r at h
  induction h with
  | here n he =>
    cases hr
    exact hd
  | stay _ _ ih => exact ih hd hr
  | up _ _ ih => exact ih hd.dropLast hr
  | @down n d name rest r e _ _ he hl hw ih =>
    cases e with
    | directory => exact ih (hd.snoc he) hr
    | file c =>
      obtain ⟨-, rfl⟩ := hw.of_file he
      cases hr
    | link t => exact absurd rfl (hl t)
  | vacant => cases hr
  | link => cases hr
  | through _ _ _ _ _ ih => exact ih (hd.base _) hr

namespace Heads

variable {fs : FileSystem}

theorem append {d m l : Location} {names rest : List Bytes} (h : fs.Heads d names m) (k : fs.Heads m rest l) :
    fs.Heads d (names ++ rest) l := by
  induction h with
  | here => exact k
  | stay _ ih => exact .stay (ih k)
  | up _ ih => exact .up (ih k)
  | down hdot hup hn _ ih => exact .down hdot hup hn (ih k)
  | through hdot hup hn _ ih =>
    have hrest := ih k
    rw [List.append_assoc] at hrest
    exact .through hdot hup hn hrest

theorem dots_append {d l : Location} {dots rest : List Bytes} (hdots : ∀ n ∈ dots, n = [Path.dot])
    (h : fs.Heads d rest l) : fs.Heads d (dots ++ rest) l := by
  induction dots with
  | nil => exact h
  | cons n dots ih =>
    obtain rfl := hdots n (by simp)
    exact .stay (ih fun m hm => hdots m (List.mem_cons_of_mem _ hm))

/-- Dots do not matter, wherever they stand. -/
theorem of_filter {d l : Location} {names names' : List Bytes} (h : fs.Heads d names l)
    (hsame : names'.filter (· != [Path.dot]) = names.filter (· != [Path.dot])) : fs.Heads d names' l := by
  -- up to the next name of `names` there are only dots in `names'`
  have hnext {name : Bytes} {rest ns : List Bytes} (hname : name ≠ [Path.dot])
      (hs : ns.filter (· != [Path.dot]) = (name :: rest).filter (· != [Path.dot])) :
      ∃ dots rest', (∀ n ∈ dots, n = [Path.dot]) ∧ ns = dots ++ name :: rest' ∧
        rest'.filter (· != [Path.dot]) = rest.filter (· != [Path.dot]) := by
    rw [List.filter_cons_of_pos (by simpa using hname)] at hs
    obtain ⟨dots, rest', rfl, hdots, -, hrest⟩ := List.filter_eq_cons_iff.mp hs
    exact ⟨dots, rest', fun n hn => by simpa using hdots n hn, rfl, hrest⟩
  induction h generalizing names' with
  | here d =>
    have hdots := List.filter_eq_nil_iff.mp hsame
    simpa using dots_append (fun n hn => by simpa using hdots n hn) (.here d)
  | stay _ ih => exact ih (by simpa using hsame)
  | up _ ih =>
    obtain ⟨dots, rest', hdots, rfl, hrest⟩ := hnext (by decide) hsame
    exact dots_append hdots (.up (ih hrest))
  | down hdot hup hn _ ih =>
    obtain ⟨dots, rest', hdots, rfl, hrest⟩ := hnext hdot hsame
    exact dots_append hdots (.down hdot hup hn (ih hrest))
  | through hdot hup hn _ ih =>
    obtain ⟨dots, rest', hdots, rfl, hrest⟩ := hnext hdot hsame
    exact dots_append hdots (.through hdot hup hn (ih (by rw [List.filter_append, List.filter_append, hrest])))

/-- Where no links stand on the way, proper names lead where they say. -/
theorem of_names {l : Location} {names : List Bytes} (hn : ∀ n ∈ names, Path.IsName n)
    (hno : ∀ k, k ≠ [] → k <+: names → ∀ t, fs.at? (l ++ k) ≠ some (.link t)) : fs.Heads l names (l ++ names) := by
  induction names generalizing l with
  | nil => simpa using Heads.here l
  | cons n ns ih =>
    have hname := hn n (by simp)
    have hrest := ih (l := l ++ [n]) (fun m hm => hn m (List.mem_cons_of_mem _ hm)) fun k hk hpre t => by
      rw [List.append_assoc]
      exact hno (n :: k) (by simp) (List.prefix_cons_inj n |>.mpr hpre) t
    rw [List.append_assoc] at hrest
    exact .down hname.notDot hname.notParent (hno [n] (by simp) (by simp)) hrest

end Heads

/-- Where a path leads when whatever is missing on the way is taken for a directory. -/
abbrev Leads (fs : FileSystem) (p : Path) (l : Location) : Prop := fs.Heads [] (fs.stepsFromRoot p) l

theorem leads_of_resolve {fs : FileSystem} {p : Path} {follow : Bool} {r : Target} (h : fs.resolve p follow = .ok r)
    (hno : ∀ k t, r ≠ .present k (.link t)) : fs.Leads p r.location :=
  (resolve_iff.mp h).2.2.heads hno

theorem leads_of_place {fs : FileSystem} {p : Path} {follow : Bool} {r : Target} {l : Location}
    (h : fs.resolve p follow = .ok r) (hr : r.place? = some l) : fs.Leads p l := by
  have hleads := leads_of_resolve h fun k t he => by simp [he, Target.place?] at hr
  rwa [Target.location_of_place? hr] at hleads

theorem Leads.of_grows {fs gs : FileSystem} (hg : fs.Grows gs) {p : Path} {l : Location} (h : gs.Leads p l) :
    fs.Leads p l := by
  have hsame : fs.stepsFromRoot p = gs.stepsFromRoot p := by rw [stepsFromRoot, stepsFromRoot, hg.workingDir]
  rw [Leads, hsame]
  exact Heads.of_grows hg h

theorem steps_filter (p : Path) : (steps p).filter (· != [Path.dot]) = p.named := by
  have hnamed : (p.pieces.filter (· != [])).filter (· != [Path.dot]) = p.named := by
    rw [List.filter_filter, Path.named]
    exact List.filter_congr fun b _ => by simp [Path.isBlank, Bool.and_comm, Bool.not_or, bne]
  unfold steps
  split
  · simp [List.filter_append, hnamed]
  · exact hnamed

/-- Paths of the same components lead to the same place. -/
theorem Leads.of_same {fs : FileSystem} {p q : Path} {l : Location} (h : fs.Leads p l) (hsame : q.same p = true) :
    fs.Leads q l := by
  rw [Path.same, beq_iff_eq] at hsame
  have hnamed : q.named = p.named := by rw [Path.named_eq, Path.named_eq, hsame]
  have hroot : q.isAbsolute = p.isAbsolute := by
    rw [Bool.eq_iff_iff, Path.isAbsolute_iff, Path.isAbsolute_iff, hsame]
  refine Heads.of_filter h ?_
  rw [stepsFromRoot, stepsFromRoot, hroot]
  cases hp : p.isAbsolute with
  | true => simp [steps_filter, hnamed]
  | false =>
    rw [hp] at hroot
    simp [steps_filter, Path.named_join_of_relative hp, Path.named_join_of_relative hroot, hnamed]

theorem Leads.below {fs : FileSystem} {p : Path} {l : Location} {names : List Bytes} (h : fs.Leads p l)
    (hn : ∀ n ∈ names, Path.IsName n) (hno : ∀ k, k ≠ [] → k <+: names → ∀ t, fs.at? (l ++ k) ≠ some (.link t)) :
    fs.Leads (p.descend names) (l ++ names) := by
  rcases List.eq_nil_or_concat names with rfl | ⟨front, last, rfl⟩
  · simpa [Path.descend] using h
  · rw [List.concat_eq_append] at hn hno ⊢
    have hparts (n : Bytes) (hmem : n ∈ front ++ [last]) := (hn n hmem).part
    obtain ⟨base, hbase, hbelow⟩ := fs.stepsFromRoot_below p
    have hhead : fs.Heads [] base l := by
      rw [Leads] at h
      rcases hbase with hbase | hbase
      · rwa [hbase] at h
      · rw [hbase] at h
        exact h.of_filter (by simp)
    rw [Leads, Path.descend_eq_join p (by simp) hn, hbelow front last hparts, List.append_assoc]
    exact hhead.append (.of_names hn hno)

theorem no_link_within {fs : FileSystem} {l : Location} {names k : List Bytes}
    (hfile : ∃ c, fs.at? (l ++ names) = some (.file c))
    (hdirs : ∀ k, k <+: names → k ≠ names → fs.at? (l ++ k) = some .directory) (hk : k <+: names) (t : Path) :
    fs.at? (l ++ k) ≠ some (.link t) := by
  by_cases he : k = names
  · obtain ⟨c, hc⟩ := hfile
    simp [he, hc]
  · simp [hdirs k hk he]

/-- The names that lead from a directory down to a file, through directories only. -/
inductive Down (fs : FileSystem) : Location → Entry → List Bytes → Prop where
  | here (l : Location) (c : Bytes) : Down fs l (.file c) []
  | step {l : Location} {name : Bytes} {child : Entry} {names : List Bytes} : (name, child) ∈ fs.children l →
    Down fs (l ++ [name]) child names → Down fs l .directory (name :: names)

/-- There is an entry for each name on the way down. -/
theorem Down.length_le {fs : FileSystem} {l : Location} {e : Entry} {names : List Bytes} (h : fs.Down l e names) :
    names.length ≤ fs.entries.length := by
  have hmem : ∀ i, i < names.length → l ++ names.take (i + 1) ∈ fs.entries.map (·.1) := by
    induction h with
    | here => simp
    | @step l name child names hchild _ ih =>
      intro i hi
      cases i with
      | zero => exact List.mem_map.mpr ⟨_, mem_children.mp hchild, by simp⟩
      | succ i => simpa using ih i (by simpa using hi)
  have hnodup : ((List.range names.length).map fun i => l ++ names.take (i + 1)).Nodup := by
    rw [List.Nodup, List.pairwise_map]
    refine List.nodup_range.imp_of_mem fun {i j} hi hj hne he => hne ?_
    have hlen := congrArg List.length he
    simp only [List.length_append, List.length_take, List.mem_range] at hlen hi hj
    omega
  have hsubset : ((List.range names.length).map fun i => l ++ names.take (i + 1)) ⊆ fs.entries.map (·.1) := by
    intro k hk
    obtain ⟨i, hi, rfl⟩ := List.mem_map.mp hk
    exact hmem i (List.mem_range.mp hi)
  simpa using hnodup.length_le_of_subset hsubset

theorem lookup_of_mem {l : Location} {e : Entry} {es : List (Location × Entry)} (hnodup : (es.map (·.1)).Nodup)
    (h : (l, e) ∈ es) : lookup l es = some e := by
  induction es with
  | nil => cases h
  | cons x es ih =>
    obtain ⟨k, e'⟩ := x
    obtain ⟨hk, hnodup⟩ := List.nodup_cons.mp hnodup
    rw [lookup]
    rcases List.mem_cons.mp h with hsame | hmem
    · cases hsame
      simp
    · have hne : k ≠ l := fun he => hk (List.mem_map.mpr ⟨_, hmem, he.symm⟩)
      rw [if_neg (by simpa using hne)]
      exact ih hnodup hmem

namespace Sound

variable {fs : FileSystem} (hs : fs.Sound)

include hs

theorem mem_children_iff {l : Location} {name : Bytes} {e : Entry} :
    (name, e) ∈ fs.children l ↔ fs.at? (l ++ [name]) = some e := by
  rw [mem_children, at?_of_ne_nil fs (by simp)]
  exact ⟨lookup_of_mem hs.locations, mem_of_lookup⟩

theorem names_of_down {l : Location} {e : Entry} {names : List Bytes} (h : fs.Down l e names) :
    ∀ n ∈ names, Path.IsName n := by
  induction h with
  | here => simp
  | step hchild _ ih =>
    intro n hn
    rcases List.mem_cons.mp hn with rfl | hn
    · exact hs.children_names hchild
    · exact ih n hn

theorem file_of_down {l : Location} {e : Entry} {names : List Bytes} (h : fs.Down l e names) (hl : fs.at? l = some e) :
    (∃ c, fs.at? (l ++ names) = some (.file c)) ∧
      ∀ k, k <+: names → k ≠ names → fs.at? (l ++ k) = some .directory := by
  induction h with
  | here l c => exact ⟨⟨c, by simpa using hl⟩, fun k hk hne => absurd (List.prefix_nil.mp hk) hne⟩
  | @step l name child names hchild _ ih =>
    obtain ⟨hfile, hdirs⟩ := ih (hs.mem_children_iff.mp hchild)
    rw [List.append_assoc] at hfile
    refine ⟨hfile, fun k hk hne => ?_⟩
    rcases List.prefix_cons_iff.mp hk with rfl | ⟨k, rfl, hpre⟩
    · simpa using hl
    · have hdir := hdirs k hpre fun he => hne (by rw [he])
      rwa [List.append_assoc] at hdir

theorem down_of_within {l : Location} {names : List Bytes} (hfile : ∃ c, fs.at? (l ++ names) = some (.file c))
    (hdirs : ∀ k, k <+: names → k ≠ names → fs.at? (l ++ k) = some .directory) :
    ∃ e, fs.at? l = some e ∧ fs.Down l e names := by
  induction names generalizing l with
  | nil =>
    obtain ⟨c, hc⟩ := hfile
    exact ⟨.file c, by simpa using hc, .here l c⟩
  | cons n ns ih =>
    obtain ⟨e, he, hdown⟩ := ih (l := l ++ [n]) (by simpa using hfile) fun k hk hne => by
      rw [List.append_assoc]
      exact hdirs (n :: k) (List.prefix_cons_inj n |>.mpr hk) fun h => hne (List.cons.inj h).2
    exact ⟨.directory, by simpa using hdirs [] List.nil_prefix (by simp), .step (hs.mem_children_iff.mpr he) hdown⟩

end Sound

end FileSystem

namespace TemplateDir

open FileSystem

theorem mem_filesBelow {dir : TemplateDir} {fs : FileSystem} {fuel : Nat} {l : Location} {p : Path} {e : Entry}
    {f : Path} :
    f ∈ dir.filesBelow fs fuel l p e ↔
      ∃ names, names.length < fuel ∧ fs.Down l e names ∧ (∀ k, k <+: names → dir.skips (p.descend k) = false) ∧
        f = p.descend names := by
  -- the fuel bounds how many names lead down
  induction fuel generalizing l p e with
  | zero => simp [filesBelow]
  | succ fuel ih =>
    unfold filesBelow
    by_cases hskip : dir.skips p = true
    · rw [if_pos hskip]
      simp only [List.not_mem_nil, false_iff, not_exists, not_and]
      intro names _ _ hnot
      have := hnot [] (List.nil_prefix)
      simp [Path.descend, hskip] at this
    · rw [if_neg hskip]
      cases e with
      | link t =>
        simp only [List.not_mem_nil, false_iff, not_exists, not_and]
        intro names _ hdown
        cases hdown
      | file c =>
        simp only [List.mem_singleton]
        constructor
        · rintro rfl
          refine ⟨[], by simp, .here l c, fun k hk => ?_, rfl⟩
          rw [List.prefix_nil.mp hk]
          simpa [Path.descend] using hskip
        · rintro ⟨names, -, hdown, -, rfl⟩
          cases hdown
          rfl
      | directory =>
        simp only [List.mem_flatMap, ih]
        constructor
        · rintro ⟨⟨name, child⟩, hchild, names, hlen, hdown, hnot, rfl⟩
          refine ⟨name :: names, by simpa using hlen, .step hchild hdown, fun k hk => ?_, rfl⟩
          rcases List.prefix_cons_iff.mp hk with rfl | ⟨k, rfl, hpre⟩
          · simpa [Path.descend] using hskip
          · exact hnot k hpre
        · rintro ⟨names, hlen, hdown, hnot, rfl⟩
          cases hdown with
          | @step _ name child names hchild hdown =>
            refine ⟨(name, child), hchild, names, by simpa using hlen, hdown, fun k hk => ?_, rfl⟩
            exact hnot (name :: k) (List.prefix_cons_inj name |>.mpr hk)

/-- A file that is found stands below the root under proper names, and nothing that is left out stands on the
way to it. -/
structure Stands (dir : TemplateDir) (fs : FileSystem) (extensions : List String) (f : Path) (root : Location)
    (names : List Bytes) : Prop where
  rootLeads : fs.Leads dir.root root
  path : f = dir.root.descend names
  proper : ∀ n ∈ names, Path.IsName n
  leads : fs.Leads f (root ++ names)
  file : ∃ c, fs.at? (root ++ names) = some (.file c)
  within : ∀ k, k <+: names → k ≠ names → fs.at? (root ++ k) = some .directory
  kept : ∀ k, k <+: names → dir.skips (dir.root.descend k) = false
  marked : hasExtension extensions f = true

section Found

variable {fs : FileSystem} (hs : fs.Sound) {dir : TemplateDir} {extensions : List String}

include hs

/-- A directory finds every file with one of the extensions that stands below it, unless it is left out. -/
theorem mem_findFiles_iff (extensions : List String) {root : Location}
    (hroot : fs.resolve dir.root true = .ok (.present root .directory)) (hskip : dir.skips dir.root = false) :
    ∃ found, dir.findFiles fs extensions = .ok found ∧
      ∀ f, f ∈ found ↔ ∃ names, dir.Stands fs extensions f root names := by
  have hfiles : dir.files fs = .ok (dir.filesBelow fs (fs.entries.length + 1) root dir.root .directory) := by
    simp [TemplateDir.files, hskip, hroot]
  refine ⟨_, by rw [findFiles, hfiles]; rfl, fun f => ?_⟩
  rw [List.mem_filter, mem_filesBelow]
  constructor
  · rintro ⟨⟨names, -, hdown, hkept, rfl⟩, hmarked⟩
    have hlead : fs.Leads dir.root root := leads_of_resolve hroot (by simp)
    obtain ⟨hfile, hdirs⟩ := hs.file_of_down hdown (at?_of_resolve hroot)
    have hnames := hs.names_of_down hdown
    have hbelow := hlead.below hnames fun k _ hk => no_link_within hfile hdirs hk
    exact ⟨names, hlead, rfl, hnames, hbelow, hfile, hdirs, hkept, hmarked⟩
  · rintro ⟨names, h⟩
    obtain ⟨e', he', hdown⟩ := hs.down_of_within h.file h.within
    obtain rfl := Option.some.inj ((at?_of_resolve hroot).symm.trans he')
    exact ⟨⟨names, Nat.lt_succ_of_le hdown.length_le, hdown, h.kept, h.path⟩, h.marked⟩

omit hs in
/-- A file in place of the root is found alone, unless a link leads to it. -/
theorem mem_findFiles_alone (extensions : List String) {root : Location} {e : Entry}
    (hroot : fs.resolve dir.root true = .ok (.present root e)) (he : e ≠ .directory) (hskip : dir.skips dir.root = false) :
    ∃ found, dir.findFiles fs extensions = .ok found ∧ found.length ≤ 1 ∧
      ∀ f, f ∈ found ↔ (∃ l c, fs.resolve dir.root false = .ok (.present l (.file c))) ∧ f = dir.root ∧
        hasExtension extensions f = true := by
  obtain ⟨files, hfiles, hlen, hmem⟩ : ∃ files, dir.files fs = .ok files ∧ files.length ≤ 1 ∧
      ∀ f, f ∈ files ↔ (∃ l c, fs.resolve dir.root false = .ok (.present l (.file c))) ∧ f = dir.root := by
    simp only [TemplateDir.files, hskip, Bool.false_eq_true, if_false, hroot]
    split
    · rename_i l c hl
      exact ⟨_, rfl, by simp, fun f => by simp [hl]⟩
    · rename_i hno
      exact ⟨_, rfl, by simp, fun f => by simpa using fun l c hl => absurd hl (hno l c)⟩
  refine ⟨_, by rw [findFiles, hfiles]; rfl, Nat.le_trans (List.length_filter_le _ _) hlen, fun f => ?_⟩
  rw [List.mem_filter, hmem, and_assoc]

omit hs in
/-- What has to be there for a search to come to an end. -/
theorem findFiles_cases {found : List Path} (h : dir.findFiles fs extensions = .ok found) :
    dir.skips dir.root = true ∧ found = [] ∨
      dir.skips dir.root = false ∧ ∃ root e, fs.resolve dir.root true = .ok (.present root e) := by
  cases hskip : dir.skips dir.root with
  | true =>
    simp only [findFiles, TemplateDir.files, hskip, if_true] at h
    cases h
    exact .inl ⟨rfl, rfl⟩
  | false =>
    refine .inr ⟨rfl, ?_⟩
    cases hroot : fs.resolve dir.root true with
    | error e =>
      simp only [findFiles, TemplateDir.files, hskip, hroot] at h
      cases h
    | ok r =>
      cases r with
      | vacant l =>
        simp only [findFiles, TemplateDir.files, hskip, hroot] at h
        cases h
      | present l e => exact ⟨l, e, rfl⟩

theorem stands_of_mem {found : List Path} (h : dir.findFiles fs extensions = .ok found) {f : Path} (hf : f ∈ found) :
    ∃ root names, dir.Stands fs extensions f root names := by
  rcases findFiles_cases h with ⟨-, rfl⟩ | ⟨hskip, root, e, hroot⟩
  · cases hf
  · by_cases he : e = .directory
    · subst he
      obtain ⟨found', h', hmem⟩ := mem_findFiles_iff hs extensions hroot hskip
      obtain rfl := Except.ok.inj (h.symm.trans h')
      exact ⟨root, (hmem f).mp hf⟩
    · obtain ⟨found', h', -, hmem⟩ := mem_findFiles_alone extensions hroot he hskip
      obtain rfl := Except.ok.inj (h.symm.trans h')
      obtain ⟨⟨l, c, hl⟩, rfl, hmarked⟩ := (hmem f).mp hf
      have hlead : fs.Leads dir.root l := leads_of_resolve hl (by simp)
      refine ⟨l, [], hlead, rfl, by simp, by simpa using hlead, ⟨c, by simpa using at?_of_resolve hl⟩, ?_, ?_, hmarked⟩
      · exact fun k hk hne => absurd (List.prefix_nil.mp hk) hne
      · intro k hk
        rw [List.prefix_nil.mp hk]
        exact hskip

end Found

end TemplateDir
end ApiStencil
