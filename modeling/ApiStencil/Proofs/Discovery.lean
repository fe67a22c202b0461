import ApiStencil.Proofs.Writing
/-!
The files that are found below a directory. A directory lists each name once, so every file is found on
one path only, and the names on it are proper ones. The paths come in ascending order.
-/
set_option autoImplicit false

namespace ApiStencil

/-- Each location is listed once, under proper names. -/
structure FileSystem.Sound (fs : FileSystem) : Prop where
  locations : (fs.entries.map (·.1)).Nodup
  names : ∀ x ∈ fs.entries, ∀ n ∈ x.1, Path.IsName n

instance (fs : FileSystem) : Decidable fs.Sound :=
  decidable_of_iff ((fs.entries.map (·.1)).Nodup ∧ ∀ x ∈ fs.entries, ∀ n ∈ x.1, Path.IsName n)
    ⟨fun ⟨h1, h2⟩ => ⟨h1, h2⟩, fun ⟨h1, h2⟩ => ⟨h1, h2⟩⟩

/-- A world of directories and texts, by the names that lead to them. -/
def World.ofTexts (directories : List (List String)) (texts : List (List String × String)) : World :=
  ⟨⟨directories.map (fun names => (names.map Utf8.encode, .directory)) ++
    texts.map (fun t => (t.1.map Utf8.encode, .file (Utf8.encode t.2))), ⟨[Path.slash]⟩⟩, .empty⟩

namespace FileSystem

theorem heldBy?_eq_some {l : Location} {x : Location × Entry} {name : Bytes} {e : Entry} :
    heldBy? l x = some (name, e) ↔ x = (l ++ [name], e) := by
  obtain ⟨k, e'⟩ := x
  rcases List.eq_nil_or_concat k with rfl | ⟨d, n, rfl⟩
  · simp [heldBy?]
  · rw [List.concat_eq_append, heldBy?, List.getLast?_concat, List.dropLast_concat]
    constructor
    · intro h
      by_cases hd : d = l
      · subst hd
        simpa using h
      · simp [hd] at h
    · intro h
      obtain ⟨hk, rfl⟩ := Prod.mk.inj h
      obtain ⟨rfl, hn⟩ := List.append_inj' hk rfl
      simp [List.singleton_inj.mp hn]

theorem insertNamed_perm (x : Bytes × Entry) (ys : List (Bytes × Entry)) : (insertNamed x ys).Perm (x :: ys) := by
  induction ys with
  | nil => exact .refl _
  | cons y ys ih =>
    rw [insertNamed]
    split
    · exact .refl _
    · exact (ih.cons y).trans (.swap x y ys)

theorem children_perm (fs : FileSystem) (l : Location) :
    (fs.children l).Perm (fs.entries.filterMap (heldBy? l)) := by
  unfold children
  induction fs.entries.filterMap (heldBy? l) with
  | nil => exact .refl _
  | cons x xs ih => exact (insertNamed_perm x _).trans (ih.cons x)

/-- What a directory holds stands below it. -/
theorem mem_children {fs : FileSystem} {l : Location} {name : Bytes} {e : Entry} :
    (name, e) ∈ fs.children l ↔ (l ++ [name], e) ∈ fs.entries := by
  rw [(fs.children_perm l).mem_iff, List.mem_filterMap]
  constructor
  · rintro ⟨x, hx, he⟩
    rwa [heldBy?_eq_some.mp he] at hx
  · intro h
    exact ⟨_, h, heldBy?_eq_some.mpr rfl⟩

theorem Sound.children_nodup {fs : FileSystem} (hs : fs.Sound) (l : Location) :
    ((fs.children l).map (·.1)).Nodup := by
  rw [((fs.children_perm l).map (·.1)).nodup_iff, List.Nodup, List.pairwise_map, List.pairwise_filterMap]
  have hkeys := hs.locations
  rw [List.Nodup, List.pairwise_map] at hkeys
  refine hkeys.imp fun {x y} hne a ha b hb hab => hne ?_
  rw [heldBy?_eq_some.mp ha, heldBy?_eq_some.mp hb, hab]

theorem Sound.children_names {fs : FileSystem} (hs : fs.Sound) {l : Location} {name : Bytes} {e : Entry}
    (h : (name, e) ∈ fs.children l) : Path.IsName name :=
  hs.names _ (mem_children.mp h) name (by simp)

theorem le_of_bytesLe {a b : Bytes} (h : bytesLe a b = true) : a ≤ b := by
  induction a generalizing b with
  | nil => simp
  | cons x a ih =>
    cases b with
    | nil => simp [bytesLe] at h
    | cons y b =>
      rw [List.cons_le_cons_iff]
      unfold bytesLe at h
      split at h
      · rename_i hxy
        exact .inr ⟨beq_iff_eq.mp hxy, ih h⟩
      · exact .inl (of_decide_eq_true h)

theorem le_of_not_bytesLe {a b : Bytes} (h : bytesLe a b = false) : b ≤ a := by
  induction a generalizing b with
  | nil => simp [bytesLe] at h
  | cons x a ih =>
    cases b with
    | nil => simp
    | cons y b =>
      rw [List.cons_le_cons_iff]
      unfold bytesLe at h
      split at h
      · rename_i hxy
        exact .inr ⟨(beq_iff_eq.mp hxy).symm, ih h⟩
      · rename_i hxy
        have hne : x ≠ y := by simpa using hxy
        have hnot : ¬x < y := of_decide_eq_false h
        exact .inl (by grind)

theorem insertNamed_ordered {x : Bytes × Entry} {ys : List (Bytes × Entry)}
    (h : ys.Pairwise fun a b => a.1 ≤ b.1) : (insertNamed x ys).Pairwise fun a b => a.1 ≤ b.1 := by
  induction ys with
  | nil => simp [insertNamed]
  | cons y ys ih =>
    obtain ⟨hfirst, hrest⟩ := List.pairwise_cons.mp h
    rw [insertNamed]
    split
    · rename_i hxy
      have hxy := le_of_bytesLe hxy
      refine List.pairwise_cons.mpr ⟨fun z hz => ?_, h⟩
      rcases List.mem_cons.mp hz with rfl | hz
      · exact hxy
      · exact List.le_trans hxy (hfirst z hz)
    · rename_i hxy
      have hyx := le_of_not_bytesLe (Bool.eq_false_iff.mpr hxy)
      refine List.pairwise_cons.mpr ⟨fun z hz => ?_, ih hrest⟩
      rcases List.mem_cons.mp ((insertNamed_perm x ys).mem_iff.mp hz) with rfl | hz
      · exact hyx
      · exact hfirst z hz

theorem children_ordered (fs : FileSystem) (l : Location) :
    (fs.children l).Pairwise fun a b => a.1 ≤ b.1 := by
  unfold children
  induction fs.entries.filterMap (heldBy? l) with
  | nil => exact List.Pairwise.nil
  | cons x xs ih => exact insertNamed_ordered ih

/-- A directory lists what it holds in ascending order. -/
theorem Sound.children_ascending {fs : FileSystem} (hs : fs.Sound) (l : Location) :
    ((fs.children l).map (·.1)).Pairwise (· < ·) := by
  have hnodup := hs.children_nodup l
  rw [List.Nodup, List.pairwise_map] at hnodup
  rw [List.pairwise_map]
  refine (hnodup.and (fs.children_ordered l)).imp fun {a b} h => ?_
  rcases Decidable.em (a.1 < b.1) with hlt | hnot
  · exact hlt
  · exact absurd (List.le_antisymm h.2 (List.not_lt.mp hnot)) h.1

end FileSystem

namespace TemplateDir

/-- Paths below `p`, each by the names that lead to it, in the order of those. -/
structure Spread (p : Path) (found : List Path) (nss : List (List Bytes)) : Prop where
  eq : found = nss.map p.descend
  ascending : nss.Pairwise (· < ·)
  names : ∀ ns ∈ nss, ∀ n ∈ ns, Path.IsName n

theorem Spread.nodup {p : Path} {found : List Path} {nss : List (List Bytes)} (h : Spread p found nss) : nss.Nodup := by
  refine h.ascending.imp fun {a b} hlt hab => ?_
  rw [hab] at hlt
  exact List.lt_irrefl b hlt

theorem Spread.filter {p : Path} {found : List Path} {nss : List (List Bytes)} (h : Spread p found nss)
    (q : Path → Bool) : Spread p (found.filter q) (nss.filter fun ns => q (p.descend ns)) := by
  refine ⟨?_, h.ascending.filter _, fun ns hns => h.names ns (List.mem_filter.mp hns).1⟩
  rw [h.eq, List.filter_map]
  rfl

/-- Files below children of different names lie apart. -/
theorem spread_children {β : Type} (p : Path) (below : Bytes × β → List Path) (cs : List (Bytes × β))
    (hascending : (cs.map (·.1)).Pairwise (· < ·)) (hnames : ∀ c ∈ cs, Path.IsName c.1)
    (h : ∀ c ∈ cs, ∃ nss, Spread (p.join ⟨c.1⟩) (below c) nss) :
    ∃ nss, Spread p (cs.flatMap below) nss ∧ ∀ ns ∈ nss, ∃ c ∈ cs, ∃ rest, ns = c.1 :: rest := by
  -- what lies below the first child comes before all that lies below the others, as its name does
  induction cs with
  | nil => exact ⟨[], ⟨rfl, .nil, by simp⟩, by simp⟩
  | cons c cs ih =>
    obtain ⟨hc, hascending⟩ := List.pairwise_cons.mp hascending
    obtain ⟨first, hfirst⟩ := h c (by simp)
    obtain ⟨others, hothers, hheads⟩ :=
      ih hascending (fun d hd => hnames d (List.mem_cons_of_mem _ hd)) fun d hd => h d (List.mem_cons_of_mem _ hd)
    refine ⟨first.map (c.1 :: ·) ++ others, ⟨?_, ?_, ?_⟩, ?_⟩
    · rw [List.flatMap_cons, hfirst.eq, hothers.eq, List.map_append, List.map_map]
      rfl
    · refine List.pairwise_append.mpr ⟨?_, hothers.ascending, ?_⟩
      · exact List.Pairwise.map _ (fun a b hlt => List.cons_lt_cons_self.mpr hlt) hfirst.ascending
      · intro ns hns ns' hns'
        obtain ⟨rest, -, rfl⟩ := List.mem_map.mp hns
        obtain ⟨d, hd, rest', rfl⟩ := hheads ns' hns'
        exact List.cons_lt_cons_iff.mpr (.inl (hc _ (List.mem_map_of_mem hd)))
    · intro ns hns n hn
      rcases List.mem_append.mp hns with hns | hns
      · obtain ⟨rest, hrest, rfl⟩ := List.mem_map.mp hns
        rcases List.mem_cons.mp hn with rfl | hn
        · exact hnames c (by simp)
        · exact hfirst.names rest hrest n hn
      · exact hothers.names ns hns n hn
    · intro ns hns
      rcases List.mem_append.mp hns with hns | hns
      · obtain ⟨rest, -, rfl⟩ := List.mem_map.mp hns
        exact ⟨c, by simp, rest, rfl⟩
      · obtain ⟨d, hd, hrest⟩ := hheads ns hns
        exact ⟨d, List.mem_cons_of_mem _ hd, hrest⟩

theorem findFiles_ok {fs : FileSystem} (dir : TemplateDir) (extensions : List String) (hroot : fs.isDir dir.root = true) :
    ∃ found, dir.findFiles fs extensions = .ok found := by
  obtain ⟨l, hl⟩ := FileSystem.isDir_iff.mp hroot
  unfold findFiles files
  split
  · exact ⟨_, rfl⟩
  · rw [hl]
    exact ⟨_, rfl⟩

section Files

variable {fs : FileSystem} (hs : fs.Sound) (dir : TemplateDir)

include hs

theorem filesBelow_spread (fuel : Nat) (l : Location) (p : Path) (e : Entry) :
    ∃ nss, Spread p (dir.filesBelow fs fuel l p e) nss ∧ (e = .directory → [] ∉ nss) := by
  have hnone : Spread p [] [] := ⟨rfl, .nil, by simp⟩
  induction fuel generalizing l p e with
  | zero => exact ⟨[], hnone, by simp⟩
  | succ fuel ih =>
    unfold filesBelow
    split
    · exact ⟨[], hnone, by simp⟩
    · cases e with
      | link t => exact ⟨[], hnone, by simp⟩
      | file c => exact ⟨[[]], ⟨rfl, by simp, by simp⟩, by simp⟩
      | directory =>
        obtain ⟨nss, hspread, hheads⟩ := spread_children p
          (fun c => filesBelow dir fs fuel (l ++ [c.1]) (p.join ⟨c.1⟩) c.2) (fs.children l)
          (hs.children_ascending l) (fun c hc => hs.children_names hc) fun c hc =>
            (ih (l ++ [c.1]) (p.join ⟨c.1⟩) c.2 ⟨rfl, .nil, by simp⟩).imp fun _ h => h.1
        refine ⟨nss, hspread, fun _ hnil => ?_⟩
        obtain ⟨c, -, rest, h⟩ := hheads [] hnil
        cases h

/-- The files that are found in a directory lie below it, in the order of the names that lead to them. -/
theorem findFiles_spread {extensions : List String} {found : List Path} (hroot : fs.isDir dir.root = true)
    (h : dir.findFiles fs extensions = .ok found) :
    ∃ nss, Spread dir.root found nss ∧ [] ∉ nss ∧ ∀ f ∈ found, hasExtension extensions f = true := by
  obtain ⟨l, hl⟩ := FileSystem.isDir_iff.mp hroot
  obtain ⟨files, hfiles, rfl⟩ : ∃ files, dir.files fs = .ok files ∧ files.filter (hasExtension extensions) = found := by
    unfold findFiles at h
    cases hf : dir.files fs with
    | error e =>
      rw [hf] at h
      cases h
    | ok files =>
      rw [hf] at h
      exact ⟨files, rfl, Except.ok.inj h⟩
  obtain ⟨nss, hspread, hnil⟩ : ∃ nss, Spread dir.root files nss ∧ [] ∉ nss := by
    unfold TemplateDir.files at hfiles
    split at hfiles
    · cases hfiles
      exact ⟨[], ⟨rfl, .nil, by simp⟩, by simp⟩
    · simp only [hl, Except.ok.injEq] at hfiles
      subst hfiles
      obtain ⟨nss, hspread, hnil⟩ := filesBelow_spread hs dir (fs.entries.length + 1) l dir.root .directory
      exact ⟨nss, hspread, hnil rfl⟩
  exact ⟨_, hspread.filter _, fun hmem => hnil (List.mem_filter.mp hmem).1, fun f hf => (List.mem_filter.mp hf).2⟩

/-- The template files of a directory are all different, and each is known by its names. -/
theorem findFiles_found {ext : String} {found : List Path} (hroot : fs.isDir dir.root = true)
    (h : dir.findFiles fs [ext] = .ok found) :
    found.Nodup ∧ ∀ f ∈ found, Renderer.Found dir.root ext f := by
  obtain ⟨nss, hspread, hnil, hextension⟩ := findFiles_spread hs dir hroot h
  constructor
  · rw [hspread.eq, List.Nodup, List.pairwise_map]
    refine hspread.nodup.imp_of_mem fun {a b} ha hb hne hab => hne ?_
    exact Path.descend_inj dir.root (hspread.names a ha) (hspread.names b hb) hab
  · intro f hf
    have hmarked := hextension f hf
    rw [hspread.eq] at hf
    obtain ⟨ns, hns, rfl⟩ := List.mem_map.mp hf
    rcases List.eq_nil_or_concat ns with rfl | ⟨names, last, rfl⟩
    · exact absurd hns hnil
    · rw [List.concat_eq_append] at hns hmarked ⊢
      exact ⟨⟨names, last, hspread.names _ hns, rfl⟩, hmarked⟩

end Files

end TemplateDir
end ApiStencil
