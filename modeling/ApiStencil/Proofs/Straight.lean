import ApiStencil.Proofs.Sources
/-!
Paths that go straight down from the root. Where no links are, what such a path comes to can be told from what
stands at the locations above it, and the directories that are made for it are just those that are missing there.
-/
set_option autoImplicit false

namespace ApiStencil

namespace Path

theorem isAbsolute_iff_pieces {p : Path} : p.isAbsolute = true ↔ ∃ ps, ps ≠ [] ∧ p.pieces = [] :: ps := by
  obtain ⟨bytes⟩ := p
  constructor
  · intro h
    cases bytes with
    | nil => cases h
    | cons b bs =>
      obtain rfl : b = slash := by simpa [isAbsolute] using h
      exact ⟨splitSlash [] bs, splitSlash_ne_nil [] bs, splitSlash_cons_slash [] bs⟩
  · rintro ⟨ps, hne, hps⟩
    obtain ⟨b, bs, rfl⟩ := List.exists_cons_of_ne_nil hne
    rw [← ofPieces_pieces ⟨bytes⟩, hps, ofPieces, intercalate_cons_cons]
    rfl

theorem slash_notMem_pieces {p : Path} {b : Bytes} (h : b ∈ p.pieces) : slash ∉ b := by
  have hall (piece bs : Bytes) (hpiece : slash ∉ piece) : ∀ b ∈ splitSlash piece bs, slash ∉ b := by
    induction bs generalizing piece with
    | nil => simpa [splitSlash] using hpiece
    | cons c bs ih =>
      by_cases hc : c = slash
      · subst hc
        rw [splitSlash_cons_slash]
        intro b hb
        rcases List.mem_cons.mp hb with rfl | hb
        · simpa using hpiece
        · exact ih [] (by simp) b hb
      · rw [splitSlash_cons_of_ne hc]
        exact ih (c :: piece) (by simp [Ne.symm hc, hpiece])
  exact hall [] p.bytes (by simp) b h

/-- The bytes of a path are those of its pieces, and slashes. -/
theorem mem_bytes_iff {p : Path} {c : UInt8} (hc : c ≠ slash) : c ∈ p.bytes ↔ ∃ b ∈ p.pieces, c ∈ b := by
  have hall (ps : List Bytes) : c ∈ List.intercalate [slash] ps ↔ ∃ b ∈ ps, c ∈ b := by
    induction ps with
    | nil => simp [List.intercalate]
    | cons b ps ih =>
      cases ps with
      | nil => simp [List.intercalate]
      | cons b' ps =>
        rw [intercalate_cons_cons, List.mem_append, List.mem_append, ih]
        simp [hc]
  have hp : p.bytes = List.intercalate [slash] p.pieces := congrArg bytes (ofPieces_pieces p).symm
  rw [hp, hall]

theorem stem_subset (p : Path) : p.stem ⊆ p.pieces := by
  unfold stem
  split
  · exact List.dropLast_subset _
  · split
    · exact List.nil_subset _
    · exact List.Subset.refl _

/-- An absolute path without dots. -/
structure Straight (p : Path) : Prop where
  absolute : p.isAbsolute = true
  dotless : ∀ b ∈ p.pieces, b ≠ [dot] ∧ b ≠ [dot, dot]

instance (p : Path) : Decidable p.Straight :=
  decidable_of_iff (p.isAbsolute = true ∧ ∀ b ∈ p.pieces, b ≠ [dot] ∧ b ≠ [dot, dot])
    ⟨fun ⟨h1, h2⟩ => ⟨h1, h2⟩, fun ⟨h1, h2⟩ => ⟨h1, h2⟩⟩

namespace Straight

variable {p : Path} (h : p.Straight)

include h

theorem names : ∀ n ∈ p.named, IsName n := by
  intro n hn
  obtain ⟨hmem, hblank⟩ := List.mem_filter.mp hn
  obtain ⟨hdot, hparent⟩ := h.dotless n hmem
  exact ⟨by rintro rfl; simp [isBlank] at hblank, slash_notMem_pieces hmem, hdot, hparent⟩

theorem named_eq_filter : p.named = p.pieces.filter (· != []) :=
  List.filter_congr fun b hb => by simp [isBlank, (h.dotless b hb).1, bne]

theorem components_eq : p.components = .root :: p.named.map .name := by
  rw [components, if_pos h.absolute]
  refine congrArg _ (List.map_congr_left fun n hn => ?_)
  simp [pieceComponent, (h.names n hn).notParent]

end Straight

/-- A straight path that ends in a name. -/
structure Direct (p : Path) : Prop extends Straight p where
  ended : p.pieces.getLast? ≠ some []

theorem Direct.pieces_eq {p : Path} (h : p.Direct) : ∃ ps name, p.pieces = [] :: (ps ++ [name]) ∧ isBlank name = false := by
  obtain ⟨ps, hne, hps⟩ := isAbsolute_iff_pieces.mp h.absolute
  rcases List.eq_nil_or_concat ps with rfl | ⟨front, name, rfl⟩
  · exact absurd rfl hne
  · rw [List.concat_eq_append] at hps
    have hname : name ≠ [] := by
      rintro rfl
      exact h.ended (by simp [hps, List.getLast?_cons])
    exact ⟨front, name, hps, (isBlank_eq_false_iff hname).mpr (h.dotless name (by simp [hps])).1⟩

theorem Direct.nonempty {p : Path} (h : p.Direct) : p.isEmpty = false := by
  cases he : p.isEmpty with
  | false => rfl
  | true =>
    have habsolute := h.absolute
    rw [isAbsolute, List.isEmpty_iff.mp he] at habsolute
    cases habsolute

theorem Direct.named_ne_nil {p : Path} (h : p.Direct) : p.named ≠ [] := by
  obtain ⟨ps, name, hpieces, hname⟩ := h.pieces_eq
  rw [named, hpieces]
  simp [hname]

theorem Direct.steps_eq {p : Path} (h : p.Direct) : FileSystem.steps p = p.named := by
  obtain ⟨ps, name, hpieces, hname⟩ := h.pieces_eq
  rw [h.named_eq_filter]
  have hsplit : p.pieces = ([] :: ps) ++ [name] := hpieces
  refine FileSystem.steps_of_last hsplit ?_
  rintro rfl
  simp [isBlank] at hname

theorem trimRight_append_blanks {ps blanks : List Bytes} {name : Bytes} (hname : isBlank name = false)
    (hblanks : ∀ b ∈ blanks, isBlank b = true) : trimRight (ps ++ name :: blanks) = ps ++ [name] := by
  have hrev : (ps ++ name :: blanks).reverse = blanks.reverse ++ name :: ps.reverse := by simp
  rw [trimRight, trimLeft, hrev, List.dropWhile_append_of_pos (by simpa using hblanks),
    List.dropWhile_cons_of_neg (by simp [hname])]
  simp

theorem length_named_le (p : Path) : p.named.length ≤ p.bytes.length + 1 := by
  have hall (piece bs : Bytes) : (splitSlash piece bs).length ≤ bs.length + 1 := by
    induction bs generalizing piece with
    | nil => simp [splitSlash]
    | cons c bs ih =>
      rw [splitSlash]
      split
      · simpa using ih []
      · exact Nat.le_trans (ih (c :: piece)) (by simp)
  exact Nat.le_trans (List.length_filter_le _ _) (hall [] p.bytes)

theorem Direct.trimRight_eq {p : Path} (h : p.Direct) : trimRight p.pieces = p.pieces := by
  obtain ⟨ps, name, hpieces, hname⟩ := h.pieces_eq
  have hself : trimRight (([] :: ps) ++ [name]) = ([] :: ps) ++ [name] := trimRight_append_blanks hname (by simp)
  rw [hpieces]
  exact hself

/-- A directory that is to be made goes by the same path. -/
theorem Direct.trimmed {p : Path} (h : p.Direct) : ofPieces (trimRight p.pieces) = p := by
  rw [h.trimRight_eq, ofPieces_pieces]

/-- What is left of a path that is cut behind one of its names. -/
theorem Direct.cut {p : Path} (h : p.Direct) {front back : List Bytes} {last : Bytes}
    (hpieces : p.pieces = [] :: (front ++ last :: back)) (hlast : isBlank last = false) :
    (ofPieces ([] :: (front ++ [last]))).Direct ∧
      (ofPieces ([] :: (front ++ [last]))).pieces = [] :: (front ++ [last]) ∧
      (0 ∉ p.bytes → 0 ∉ (ofPieces ([] :: (front ++ [last]))).bytes) := by
  have hmem (b : Bytes) (hb : b ∈ ([] : Bytes) :: (front ++ [last])) : b ∈ p.pieces := by
    rw [hpieces]
    grind
  have hcut : (ofPieces ([] :: (front ++ [last]))).pieces = [] :: (front ++ [last]) :=
    pieces_ofPieces (by simp) fun b hb => slash_notMem_pieces (hmem b hb)
  refine ⟨⟨⟨isAbsolute_iff_pieces.mpr ⟨_, by simp, hcut⟩, fun b hb => h.dotless b (hmem b (hcut ▸ hb))⟩, ?_⟩, hcut, ?_⟩
  · rw [hcut, List.getLast?_cons, List.getLast?_concat]
    rintro he
    cases he
    simp [isBlank] at hlast
  · rw [mem_bytes_iff (by decide), mem_bytes_iff (by decide), hcut]
    rintro hnul ⟨b, hb, hzero⟩
    exact hnul ⟨b, hmem b hb, hzero⟩

/-- What lies above a path that ends in a name. -/
theorem Direct.parent? {p : Path} (h : p.Direct) (hlen : 1 < p.named.length) :
    ∃ parent, p.parent? = some parent ∧ parent.Direct ∧ parent.named = p.named.dropLast ∧
      (0 ∉ p.bytes → 0 ∉ parent.bytes) := by
  obtain ⟨ps, name, hpieces, hname⟩ := h.pieces_eq
  have hnamed : p.named = ps.filter (fun b => !isBlank b) ++ [name] := by
    rw [named, hpieces, List.filter_cons_of_neg (by simp [isBlank]), List.filter_append]
    simp [hname]
  -- blank pieces may stand before the last name, as of `a//b`
  obtain ⟨front, last, blanks, rfl, hlast, hblanks⟩ : ∃ front last blanks, ps = front ++ last :: blanks ∧
      isBlank last = false ∧ ∀ b ∈ blanks, ¬isBlank b = false := by
    refine Renderer.exists_last ?_
    rw [hnamed] at hlen
    have hpos : 0 < (ps.filter fun b => !isBlank b).length := by simpa using hlen
    obtain ⟨b, hb⟩ := List.exists_mem_of_length_pos hpos
    exact ⟨b, (List.mem_filter.mp hb).1, by simpa using (List.mem_filter.mp hb).2⟩
  have hblank (b : Bytes) (hb : b ∈ blanks) : isBlank b = true := by simpa using hblanks b hb
  have hsplit : p.pieces = [] :: (front ++ last :: (blanks ++ [name])) := by
    rw [hpieces, List.append_assoc, List.cons_append]
  obtain ⟨hdirect, hcut, hnul⟩ := h.cut hsplit hlast
  refine ⟨ofPieces ([] :: (front ++ [last])), ?_, hdirect, ?_, hnul⟩
  · have hfinal : p.components.getLast? = some (.name name) := by
      rw [h.components_eq, hnamed]
      simp [List.getLast?_cons]
    have htrim : trimRight (trimRight p.pieces).dropLast = [] :: (front ++ [last]) := by
      have hdrop : p.pieces.dropLast = ([] :: front) ++ last :: blanks := by
        rw [hpieces, ← List.cons_append, List.dropLast_concat]
        rfl
      rw [h.trimRight_eq, hdrop, trimRight_append_blanks hlast hblank]
      rfl
    rw [Path.parent?, hfinal]
    simp only [htrim, hdirect.nonempty]
    rfl
  · have hnone : blanks.filter (fun b => !isBlank b) = [] := List.filter_eq_nil_iff.mpr fun b hb => by simp [hblank b hb]
    rw [hnamed, List.dropLast_concat, named, hcut, List.filter_cons_of_neg (by simp [isBlank]), List.filter_append,
      List.filter_append, List.filter_cons_of_pos (by simp [hlast]), List.filter_cons_of_pos (by simp [hlast]), hnone]
    rfl

end Path

namespace FileSystem

theorem LinkFree.below {fs : FileSystem} (h : fs.LinkFree []) (l : Location) : fs.LinkFree l :=
  fun k t hk => h (l ++ k) t (by simp [hk])

theorem LinkFree.grows {fs gs : FileSystem} {l : Location} (h : fs.LinkFree l) (hg : fs.Grows gs) : gs.LinkFree l :=
  fun k t hk he => h k t hk ((hg.links _ t).mp he)

theorem prefix_dropLast_iff {k l : Location} (hl : l ≠ []) : k <+: l.dropLast ↔ k <+: l ∧ k ≠ l := by
  obtain ⟨front, last, rfl⟩ := (List.eq_nil_or_concat l).resolve_left hl
  rw [List.concat_eq_append, List.dropLast_concat, List.prefix_concat_iff]
  constructor
  · intro hk
    refine ⟨.inr hk, ?_⟩
    rintro rfl
    exact absurd hk.length_le (by simp)
  · rintro ⟨hk, hne⟩
    exact hk.resolve_left hne

/-- The target that a location is when this stands there. -/
def Target.holding (l : Location) : Option Entry → Target
  | none => .vacant l
  | some e => .present l e

theorem Target.holding_eq_present {l k : Location} {x : Option Entry} {e : Entry} :
    Target.holding l x = .present k e ↔ l = k ∧ x = some e := by
  cases x <;> simp [Target.holding]

/-- The directories above what the names lead to. -/
def Above (fs : FileSystem) (d : Location) (names : List Bytes) (P : Option Entry → Prop) : Prop :=
  ∀ k, k <+: names → k ≠ names → P (fs.at? (d ++ k))

section Walk

variable {fs : FileSystem} {follow : Bool} {n : Nat} {d : Location} {names : List Bytes}

theorem Above.tail {name : Bytes} {P : Option Entry → Prop} (h : fs.Above d (name :: names) P) :
    fs.Above (d ++ [name]) names P := by
  intro k hk hne
  rw [List.append_assoc]
  exact h (name :: k) (List.prefix_cons_inj name |>.mpr hk) fun he => hne (List.cons.inj he).2

theorem Above.head {name : Bytes} {P : Option Entry → Prop} (h : fs.Above d (name :: names) P) : P (fs.at? d) := by
  simpa using h [] List.nil_prefix (by simp)

/-- Through directories names lead to what stands where they say. -/
theorem Walks.of_above (hplain : ∀ m ∈ names, Plain m) (habove : fs.Above d names (· = some .directory))
    (hlink : ∀ t, fs.at? (d ++ names) ≠ some (.link t)) (hroot : names = [] → fs.at? d ≠ none) :
    Walks fs follow n d names (.holding (d ++ names) (fs.at? (d ++ names))) := by
  induction names generalizing d with
  | nil =>
    rw [List.append_nil]
    cases hd : fs.at? d with
    | none => exact absurd hd (hroot rfl)
    | some e => exact .here n hd
  | cons name rest ih =>
    have hname := hplain name (by simp)
    have hd := habove.head
    cases hnext : fs.at? (d ++ [name]) with
    | none =>
      cases rest with
      | nil =>
        rw [hnext]
        exact .vacant n hd hname hnext
      | cons m rest =>
        have := habove.tail.head
        rw [hnext] at this
        cases this
    | some e =>
      have hrest := ih (d := d ++ [name]) (fun m hm => hplain m (List.mem_cons_of_mem _ hm)) habove.tail (by simpa using hlink)
        fun _ => by simp [hnext]
      rw [List.append_assoc, List.singleton_append] at hrest
      refine .down hd hname hnext (fun t he => ?_) hrest
      subst he
      cases rest with
      | nil => exact hlink t hnext
      | cons m rest =>
        have := habove.tail.head
        rw [hnext] at this
        cases this

/-- Without links, names lead only through directories, and to what stands where they say. -/
theorem Walks.above {r : Target} (h : Walks fs follow n d names r) (hfree : fs.LinkFree []) (hn : ∀ m ∈ names, Path.IsName m) :
    (∀ m ∈ names, Plain m) ∧ fs.Above d names (· = some .directory) ∧
      r = .holding (d ++ names) (fs.at? (d ++ names)) := by
  have hlink (k : Location) (name : Bytes) (t : Path) : fs.at? (k ++ [name]) ≠ some (.link t) := by
    have := hfree (k ++ [name]) t (by simp)
    simpa using this
  induction h with
  | @here n d e he =>
    refine ⟨by simp, fun k hk hne => absurd (List.prefix_nil.mp hk) hne, ?_⟩
    rw [List.append_nil, he]
    rfl
  | stay => exact absurd rfl (hn _ (by simp)).notDot
  | up => exact absurd rfl (hn _ (by simp)).notParent
  | @down n d name rest r e hd hp he _ _ ih =>
    obtain ⟨hplain, habove, hr⟩ := ih fun m hm => hn m (List.mem_cons_of_mem _ hm)
    rw [List.append_assoc, List.singleton_append] at hr
    refine ⟨fun m hm => ?_, fun k hk hne => ?_, hr⟩
    · rcases List.mem_cons.mp hm with rfl | hm
      · exact hp
      · exact hplain m hm
    · rcases List.prefix_cons_iff.mp hk with rfl | ⟨k, rfl, hpre⟩
      · simpa using hd
      · have hdir := habove k hpre fun he => hne (by rw [he])
        rwa [List.append_assoc] at hdir
  | @vacant n d name hd hp he =>
    refine ⟨by simpa using hp, fun k hk hne => ?_, by rw [he]; rfl⟩
    rcases List.prefix_cons_iff.mp hk with rfl | ⟨k, rfl, hpre⟩
    · simpa using hd
    · exact absurd (by rw [List.prefix_nil.mp hpre]) hne
  | link n _ _ _ he => exact absurd he (hlink _ _ _)
  | through _ _ he => exact absurd he (hlink _ _ _)

/-- Where a directory on the way is missing, nothing is found. -/
theorem walk_missing (hplain : ∀ m ∈ names, Plain m)
    (habove : fs.Above d names fun e => e = none ∨ e = some .directory) (hd : fs.at? d = some .directory)
    (hmissing : ∃ k, k <+: names ∧ k ≠ names ∧ fs.at? (d ++ k) = none) :
    fs.walk follow n d names = .error .notFound := by
  induction names generalizing d with
  | nil =>
    obtain ⟨k, hk, hne, -⟩ := hmissing
    exact absurd (List.prefix_nil.mp hk) hne
  | cons name rest ih =>
    have hname := hplain name (by simp)
    rw [walk_plain _ _ _ hd hname]
    obtain ⟨k, hk, hne, hnone⟩ := hmissing
    obtain ⟨k, rfl, hpre⟩ := (List.prefix_cons_iff.mp hk).resolve_left fun he => by simp [he, hd] at hnone
    have hne' : k ≠ rest := fun he => hne (by rw [he])
    have hrest : rest ≠ [] := by
      rintro rfl
      exact hne' (List.prefix_nil.mp hpre)
    rw [List.append_cons] at hnone
    have hnext := habove.tail [] List.nil_prefix hrest.symm
    rw [List.append_nil] at hnext
    rcases hnext with hnext | hnext
    · rw [hnext]
      simp [hrest]
    · rw [hnext]
      exact ih (fun m hm => hplain m (List.mem_cons_of_mem _ hm)) habove.tail hnext ⟨k, hpre, hne', hnone⟩

end Walk

section Direct

variable {fs : FileSystem} {p : Path} (hp : p.Direct) (hnul : 0 ∉ p.bytes)

include hp hnul

theorem resolve_direct (fs : FileSystem) (follow : Bool) :
    fs.resolve p follow = fs.walk follow maxLinks [] p.named := by
  simp [resolve, hnul, hp.nonempty, stepsFromRoot, hp.absolute, hp.steps_eq]

variable (hplain : ∀ m ∈ p.named, Plain m)

include hplain

theorem makeDir_missing (habove : fs.Above [] p.named fun e => e = none ∨ e = some .directory)
    (hmissing : ∃ k, k <+: p.named ∧ k ≠ p.named ∧ fs.at? k = none) : fs.makeDir p = .error .notFound := by
  have hwalk : fs.walk false maxLinks [] p.named = .error .notFound := walk_missing hplain habove rfl hmissing
  rw [makeDir, hp.trimmed, resolve_direct hp hnul, hwalk]

variable (hfree : fs.LinkFree [])

include hfree

/-- A path whose directories all stand. -/
theorem resolve_of_above (habove : fs.Above [] p.named (· = some .directory)) (follow : Bool) :
    fs.resolve p follow = .ok (.holding p.named (fs.at? p.named)) := by
  rw [resolve_direct hp hnul]
  refine Walks.walk ?_
  have hwalks : Walks fs follow maxLinks [] p.named (.holding ([] ++ p.named) (fs.at? ([] ++ p.named))) := by
    refine .of_above hplain habove (fun t => ?_) fun _ => by simp [at?]
    cases hnamed : p.named with
    | nil => simp [at?]
    | cons m ms => exact hfree (m :: ms) t (by simp)
  simpa using hwalks

theorem makeDir_direct (habove : fs.Above [] p.named (· = some .directory)) :
    fs.makeDir p = if fs.at? p.named = none then .ok (fs.put p.named .directory) else .error .alreadyExists := by
  rw [makeDir, hp.trimmed, resolve_of_above hp hnul hplain hfree habove]
  cases fs.at? p.named with
  | none => rfl
  | some e => rfl

/-- A directory is made where those above it stand. -/
theorem ensureDir_direct (habove : fs.Above [] p.named (· = some .directory))
    (hat : fs.at? p.named = none ∨ fs.at? p.named = some .directory) :
    (fs.ensureDir p).1 = .ok () ∧ ∀ k, (fs.ensureDir p).2.at? k = if k <+: p.named then some .directory else fs.at? k := by
  have hmade := makeDir_direct hp hnul hplain hfree habove
  have hself : p.named <+: p.named := List.prefix_refl _
  have hother (k : Location) (hk : k ≠ p.named) : fs.at? k = if k <+: p.named then some .directory else fs.at? k := by
    split
    · rename_i hpre
      exact habove k hpre hk
    · rfl
  rcases hat with hat | hat
  · rw [if_pos hat] at hmade
    have hne : p.named ≠ [] := by
      intro he
      simp [he, at?] at hat
    rw [ensureDir, hmade]
    refine ⟨rfl, fun k => ?_⟩
    dsimp only
    rw [at?_put fs p.named .directory k hne]
    by_cases hk : k = p.named
    · rw [if_pos hk, if_pos (hk ▸ hself)]
    · rw [if_neg hk]
      exact hother k hk
  · rw [if_neg (by simp [hat])] at hmade
    have hresolve := resolve_of_above hp hnul hplain hfree habove true
    have hdir : fs.isDir p = true := isDir_iff.mpr ⟨p.named, by rw [hresolve, hat]; rfl⟩
    rw [ensureDir, hmade, hdir]
    refine ⟨rfl, fun k => ?_⟩
    dsimp only
    by_cases hk : k = p.named
    · rw [if_pos (hk ▸ hself), hk, hat]
    · exact hother k hk

omit hp hnul hfree hplain in
/-- Unless a directory is missing above it, a directory is made alone. -/
theorem ensureDirs_go_alone {fuel : Nat} (hempty : p.isEmpty = false) (h : fs.makeDir p ≠ .error .notFound) :
    ensureDirs.go (fuel + 1) fs p = fs.ensureDir p := by
  rw [ensureDirs.go, hempty, ensureDir]
  cases hmade : fs.makeDir p with
  | ok gs => rfl
  | error e =>
    cases e with
    | notFound => exact absurd hmade h
    | _ => rfl

omit hp hnul hfree hplain in
/-- Where a directory is missing above it, the one right above is made first. -/
theorem ensureDirs_go_below {fuel : Nat} {parent : Path} {gs : FileSystem} (hempty : p.isEmpty = false)
    (h : fs.makeDir p = .error .notFound) (hup : p.parent? = some parent)
    (hgo : ensureDirs.go fuel fs parent = (.ok (), gs)) : ensureDirs.go (fuel + 1) fs p = gs.ensureDir p := by
  simp only [ensureDirs.go, hempty, h, hup, hgo]
  rfl

end Direct

/-- What is missing above a place is not the root, so the place is deeper than right below the root. -/
theorem one_lt_of_missing {fs : FileSystem} {k l : Location} (hk : k <+: l) (hne : k ≠ l) (h : fs.at? k = none) :
    1 < l.length := by
  have hshort := Nat.lt_of_le_of_ne hk.length_le fun he => hne (hk.eq_of_length he)
  have hsome : k.length ≠ 0 := by
    intro he
    simp [List.length_eq_zero_iff.mp he, at?] at h
  omega

/-- Directories are made along a path just where they are missing. -/
theorem ensureDirs_go_direct {fs : FileSystem} {p : Path} (hp : p.Direct) (hnul : 0 ∉ p.bytes)
    (hplain : ∀ m ∈ p.named, Plain m) (hfree : fs.LinkFree [])
    (hclear : ∀ k, k <+: p.named → fs.at? k = none ∨ fs.at? k = some .directory) {fuel : Nat}
    (hfuel : p.named.length ≤ fuel) :
    (ensureDirs.go fuel fs p).1 = .ok () ∧
      ∀ k, (ensureDirs.go fuel fs p).2.at? k = if k <+: p.named then some .directory else fs.at? k := by
  -- the fuel bounds how many names there are
  induction fuel generalizing p with
  | zero => exact absurd (List.length_eq_zero_iff.mp (Nat.le_zero.mp hfuel)) hp.named_ne_nil
  | succ fuel ih =>
    by_cases hmissing : ∃ k, k <+: p.named ∧ k ≠ p.named ∧ fs.at? k = none
    · -- the directory above is made first
      have hnot := makeDir_missing hp hnul hplain (fun k hk _ => hclear k hk) hmissing
      obtain ⟨k, hk, hne, hnone⟩ := hmissing
      obtain ⟨parent, hup, hdirect, hnamed, hnul'⟩ := hp.parent? (one_lt_of_missing hk hne hnone)
      have habove {k : Location} : k <+: parent.named ↔ k <+: p.named ∧ k ≠ p.named := by
        rw [hnamed, prefix_dropLast_iff hp.named_ne_nil]
      have hbelow : parent.named <+: p.named := (habove.mp (List.prefix_refl _)).1
      have hfuel' : parent.named.length ≤ fuel := by
        rw [hnamed, List.length_dropLast]
        omega
      obtain ⟨hok, hat⟩ := ih hdirect (hnul' hnul) (fun m hm => hplain m (hbelow.subset hm)) (fun k hk => hclear k (hk.trans hbelow))
        hfuel'
      have hgrows := (ensureDirs_go_addsDirs fuel fs parent).grows
      rcases hgo : ensureDirs.go fuel fs parent with ⟨result, gs⟩
      rw [hgo] at hok hat hgrows
      dsimp only at hok hat hgrows
      subst hok
      have hlast : ¬p.named <+: parent.named := fun hle => (habove.mp hle).2 rfl
      rw [ensureDirs_go_below hp.nonempty hnot hup hgo]
      obtain ⟨hmade, hat'⟩ := ensureDir_direct hp hnul hplain (hfree.grows hgrows)
        (fun k hk hne => by rw [List.nil_append, hat, if_pos (habove.mpr ⟨hk, hne⟩)])
        (by rw [hat, if_neg hlast]; exact hclear _ (List.prefix_refl _))
      refine ⟨hmade, fun k => ?_⟩
      rw [hat', hat]
      by_cases hk : k <+: parent.named
      · have hpre := hk.trans hbelow
        rw [if_pos hpre, if_pos hpre]
      · rw [if_neg hk]
    · have habove : fs.Above [] p.named (· = some .directory) := fun k hk hne =>
        (hclear k hk).resolve_left fun hnone => hmissing ⟨k, hk, hne, hnone⟩
      have hmade := makeDir_direct hp hnul hplain hfree habove
      rw [ensureDirs_go_alone hp.nonempty (by rw [hmade]; split <;> simp)]
      exact ensureDir_direct hp hnul hplain hfree habove (hclear _ (List.prefix_refl _))

theorem ensureDirs_direct {fs : FileSystem} {p : Path} (hp : p.Direct) (hnul : 0 ∉ p.bytes)
    (hplain : ∀ m ∈ p.named, Plain m) (hfree : fs.LinkFree [])
    (hclear : ∀ k, k <+: p.named → fs.at? k = none ∨ fs.at? k = some .directory) :
    (fs.ensureDirs p).1 = .ok () ∧
      ∀ k, (fs.ensureDirs p).2.at? k = if k <+: p.named then some .directory else fs.at? k :=
  ensureDirs_go_direct hp hnul hplain hfree hclear p.length_named_le

end FileSystem
end ApiStencil
