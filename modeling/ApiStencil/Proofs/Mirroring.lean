import ApiStencil.Proofs.Straight
/-!
The way from a directory down to a path. There is one just when names alone follow the components of the directory.
Any other relative path that leads there has the same components, or the same behind a dot at its front, which does
not show below the directory.
-/
set_option autoImplicit false

namespace ApiStencil
namespace Path

/-- Only a slash or a lone dot at the front is no piece. -/
theorem exists_piece_of_tail {p : Path} {c : Component} (h : c ∈ p.components.tail) : ∃ b, c = pieceComponent b := by
  have hinner : c ∈ p.named.map pieceComponent := by
    unfold components at h
    split at h
    · exact h
    · split at h
      · exact h
      · exact List.mem_of_mem_tail h
  obtain ⟨b, -, hb⟩ := List.mem_map.mp hinner
  exact ⟨b, hb.symm⟩

theorem components_ne_nil {p : Path} (h : p.isEmpty = false) : p.components ≠ [] := by
  intro hnone
  have hrel : p.isAbsolute = false := by
    rw [← Bool.not_eq_true, isAbsolute_iff, hnone]
    exact List.not_mem_nil
  obtain ⟨b, bs, hb⟩ := List.exists_cons_of_ne_nil (pieces_ne_nil p)
  have hnonempty : b ≠ [] := by
    rintro rfl
    cases bs with
    | nil =>
      rw [← ofPieces_pieces p, hb] at h
      cases h
    | cons c cs =>
      rw [isAbsolute_iff_pieces.mpr ⟨c :: cs, by simp, hb⟩] at hrel
      cases hrel
  unfold components at hnone
  rw [hrel, hb, named, hb] at hnone
  by_cases hdot : b = [dot]
  · simp [hdot] at hnone
  · simp [hdot, (isBlank_eq_false_iff hnonempty).mpr hdot] at hnone

/-- A name among the components is no dot and no pair of dots. -/
theorem name_of_mem_components {p : Path} {b : Bytes} (h : .name b ∈ p.components) : b ≠ [dot] ∧ b ≠ [dot, dot] := by
  have hinner : .name b ∈ p.named.map pieceComponent := by
    unfold components at h
    dsimp only at h
    split at h
    · simpa using h
    · split at h
      · simpa using h
      · exact h
  obtain ⟨piece, hpiece, he⟩ := List.mem_map.mp hinner
  have hblank := (List.mem_filter.mp hpiece).2
  unfold pieceComponent at he
  split at he
  · cases he
  · rename_i hparent
    obtain rfl := Component.name.inj he
    exact ⟨by rintro rfl; simp [isBlank] at hblank, by simpa using hparent⟩

/-- A relative path adds its pieces to the path that it is joined to, as long as it puts no dot at the front. -/
theorem components_join_of_head {p q : Path} (hrel : q.isAbsolute = false)
    (hdot : (p.join q).pieces.head? = some [dot] ↔ p.pieces.head? = some [dot]) :
    (p.join q).components = p.components ++ q.named.map pieceComponent := by
  unfold components
  rw [isAbsolute_join hrel, named_join_of_relative hrel, List.map_append]
  by_cases hd : p.pieces.head? = some [dot]
  · simp only [hd, hdot.mpr hd]
    split <;> rfl
  · simp only [beq_eq_false_iff_ne.mpr hd, beq_eq_false_iff_ne.mpr (mt hdot.mp hd)]
    split <;> rfl

/-- Below a path that is not empty it does not matter whether a relative path begins with a dot. -/
theorem components_join_below {p q : Path} (hp : p.isEmpty = false) (hrel : q.isAbsolute = false) :
    (p.join q).components = p.components ++ q.named.map pieceComponent := by
  refine components_join_of_head hrel ?_
  obtain ⟨hne, hstem⟩ := stem_of_nonempty (p := p) (by simpa [isEmpty] using hp)
  rw [pieces_join hrel, ← hstem, List.head?_append, Option.or_of_isSome (by simpa using hne)]

/-- A relative path that does not begin with a dot adds its pieces to any path. -/
theorem components_join_relative (p : Path) {q : Path} (hrel : q.isAbsolute = false)
    (hhead : q.pieces.head? ≠ some [dot]) : (p.join q).components = p.components ++ q.named.map pieceComponent := by
  by_cases he : p.isEmpty = true
  · refine components_join_of_head hrel ?_
    have hbytes : p.bytes = [] := by simpa [isEmpty] using he
    rw [pieces_join hrel]
    simpa [stem, isEmpty, hbytes, pieces, splitSlash] using hhead
  · exact components_join_below (by simpa using he) hrel

theorem filter_trimLeft (ps : List Bytes) :
    (trimLeft ps).filter (fun b => !isBlank b) = ps.filter fun b => !isBlank b := by
  induction ps with
  | nil => rfl
  | cons p ps ih =>
    rw [trimLeft]
    cases hp : isBlank p with
    | true =>
      rw [List.dropWhile_cons_of_pos hp, List.filter_cons_of_neg (by simp [hp])]
      exact ih
    | false => rw [List.dropWhile_cons_of_neg (by simp [hp])]

theorem filter_trimRight (ps : List Bytes) :
    (trimRight ps).filter (fun b => !isBlank b) = ps.filter fun b => !isBlank b := by
  rw [trimRight, List.filter_reverse, filter_trimLeft, List.filter_reverse, List.reverse_reverse]

theorem prefix_trimRight (ps : List Bytes) : trimRight ps <+: ps := by
  rw [← List.reverse_suffix, trimRight, List.reverse_reverse]
  exact List.dropWhile_suffix _

theorem trimLeft_cases (ps : List Bytes) : trimLeft ps = [] ∨ ∃ b bs, trimLeft ps = b :: bs ∧ isBlank b = false := by
  cases h : trimLeft ps with
  | nil => exact .inl rfl
  | cons b bs =>
    refine .inr ⟨b, bs, rfl, ?_⟩
    have hne : ps.dropWhile isBlank ≠ [] := by
      rw [← trimLeft.eq_1, h]
      exact List.cons_ne_nil b bs
    have hhead : (ps.dropWhile isBlank).head hne = b := by
      have hcons : ps.dropWhile isBlank = b :: bs := h
      simp only [hcons, List.head_cons]
    exact hhead ▸ List.head_dropWhile_not isBlank hne

theorem trimRight_cases (ps : List Bytes) : trimRight ps = [] ∨ ∃ bs b, trimRight ps = bs ++ [b] ∧ isBlank b = false := by
  rw [trimRight]
  rcases trimLeft_cases ps.reverse with h | ⟨b, bs, h, hb⟩
  · exact .inl (by rw [h]; rfl)
  · exact .inr ⟨bs.reverse, b, by rw [h]; simp, hb⟩

theorem filter_dropNamed (n : Nat) (ps : List Bytes) :
    (dropNamed n ps).filter (fun b => !isBlank b) = (ps.filter fun b => !isBlank b).drop n := by
  induction n generalizing ps with
  | zero => rfl
  | succ n ih =>
    rw [dropNamed, ih]
    rcases trimLeft_cases ps with h | ⟨b, bs, h, hb⟩
    · rw [← filter_trimLeft ps, h]
      simp
    · rw [← filter_trimLeft ps, h, List.filter_cons_of_pos (by simp [hb])]
      simp

theorem dropNamed_subset (n : Nat) (ps : List Bytes) : dropNamed n ps ⊆ ps := by
  induction n generalizing ps with
  | zero => exact List.Subset.refl _
  | succ n ih =>
    exact List.Subset.trans (ih _) (List.Subset.trans (List.drop_subset _ _) (List.dropWhile_suffix _).subset)

/-- Pieces of a relative path, none of them blank at either end. -/
structure Trimmed (ps : List Bytes) : Prop where
  noSlash : ∀ b ∈ ps, slash ∉ b
  head : ps.head?.all fun b => !isBlank b

namespace Trimmed

variable {ps : List Bytes} (h : Trimmed ps)

include h

theorem named_ofPieces : (ofPieces ps).named = ps.filter fun b => !isBlank b := by
  cases ps with
  | nil => rfl
  | cons p ps => rw [named, pieces_ofPieces (by simp) h.noSlash]

theorem head?_pieces : (ofPieces ps).pieces.head? ≠ some [dot] := by
  cases ps with
  | nil => simp [ofPieces, pieces, List.intercalate, splitSlash]
  | cons p ps =>
    rw [pieces_ofPieces (by simp) h.noSlash]
    rintro hp
    cases hp
    simpa [isBlank] using h.head

theorem isAbsolute_ofPieces : (ofPieces ps).isAbsolute = false := by
  cases ps with
  | nil => rfl
  | cons p ps =>
    rw [← Bool.not_eq_true, isAbsolute_iff_pieces]
    rintro ⟨qs, -, hqs⟩
    rw [pieces_ofPieces (by simp) h.noSlash] at hqs
    cases hqs
    simpa [isBlank] using h.head

theorem isEmpty_ofPieces (hne : ps ≠ []) : (ofPieces ps).isEmpty = false := by
  cases hp : (ofPieces ps).isEmpty with
  | false => rfl
  | true =>
    have hpieces := pieces_ofPieces hne h.noSlash
    rw [pieces, List.isEmpty_iff.mp hp] at hpieces
    have hhead := h.head
    rw [← hpieces] at hhead
    cases hhead

theorem components_ofPieces : (ofPieces ps).components = (ps.filter fun b => !isBlank b).map pieceComponent := by
  rw [components, h.isAbsolute_ofPieces, beq_eq_false_iff_ne.mpr h.head?_pieces, h.named_ofPieces]
  rfl

theorem front {qs : List Bytes} (hqs : qs <+: ps) : Trimmed qs := by
  refine ⟨fun b hb => h.noSlash b (hqs.subset hb), ?_⟩
  cases qs with
  | nil => rfl
  | cons q qs =>
    obtain ⟨rest, rfl⟩ := hqs
    exact h.head

end Trimmed

theorem trimmed_dropNamed (n : Nat) (p : Path) : Trimmed (trimRight (trimLeft (dropNamed n p.pieces))) := by
  have hleft : Trimmed (trimLeft (dropNamed n p.pieces)) := by
    refine ⟨fun b hb => slash_notMem_pieces (dropNamed_subset _ _ ((List.dropWhile_suffix _).subset hb)), ?_⟩
    rcases trimLeft_cases (dropNamed n p.pieces) with he | ⟨b, bs, he, hb⟩
    · simp [he]
    · simp [he, hb]
  exact hleft.front (prefix_trimRight _)

theorem filter_dropped (n : Nat) (p : Path) :
    (trimRight (trimLeft (dropNamed n p.pieces))).filter (fun b => !isBlank b) = p.named.drop n := by
  rw [filter_trimRight, filter_trimLeft, filter_dropNamed]
  rfl

theorem trimRight_trimRight (ps : List Bytes) : trimRight (trimRight ps) = trimRight ps := by
  rcases trimRight_cases ps with he | ⟨bs, b, he, hb⟩
  · rw [he]
    rfl
  · rw [he]
    exact trimRight_append_blanks hb (by simp)

theorem map_piece? {cs : List Component} (h : ∀ x ∈ cs, ∃ b, x = pieceComponent b) :
    (cs.filterMap Component.piece?).map pieceComponent = cs := by
  induction cs with
  | nil => rfl
  | cons x cs ih =>
    obtain ⟨b, rfl⟩ := h x (by simp)
    rw [List.filterMap_cons_some (piece?_pieceComponent b), List.map_cons, ih fun y hy => h y (by simp [hy])]

/-- The components of a path behind those of its root are its pieces behind those of the root. -/
theorem components_behind {root p : Path} (hne : root.components ≠ []) {cs : List Component}
    (h : root.components ++ cs = p.components) : (p.named.drop root.named.length).map pieceComponent = cs := by
  have hpieces : ∀ x ∈ cs, ∃ b, x = pieceComponent b := by
    obtain ⟨x, xs, hx⟩ := List.exists_cons_of_ne_nil hne
    intro y hy
    refine exists_piece_of_tail (p := p) ?_
    rw [← h, hx]
    simp [hy]
  have hnamed : p.named.drop root.named.length = cs.filterMap Component.piece? := by
    rw [named_eq p, ← h, List.filterMap_append, ← named_eq, List.drop_left]
  rw [hnamed, map_piece? hpieces]

/-- What leads from a root down to a path below it. -/
theorem stripRoot?_of_startsWith {root p rel : Path} (hroot : root.isEmpty = false) (h : p.stripRoot? root = some rel) :
    ∃ ps, Trimmed ps ∧ trimRight ps = ps ∧ rel = ofPieces ps ∧ p.components = root.components ++ rel.components := by
  have hne := components_ne_nil hroot
  unfold stripRoot? at h
  split at h
  · cases h
  · rename_i hstarts
    rw [if_neg (by simpa using hne)] at h
    obtain rfl := Option.some.inj h
    have htrimmed := trimmed_dropNamed root.named.length p
    refine ⟨_, htrimmed, trimRight_trimRight _, rfl, ?_⟩
    -- dropping pieces by their number drops the components of the root
    obtain ⟨cs, hcs⟩ : root.components <+: p.components := by
      rw [startsWith] at hstarts
      simpa using hstarts
    rw [htrimmed.components_ofPieces, filter_dropped, components_behind hne hcs, hcs]

theorem relativeTo_eq_ok {root p rel : Path} (h : relativeTo root p = .ok rel) :
    p.stripRoot? root = some rel ∧ .parent ∉ rel.components := by
  unfold relativeTo at h
  cases hstrip : p.stripRoot? root with
  | none =>
    rw [hstrip] at h
    cases h
  | some rel' =>
    rw [hstrip] at h
    dsimp only at h
    split at h
    · cases h
    · rename_i hparent
      obtain rfl := Except.ok.inj h
      exact ⟨rfl, by simpa using hparent⟩

/-- The way down from a root has only names in it. -/
theorem relativeTo_parts {root p rel : Path} (hroot : root.isEmpty = false) (h : relativeTo root p = .ok rel) :
    ∃ ps, Trimmed ps ∧ trimRight ps = ps ∧ rel = ofPieces ps ∧
      rel.components = (ps.filter fun b => !isBlank b).map .name ∧
      p.components = root.components ++ rel.components := by
  obtain ⟨hstrip, hparent⟩ := relativeTo_eq_ok h
  obtain ⟨ps, htrimmed, hright, rfl, hp⟩ := stripRoot?_of_startsWith hroot hstrip
  have hcomponents := htrimmed.components_ofPieces
  refine ⟨ps, htrimmed, hright, rfl, ?_, hp⟩
  rw [hcomponents]
  refine List.map_congr_left fun b hb => ?_
  unfold pieceComponent
  split
  · rename_i hdots
    refine absurd ?_ hparent
    rw [hcomponents, List.mem_map]
    exact ⟨b, hb, by rw [pieceComponent, if_pos hdots]⟩
  · rfl

/-- A relative path without a step up that leads from `root` to `p`. -/
structure LeadsTo (root p rel : Path) : Prop where
  relative : rel.isAbsolute = false
  noParent : .parent ∉ rel.components
  arrives : (root.join rel).same p = true

instance (root p rel : Path) : Decidable (LeadsTo root p rel) :=
  decidable_of_iff (rel.isAbsolute = false ∧ .parent ∉ rel.components ∧ (root.join rel).same p = true)
    ⟨fun ⟨h1, h2, h3⟩ => ⟨h1, h2, h3⟩, fun ⟨h1, h2, h3⟩ => ⟨h1, h2, h3⟩⟩

theorem relativeTo_cases (root p : Path) :
    (∃ rel, relativeTo root p = .ok rel) ∨ relativeTo root p = .error (.outsideRoot p root) := by
  unfold relativeTo
  cases p.stripRoot? root with
  | none => exact .inr rfl
  | some rel =>
    dsimp only
    split
    · exact .inr rfl
    · exact .inl ⟨rel, rfl⟩

/-- A relative path shows its pieces, behind a dot if it begins with one. -/
theorem components_of_relative {q : Path} (hrel : q.isAbsolute = false) :
    q.components = q.named.map pieceComponent ∨ q.components = .current :: q.named.map pieceComponent := by
  unfold components
  rw [hrel]
  dsimp only
  by_cases hdot : (q.pieces.head? == some [dot]) = true
  · exact .inr (by simp [hdot])
  · exact .inl (by simp [hdot])

section Relating

variable {root p : Path} (hroot : root.isEmpty = false)

include hroot

/-- The way down is found to all that is named below the root. -/
theorem relativeTo_of_components {names : List Bytes} (h : p.components = root.components ++ names.map .name) :
    ∃ rel, relativeTo root p = .ok rel := by
  have hstarts : p.startsWith root = true := by
    rw [startsWith, h]
    simp
  obtain ⟨rel, hrel⟩ : ∃ rel, p.stripRoot? root = some rel := by
    unfold stripRoot?
    rw [hstarts, if_neg (by simp), if_neg (by simpa using components_ne_nil hroot)]
    exact ⟨_, rfl⟩
  obtain ⟨-, -, -, -, hcomponents⟩ := stripRoot?_of_startsWith hroot hrel
  rw [hcomponents, List.append_cancel_left_eq] at h
  refine ⟨rel, ?_⟩
  simp [relativeTo, hrel, h]

theorem relativeTo_ok_iff :
    (∃ rel, relativeTo root p = .ok rel) ↔ ∃ names : List Bytes, p.components = root.components ++ names.map .name := by
  constructor
  · rintro ⟨rel, h⟩
    obtain ⟨ps, -, -, -, hnames, hp⟩ := relativeTo_parts hroot h
    exact ⟨ps.filter fun b => !isBlank b, by rw [hp, hnames]⟩
  · rintro ⟨names, h⟩
    exact relativeTo_of_components hroot h

/-- The paths that lead where the found one does have its components, alone or behind a dot. -/
theorem leadsTo_iff {rel : Path} (h : relativeTo root p = .ok rel) {q : Path} :
    LeadsTo root p q ↔ q.components = rel.components ∨ q.components = .current :: rel.components := by
  obtain ⟨ps, htrimmed, -, rfl, hnames, hp⟩ := relativeTo_parts hroot h
  have hnamed : (ofPieces ps).components = (ofPieces ps).named.map pieceComponent := by
    rw [htrimmed.components_ofPieces, htrimmed.named_ofPieces]
  constructor
  · intro hq
    have harrives := beq_iff_eq.mp hq.arrives
    rw [components_join_below hroot hq.relative, hp, List.append_cancel_left_eq] at harrives
    rw [← harrives]
    exact components_of_relative hq.relative
  · intro hq
    -- what the components tell of `q` is not changed by a dot before them
    have hmem (c : Component) (hc : c ∈ q.components) : c = .current ∨ c ∈ (ofPieces ps).components := by
      rcases hq with hq | hq
      · exact .inr (hq ▸ hc)
      · rw [hq] at hc
        exact List.mem_cons.mp hc
    have hsame : q.named = (ofPieces ps).named := by
      rw [named_eq, named_eq]
      rcases hq with hq | hq
      · rw [hq]
      · rw [hq]
        rfl
    have hrelative : q.isAbsolute = false := by
      rw [← Bool.not_eq_true, isAbsolute_iff]
      intro hroot
      simpa [hnames] using hmem _ hroot
    refine ⟨hrelative, fun hparent => ?_, ?_⟩
    · simpa [hnames] using hmem _ hparent
    · rw [same, beq_iff_eq, components_join_below hroot hrelative, hsame, ← hnamed, hp]

end Relating

/-- From a root that is not empty a way is found just to what is named below it. The way that is found leads there and
begins with no dot, and besides it only the way with a dot before it does. All else is told to be outside. -/
theorem relativeTo_leads {root p : Path} (hroot : root.isEmpty = false) :
    ((∃ rel, relativeTo root p = .ok rel) ↔ ∃ names : List Bytes, p.components = root.components ++ names.map .name) ∧
      (∀ rel, relativeTo root p = .ok rel → LeadsTo root p rel ∧ .current ∉ rel.components ∧
        ∀ q, LeadsTo root p q ↔ q.components = rel.components ∨ q.components = .current :: rel.components) ∧
      ((¬∃ rel, relativeTo root p = .ok rel) → relativeTo root p = .error (.outsideRoot p root)) := by
  refine ⟨relativeTo_ok_iff hroot, fun rel h => ⟨?_, ?_, fun q => leadsTo_iff hroot h⟩, fun h => ?_⟩
  · exact (leadsTo_iff hroot h).mpr (.inl rfl)
  · obtain ⟨ps, -, -, -, hnames, -⟩ := relativeTo_parts hroot h
    simp [hnames]
  · exact (relativeTo_cases root p).resolve_left h

/-- Both are spelled with more than their names, and one name below the root begins with two dots. -/
theorem respelled_leads : (ofString "a//b/.").isEmpty = false ∧
    relativeTo (ofString "a//b/.") (ofString "a/./b//..c/./d/") = .ok (ofString "..c/./d") ∧
    LeadsTo (ofString "a//b/.") (ofString "a/./b//..c/./d/") (ofString "..c/./d") ∧
    ∀ q, LeadsTo (ofString "a//b/.") (ofString "a/./b//..c/./d/") q ↔
      q.components = (ofString "..c/./d").components ∨ q.components = .current :: (ofString "..c/./d").components := by
  have hroot : (ofString "a//b/.").isEmpty = false := rfl
  have hrel : relativeTo (ofString "a//b/.") (ofString "a/./b//..c/./d/") = .ok (ofString "..c/./d") := rfl
  obtain ⟨hleads, -, honly⟩ := (relativeTo_leads hroot).2.1 _ hrel
  exact ⟨hroot, hrel, hleads, honly⟩

/-- A way with a dot before it leads to the same place and is not the way that is found. -/
theorem dotted_leads : (ofString "a").isEmpty = false ∧
    ∃ rel q, relativeTo (ofString "a") (ofString "a/./b") = .ok rel ∧
      LeadsTo (ofString "a") (ofString "a/./b") q ∧ q.same rel = false :=
  ⟨rfl, ofString "b", ofString "./b", rfl, by decide, by decide⟩

end Path
end ApiStencil

/-!
The output of a template goes by the names of the template, below the output root instead of the template root.
Only the last name is another one, and it is put in as a piece of a path: a dot stands for nothing there, and two
dots lead back up.
-/

namespace ApiStencil
namespace Path

/-- The path above the last name, which takes another name instead. -/
theorem withFileName_of_trimmed {ps names : List Bytes} {last : Bytes} (h : Trimmed ps) (hright : trimRight ps = ps)
    (hnamed : (ps.filter fun b => !isBlank b) = names ++ [last]) (hlast : last ≠ [dot, dot]) (name : Bytes) :
    ∃ qs, Trimmed qs ∧ (qs.filter fun b => !isBlank b) = names ∧
      (ofPieces ps).withFileName name = (ofPieces qs).join ⟨name⟩ := by
  rcases trimRight_cases ps with he | ⟨bs, b, he, hb⟩
  · rw [← hright, he] at hnamed
    simp at hnamed
  · rw [hright] at he
    have hsplit := hnamed
    rw [he, List.filter_append, List.filter_cons_of_pos (by simp [hb])] at hsplit
    obtain ⟨hfront, hb'⟩ := List.append_inj' hsplit rfl
    obtain rfl := List.singleton_inj.mp hb'
    have hfront' : ((trimRight bs).filter fun b => !isBlank b) = names := by rw [filter_trimRight, hfront]
    have htrimmed : Trimmed (trimRight bs) := h.front ((prefix_trimRight bs).trans (he ▸ List.prefix_append bs [b]))
    have hpieces : (ofPieces ps).pieces = ps := pieces_ofPieces (by simp [he]) h.noSlash
    have hcomponents : (ofPieces ps).components = names.map pieceComponent ++ [.name b] := by
      rw [h.components_ofPieces, hnamed, List.map_append, List.map_singleton, pieceComponent,
        if_neg (by simpa using hlast)]
    have habove : ofPieces (trimRight (trimRight (ofPieces ps).pieces).dropLast) = ofPieces (trimRight bs) := by
      rw [hpieces, hright, he, List.dropLast_concat]
    have hparent : (ofPieces ps).parent? = some (ofPieces (trimRight bs)) := by
      unfold parent?
      rw [hcomponents, List.getLast?_concat, habove]
      by_cases hnil : trimRight bs = []
      · rw [hnil] at hfront' ⊢
        obtain rfl : [] = names := hfront'
        have hempty : (ofPieces []).isEmpty = true := rfl
        simp [h.isAbsolute_ofPieces, hempty]
        rfl
      · simp [htrimmed.isEmpty_ofPieces hnil]
    refine ⟨trimRight bs, htrimmed, hfront', ?_⟩
    rw [withFileName, hparent, fileName?, hcomponents, List.getLast?_concat]

/-- A text without a marker at its end, if it has one. -/
def Unmarked (ext name kept : String) : Prop :=
  name.toList = kept.toList ++ '.' :: ext.toList ∨ ¬ '.' :: ext.toList <:+ name.toList ∧ kept = name

theorem dropText?_eq_some_iff {pat cs rest : List Char} : Text.dropText? pat cs = some rest ↔ cs = pat ++ rest := by
  induction pat generalizing cs with
  | nil => simp [Text.dropText?, eq_comm]
  | cons p pat ih =>
    cases cs with
    | nil => simp [Text.dropText?]
    | cons c cs =>
      rw [Text.dropText?]
      by_cases hp : p = c
      · simp [hp, ih]
      · simp [hp, Ne.symm hp]

theorem unmarked_withoutMarker (name ext : String) : Unmarked ext name (withoutMarker name ext) := by
  have hmarker : ("." ++ ext).toList = '.' :: ext.toList := by simp
  unfold withoutMarker
  rw [hmarker]
  dsimp only
  split
  · rename_i rest h
    left
    have hrev := congrArg List.reverse (dropText?_eq_some_iff.mp h)
    simpa using hrev
  · rename_i h
    right
    refine ⟨?_, rfl⟩
    rintro ⟨kept, hkept⟩
    have hdrop : Text.dropText? ('.' :: ext.toList).reverse name.toList.reverse = some kept.reverse :=
      dropText?_eq_some_iff.mpr (by rw [← hkept, List.reverse_append])
    rw [h] at hdrop
    cases hdrop

/-- What is left of a name without a slash has none. -/
theorem Unmarked.slash_notMem {ext name kept : String} (h : Unmarked ext name kept)
    (hname : slash ∉ Utf8.encode name) : slash ∉ Utf8.encode kept := by
  rcases h with h | ⟨-, rfl⟩
  · intro hmem
    refine hname ?_
    rw [Utf8.encode, h, List.flatMap_append]
    exact List.mem_append_left _ hmem
  · exact hname

theorem encode_ne_nil {s : String} (h : s.isEmpty = false) : Utf8.encode s ≠ [] := by
  intro he
  obtain rfl := Utf8.encode_inj (s := s) (t := "") he
  cases h

theorem outputOf_eq_ok {root p out q : Path} {ext : String} (h : outputOf root p out ext = .ok q) :
    ∃ rel last name, relativeTo root p = .ok rel ∧ rel.fileName? = some last ∧ Utf8.decode? last = some name ∧
      (withoutMarker name ext).isEmpty = false ∧
      q = out.join (rel.withFileName (Utf8.encode (withoutMarker name ext))) := by
  unfold outputOf at h
  cases hrel : relativeTo root p with
  | error e =>
    rw [hrel] at h
    cases h
  | ok rel =>
    rw [hrel] at h
    dsimp only at h
    cases hname : rel.fileName?.bind Utf8.decode? with
    | none =>
      rw [hname] at h
      cases h
    | some name =>
      rw [hname] at h
      dsimp only at h
      split at h
      · cases h
      · rename_i hkept
        obtain ⟨last, hlast, hdecode⟩ := Option.bind_eq_some_iff.mp hname
        exact ⟨rel, last, name, rfl, hlast, hdecode, by simpa using hkept, (Except.ok.inj h).symm⟩

theorem fileName?_eq_some {p : Path} {last : Bytes} (h : p.fileName? = some last) :
    p.components.getLast? = some (.name last) := by
  unfold fileName? at h
  split at h
  · rename_i bs hbs
    rw [hbs, Option.some.inj h]
  · cases h

/-- An output stands where the names above the template lead, by what is left of its name. -/
theorem outputOf_parts {root p out q : Path} {ext : String} (hroot : root.isEmpty = false)
    (h : outputOf root p out ext = .ok q) :
    ∃ names last name kept qs, p.components = root.components ++ (names ++ [last]).map .name ∧
      Utf8.decode? last = some name ∧ Unmarked ext name kept ∧ kept.isEmpty = false ∧ slash ∉ Utf8.encode kept ∧
      Trimmed qs ∧ (qs.filter fun b => !isBlank b) = names ∧
      q = out.join ((ofPieces qs).join ⟨Utf8.encode kept⟩) := by
  obtain ⟨rel, last, name, hrel, hlast, hname, hkept, rfl⟩ := outputOf_eq_ok h
  obtain ⟨ps, htrimmed, hright, rfl, hnames, hp⟩ := relativeTo_parts hroot hrel
  obtain ⟨front, hfront⟩ := List.getLast?_eq_some_iff.mp (fileName?_eq_some hlast)
  rw [hnames] at hfront
  obtain ⟨names, lasts, hsplit, rfl, hlasts⟩ := List.map_eq_append_iff.mp hfront
  obtain ⟨last', rfl, hlast'⟩ := List.map_eq_singleton_iff.mp hlasts
  obtain rfl := Component.name.inj hlast'
  have hmem : last' ∈ ps.filter fun b => !isBlank b := by simp [hsplit]
  have hdots : last' ≠ [dot, dot] := (name_of_mem_components (p := ofPieces ps) (by simp [hnames, hsplit])).2
  have hslash : slash ∉ Utf8.encode name := by
    rw [Utf8.encode_of_decode? hname]
    exact htrimmed.noSlash last' (List.mem_filter.mp hmem).1
  obtain ⟨qs, hqs, hfilter, hother⟩ := withFileName_of_trimmed htrimmed hright hsplit hdots
    (Utf8.encode (withoutMarker name ext))
  have hunmarked := unmarked_withoutMarker name ext
  exact ⟨names, last', name, withoutMarker name ext, qs, by rw [hp, hnames, hsplit], hname, hunmarked, hkept,
    hunmarked.slash_notMem hslash, hqs, hfilter, by rw [hother]⟩

theorem named_of_noSlash {b : Bytes} (h : slash ∉ b) : (⟨b⟩ : Path).named = [b].filter fun b => !isBlank b := by
  rw [named, pieces, splitSlash_of_notMem h]

section Output

variable (out : Path) {qs : List Bytes} (hqs : Trimmed qs) {kept : Bytes} (hslash : slash ∉ kept)

include hqs hslash

theorem named_output : (out.join ((ofPieces qs).join ⟨kept⟩)).named =
    out.named ++ ((qs.filter fun b => !isBlank b) ++ [kept].filter fun b => !isBlank b) := by
  have hrel := isAbsolute_of_noSlash hslash
  rw [named_join_of_relative ((isAbsolute_join hrel).trans hqs.isAbsolute_ofPieces), named_join_of_relative hrel,
    hqs.named_ofPieces, named_of_noSlash hslash]

theorem components_output (hdot : kept ≠ [dot]) (hne : kept ≠ []) :
    (out.join ((ofPieces qs).join ⟨kept⟩)).components =
      out.components ++ ((qs.filter fun b => !isBlank b) ++ [kept]).map pieceComponent := by
  have hrel := isAbsolute_of_noSlash hslash
  have hhead : ((ofPieces qs).join ⟨kept⟩).pieces.head? ≠ some [dot] := by
    rw [pieces_join hrel, pieces, splitSlash_of_notMem hslash]
    by_cases he : (ofPieces qs).bytes = []
    · simpa [stem, isEmpty, he] using hdot
    · obtain ⟨hstem, hsame⟩ := stem_of_nonempty he
      rw [List.head?_append, Option.or_of_isSome (by simpa using hstem), hsame]
      exact hqs.head?_pieces
  have hnamed : ((ofPieces qs).join ⟨kept⟩).named = (qs.filter fun b => !isBlank b) ++ [kept] := by
    rw [named_join_of_relative hrel, hqs.named_ofPieces, named_of_noSlash hslash,
      List.filter_cons_of_pos (by simpa using (isBlank_eq_false_iff hne).mpr hdot)]
    rfl
  rw [components_join_relative out ((isAbsolute_join hrel).trans hqs.isAbsolute_ofPieces) hhead, hnamed]

end Output

/-- The output goes on from its root just as the template does, with what is left of the name in the end, unless that
is a dot, which adds no name, or two dots, which lead back up. -/
theorem outputOf_mirrors {root p out q : Path} {ext : String} (hroot : root.isEmpty = false)
    (h : outputOf root p out ext = .ok q) :
    ∃ names last name kept, p.components = root.components ++ (names ++ [last]).map .name ∧
      Utf8.decode? last = some name ∧ Unmarked ext name kept ∧
      (q.components = out.components ++ (names ++ [Utf8.encode kept]).map .name ↔ kept ≠ "." ∧ kept ≠ "..") ∧
      (kept = "." → q.named = out.named ++ names) ∧
      (kept = ".." → q.components = out.components ++ names.map .name ++ [.parent]) := by
  obtain ⟨names, last, name, kept, qs, hp, hname, hunmarked, hkept, hslash, hqs, hnames, rfl⟩ := outputOf_parts hroot h
  have hproper : names.map pieceComponent = names.map .name := by
    refine List.map_congr_left fun n hn => ?_
    have hmem : .name n ∈ p.components := by
      rw [hp]
      simp [hn]
    rw [pieceComponent, if_neg (by simpa using (name_of_mem_components hmem).2)]
  have hcomponents (hdot : kept ≠ ".") := components_output out hqs hslash
    (fun he => hdot (Utf8.encode_inj (t := ".") he)) (encode_ne_nil hkept)
  rw [hnames] at hcomponents
  refine ⟨names, last, name, kept, hp, hname, hunmarked, ⟨fun hq => ?_, fun hneither => ?_⟩, ?_, ?_⟩
  · have hmem : .name (Utf8.encode kept) ∈ (out.join ((ofPieces qs).join ⟨Utf8.encode kept⟩)).components := by
      rw [hq]
      simp
    obtain ⟨h1, h2⟩ := name_of_mem_components hmem
    exact ⟨fun he => h1 (by rw [he]; rfl), fun he => h2 (by rw [he]; rfl)⟩
  · obtain ⟨hdot, hdots⟩ := hneither
    have hlast : pieceComponent (Utf8.encode kept) = .name (Utf8.encode kept) := by
      rw [pieceComponent, if_neg]
      intro he
      exact hdots (Utf8.encode_inj (t := "..") (beq_iff_eq.mp he))
    rw [hcomponents hdot, List.map_append, hproper, List.map_append, List.map_singleton, List.map_singleton, hlast]
  · rintro rfl
    rw [named_output out hqs hslash, hnames]
    exact congrArg _ (List.append_nil names)
  · rintro rfl
    rw [hcomponents (by decide), List.map_append, hproper, List.append_assoc]
    rfl

/-- A template whose name holds dots and ends in the marker twice. -/
theorem nested_mirrors : (ofString "/a").isEmpty = false ∧
    outputOf (ofString "/a") (ofString "/a//b.d/./x.tmpl.tmpl") (ofString "c/") "tmpl" = .ok (ofString "c/b.d/x.tmpl") ∧
    ∃ names last name kept,
      (ofString "/a//b.d/./x.tmpl.tmpl").components = (ofString "/a").components ++ (names ++ [last]).map .name ∧
      Utf8.decode? last = some name ∧ Unmarked "tmpl" name kept ∧
      ((ofString "c/b.d/x.tmpl").components =
        (ofString "c/").components ++ (names ++ [Utf8.encode kept]).map .name ↔ kept ≠ "." ∧ kept ≠ "..") ∧
      (kept = "." → (ofString "c/b.d/x.tmpl").named = (ofString "c/").named ++ names) ∧
      (kept = ".." → (ofString "c/b.d/x.tmpl").components =
        (ofString "c/").components ++ names.map .name ++ [.parent]) :=
  ⟨rfl, rfl, outputOf_mirrors rfl rfl⟩

/-- The output of a template that is named by two dots and the marker lies outside of the output root, and that of one
named by a single dot is the directory of the template. -/
theorem dots_not_mirrored :
    (∃ q, outputOf (ofString "/a") (ofString "/a/...tmpl") (ofString "/c") "tmpl" = .ok q ∧
      ∀ names : List Bytes, q.components ≠ (ofString "/c").components ++ names.map .name) ∧
    ∃ q, outputOf (ofString "/a") (ofString "/a/b/..tmpl") (ofString "/c") "tmpl" = .ok q ∧
      q.components = (ofString "/c/b").components := by
  refine ⟨⟨ofString "/c/..", rfl, fun names h => ?_⟩, ofString "/c/b/.", rfl, rfl⟩
  have hparent : Component.parent ∈ (ofString "/c").components ++ names.map .name := by
    rw [← h]
    decide
  rcases List.mem_append.mp hparent with hmem | hmem
  · revert hmem
    decide
  · obtain ⟨_, -, he⟩ := List.mem_map.mp hmem
    cases he

end Path
end ApiStencil
