import ApiStencil.Proofs.Utf8
import ApiStencil.TemplateDir
/-!
Paths and their pieces. A path is its pieces with slashes between them, and joining paths joins their
pieces; so a file below a directory is known by the names that lead to it.
-/
set_option autoImplicit false

namespace ApiStencil
namespace Path

theorem splitSlash_cons_slash (piece bs : Bytes) :
    splitSlash piece (slash :: bs) = piece.reverse :: splitSlash [] bs := by
  simp [splitSlash]

theorem splitSlash_cons_of_ne {b : UInt8} (h : b ≠ slash) (piece bs : Bytes) :
    splitSlash piece (b :: bs) = splitSlash (b :: piece) bs := by
  simp [splitSlash, h]

theorem splitSlash_append {name : Bytes} (h : slash ∉ name) (piece bs : Bytes) :
    splitSlash piece (name ++ bs) = splitSlash (name.reverse ++ piece) bs := by
  induction name generalizing piece with
  | nil => rfl
  | cons b name ih =>
    simp only [List.mem_cons, not_or] at h
    obtain ⟨hb, hname⟩ := h
    rw [List.cons_append, splitSlash_cons_of_ne (Ne.symm hb), ih hname]
    simp

theorem splitSlash_ne_nil (piece bs : Bytes) : splitSlash piece bs ≠ [] := by
  induction bs generalizing piece with
  | nil => simp [splitSlash]
  | cons b bs ih =>
    by_cases hb : b = slash
    · subst hb
      simp [splitSlash_cons_slash]
    · rw [splitSlash_cons_of_ne hb]
      exact ih _

/-- Splitting goes on behind a slash as if nothing had come before it. -/
theorem splitSlash_append_slash (piece bs cs : Bytes) :
    splitSlash piece (bs ++ slash :: cs) = splitSlash piece bs ++ splitSlash [] cs := by
  induction bs generalizing piece with
  | nil => simp [splitSlash_cons_slash, splitSlash]
  | cons b bs ih =>
    by_cases hb : b = slash
    · subst hb
      rw [List.cons_append, splitSlash_cons_slash, splitSlash_cons_slash, ih]
      rfl
    · rw [List.cons_append, splitSlash_cons_of_ne hb, splitSlash_cons_of_ne hb, ih]

theorem splitSlash_of_notMem {name : Bytes} (h : slash ∉ name) : splitSlash [] name = [name] := by
  have := splitSlash_append h [] []
  simpa [splitSlash] using this

theorem pieces_ne_nil (p : Path) : p.pieces ≠ [] := splitSlash_ne_nil [] p.bytes

theorem splitSlash_intercalate (ps : List Bytes) (hne : ps ≠ []) (h : ∀ p ∈ ps, slash ∉ p) :
    splitSlash [] (List.intercalate [slash] ps) = ps := by
  induction ps with
  | nil => exact absurd rfl hne
  | cons p ps ih =>
    cases ps with
    | nil =>
      have : List.intercalate [slash] [p] = p := by simp [List.intercalate]
      rw [this]
      exact splitSlash_of_notMem (h p (by simp))
    | cons q ps =>
      have hi : List.intercalate [slash] (p :: q :: ps) = p ++ slash :: List.intercalate [slash] (q :: ps) := by
        simp [List.intercalate]
      rw [hi, splitSlash_append_slash, splitSlash_of_notMem (h p (by simp)),
        ih (by simp) (fun r hr => h r (List.mem_cons_of_mem _ hr))]
      rfl

theorem pieces_ofPieces {ps : List Bytes} (hne : ps ≠ []) (h : ∀ p ∈ ps, slash ∉ p) : (ofPieces ps).pieces = ps :=
  splitSlash_intercalate ps hne h

theorem intercalate_splitSlash (piece bs : Bytes) :
    List.intercalate [slash] (splitSlash piece bs) = piece.reverse ++ bs := by
  induction bs generalizing piece with
  | nil => simp [splitSlash, List.intercalate]
  | cons b bs ih =>
    by_cases hb : b = slash
    · subst hb
      rw [splitSlash_cons_slash]
      obtain ⟨q, qs, hq⟩ := List.exists_cons_of_ne_nil (splitSlash_ne_nil [] bs)
      have hrest := ih []
      rw [hq] at hrest ⊢
      simp only [List.intercalate, List.intersperse_cons_cons, List.flatten_cons] at hrest ⊢
      rw [hrest]
      simp
    · rw [splitSlash_cons_of_ne hb, ih]
      simp

theorem ofPieces_pieces (p : Path) : ofPieces p.pieces = p := by
  cases p
  simp [ofPieces, pieces, intercalate_splitSlash]

/-- The pieces of a path without the empty one behind a slash at its end. -/
def stem (p : Path) : List Bytes :=
  if p.bytes.getLast? = some slash then p.pieces.dropLast
  else if p.isEmpty then [] else p.pieces

theorem pieces_join {p q : Path} (hq : q.isAbsolute = false) : (p.join q).pieces = p.stem ++ q.pieces := by
  unfold join stem
  rw [hq]
  by_cases he : p.bytes = []
  · simp [isEmpty, he, pieces]
  · by_cases hs : p.bytes.getLast? = some slash
    · obtain ⟨bs, hbs⟩ : ∃ bs, p.bytes = bs ++ [slash] := by
        rw [List.getLast?_eq_some_iff] at hs
        exact hs
      have hp : p.pieces = splitSlash [] bs ++ [[]] := by
        rw [pieces, hbs, splitSlash_append_slash]
        rfl
      simp [isEmpty, hbs, pieces, splitSlash_append_slash, splitSlash]
    · simp [isEmpty, he, hs, pieces, splitSlash_append_slash]

/-- A name as it can stand in a directory. -/
structure IsName (b : Bytes) : Prop where
  nonempty : b ≠ []
  noSlash : slash ∉ b
  notDot : b ≠ [dot]
  notParent : b ≠ [dot, dot]

instance (b : Bytes) : Decidable (IsName b) :=
  decidable_of_iff (b ≠ [] ∧ slash ∉ b ∧ b ≠ [dot] ∧ b ≠ [dot, dot])
    ⟨fun ⟨h1, h2, h3, h4⟩ => ⟨h1, h2, h3, h4⟩, fun ⟨h1, h2, h3, h4⟩ => ⟨h1, h2, h3, h4⟩⟩

theorem IsName.notBlank {b : Bytes} (h : IsName b) : isBlank b = false := by
  simp [isBlank, h.nonempty, h.notDot]

theorem IsName.pieces {b : Bytes} (h : IsName b) : (⟨b⟩ : Path).pieces = [b] := splitSlash_of_notMem h.noSlash

theorem isAbsolute_of_noSlash {b : Bytes} (h : slash ∉ b) : (⟨b⟩ : Path).isAbsolute = false := by
  cases b with
  | nil => rfl
  | cons c b =>
    simp only [List.mem_cons, not_or] at h
    simp [isAbsolute, Ne.symm h.1]

theorem isAbsolute_of_pieces {p : Path} (h : [] ∉ p.pieces) : p.isAbsolute = false := by
  cases hb : p.bytes with
  | nil => simp [isAbsolute, hb]
  | cons b bs =>
    have hne : b ≠ slash := by
      intro he
      subst he
      exact h (by simp [Path.pieces, hb, splitSlash_cons_slash])
    simp [isAbsolute, hb, hne]

theorem isAbsolute_ofPieces_of_parts {ps : List Bytes} (hne : ps ≠ []) (h : ∀ p ∈ ps, p ≠ [] ∧ slash ∉ p) :
    (ofPieces ps).isAbsolute = false := by
  refine isAbsolute_of_pieces fun hm => ?_
  rw [pieces_ofPieces hne fun p hp => (h p hp).2] at hm
  exact (h [] hm).1 rfl

/-- Joining a path that is made of pieces adds these pieces. -/
theorem pieces_join_ofPieces (p : Path) {ps : List Bytes} (hne : ps ≠ []) (h : ∀ b ∈ ps, b ≠ [] ∧ slash ∉ b) :
    (p.join (ofPieces ps)).pieces = p.stem ++ ps := by
  rw [pieces_join (isAbsolute_ofPieces_of_parts hne h), pieces_ofPieces hne fun b hb => (h b hb).2]

theorem IsName.part {b : Bytes} (h : IsName b) : b ≠ [] ∧ slash ∉ b := ⟨h.nonempty, h.noSlash⟩

theorem parts_snoc {names : List Bytes} {last : Bytes} (h : ∀ n ∈ names, IsName n)
    (hlast : last ≠ [] ∧ slash ∉ last) : ∀ n ∈ names ++ [last], n ≠ [] ∧ slash ∉ n := by
  intro n hn
  rcases List.mem_append.mp hn with hn | hn
  · exact (h n hn).part
  · rwa [List.mem_singleton.mp hn]

theorem pieces_of_endsWithSlash {p : Path} (h : p.bytes.getLast? = some slash) :
    ∃ ps, ps ≠ [] ∧ p.pieces = ps ++ [[]] := by
  obtain ⟨bs, hbs⟩ := List.getLast?_eq_some_iff.mp h
  refine ⟨splitSlash [] bs, splitSlash_ne_nil [] bs, ?_⟩
  rw [Path.pieces, hbs, splitSlash_append_slash]
  rfl

theorem filter_stem (p : Path) (keep : Bytes → Bool) (h : keep [] = false) :
    p.stem.filter keep = p.pieces.filter keep := by
  unfold stem
  by_cases hs : p.bytes.getLast? = some slash
  · obtain ⟨ps, -, hps⟩ := pieces_of_endsWithSlash hs
    simp [hs, hps, h]
  · by_cases he : p.bytes = []
    · simp [isEmpty, he, Path.pieces, splitSlash, h]
    · simp [isEmpty, he, hs]

theorem isAbsolute_join {p q : Path} (hq : q.isAbsolute = false) : (p.join q).isAbsolute = p.isAbsolute := by
  unfold join
  rw [hq]
  by_cases he : p.bytes = []
  · simpa [isEmpty, he, isAbsolute] using hq
  · obtain ⟨b, bs, hb⟩ := List.exists_cons_of_ne_nil he
    simp only [isEmpty, hb, isAbsolute]
    split
    · simp at *
    · split <;> simp

/-- A path below `p`, by the names that lead to it. -/
def descend (p : Path) (names : List Bytes) : Path := names.foldl (fun p name => p.join ⟨name⟩) p

theorem stem_of_nonempty {p : Path} (he : p.bytes ≠ []) : p.stem ≠ [] ∧ p.stem.head? = p.pieces.head? := by
  unfold stem
  by_cases hs : p.bytes.getLast? = some slash
  · obtain ⟨ps, hne, hps⟩ := pieces_of_endsWithSlash hs
    rw [if_pos hs, hps, List.dropLast_concat]
    obtain ⟨q, qs, rfl⟩ := List.exists_cons_of_ne_nil hne
    simp
  · simp [hs, isEmpty, he, pieces_ne_nil]

theorem head?_pieces_join {p : Path} {name : Bytes} (h : IsName name) :
    (p.join ⟨name⟩).pieces.head? = some [dot] ↔ p.pieces.head? = some [dot] := by
  rw [pieces_join (isAbsolute_of_noSlash h.noSlash), h.pieces]
  by_cases he : p.bytes = []
  · simp [stem, isEmpty, he, pieces, splitSlash, h.notDot]
  · obtain ⟨hne, hhead⟩ := stem_of_nonempty he
    obtain ⟨q, qs, hq⟩ := List.exists_cons_of_ne_nil hne
    rw [← hhead, hq]
    simp

theorem named_join {p : Path} {name : Bytes} (h : IsName name) : (p.join ⟨name⟩).named = p.named ++ [name] := by
  rw [named, pieces_join (isAbsolute_of_noSlash h.noSlash), List.filter_append, filter_stem p _ (by simp [isBlank]),
    h.pieces]
  simp [named, h.notBlank]

theorem components_join {p : Path} {name : Bytes} (h : IsName name) :
    (p.join ⟨name⟩).components = p.components ++ [.name name] := by
  have hlast : pieceComponent name = .name name := by simp [pieceComponent, h.notParent]
  unfold components
  rw [isAbsolute_join (isAbsolute_of_noSlash h.noSlash), named_join h]
  by_cases hd : p.pieces.head? = some [dot]
  · have := (head?_pieces_join h).mpr hd
    split <;> simp_all
  · have := mt (head?_pieces_join h).mp hd
    split <;> simp_all

theorem components_descend (p : Path) {names : List Bytes} (h : ∀ n ∈ names, IsName n) :
    (p.descend names).components = p.components ++ names.map .name := by
  induction names generalizing p with
  | nil => simp [descend]
  | cons n names ih =>
    have := ih (p.join ⟨n⟩) fun m hm => h m (List.mem_cons_of_mem _ hm)
    rw [components_join (h n (by simp)), List.append_assoc] at this
    exact this

theorem descend_inj (p : Path) {names names' : List Bytes} (h : ∀ n ∈ names, IsName n) (h' : ∀ n ∈ names', IsName n)
    (he : p.descend names = p.descend names') : names = names' := by
  have hcomponents := congrArg components he
  rw [components_descend p h, components_descend p h', List.append_cancel_left_eq] at hcomponents
  exact (List.map_inj_right fun a b => Component.name.inj).mp hcomponents

theorem stem_join {p : Path} {name : Bytes} (h : IsName name) : (p.join ⟨name⟩).stem = p.stem ++ [name] := by
  obtain ⟨pre, hbytes⟩ : ∃ pre, (p.join ⟨name⟩).bytes = pre ++ name := by
    unfold join
    rw [isAbsolute_of_noSlash h.noSlash]
    simp only [Bool.false_eq_true, if_false]
    split
    · exact ⟨p.bytes, rfl⟩
    · exact ⟨p.bytes ++ [slash], by simp⟩
  have hlast : (p.join ⟨name⟩).bytes.getLast? ≠ some slash := by
    intro hl
    rw [hbytes, List.getLast?_append, Option.or_of_isSome (by simpa using h.nonempty)] at hl
    exact h.noSlash (List.mem_of_getLast? hl)
  have hne : (p.join ⟨name⟩).bytes ≠ [] := by simp [hbytes, h.nonempty]
  rw [stem, if_neg hlast]
  simp [isEmpty, hne, pieces_join (isAbsolute_of_noSlash h.noSlash), h.pieces]

/-- What is left behind the pieces that lead to a directory are the names below it. -/
theorem trimLeft_dropNamed {names : List Bytes} (hne : names ≠ []) (h : ∀ n ∈ names, IsName n) (ps : List Bytes) :
    trimLeft (dropNamed (ps.filter fun b => !isBlank b).length (ps ++ names)) = names := by
  induction ps with
  | nil =>
    obtain ⟨n, ns, rfl⟩ := List.exists_cons_of_ne_nil hne
    simp [dropNamed, trimLeft, (h n (by simp)).notBlank]
  | cons p ps ih =>
    by_cases hp : isBlank p = true
    · rw [List.filter_cons_of_neg (by simp [hp]), List.cons_append]
      cases hk : (ps.filter fun b => !isBlank b).length with
      | zero =>
        rw [hk] at ih
        simpa [dropNamed, trimLeft, hp] using ih
      | succ k =>
        rw [hk] at ih
        simpa [dropNamed, trimLeft, hp] using ih
    · rw [List.filter_cons_of_pos (by simp [hp]), List.cons_append, List.length_cons]
      simpa [dropNamed, trimLeft, hp] using ih

theorem trimRight_names {names : List Bytes} (h : ∀ n ∈ names, IsName n) : trimRight names = names := by
  unfold trimRight trimLeft
  cases hr : names.reverse with
  | nil => simp [List.reverse_eq_nil_iff.mp hr]
  | cons n ns =>
    have hn : n ∈ names := List.mem_reverse.mp (by simp [hr])
    rw [List.dropWhile_cons_of_neg (by simp [(h n hn).notBlank]), ← hr, List.reverse_reverse]

theorem isAbsolute_ofPieces {n : Bytes} {ns : List Bytes} (h : IsName n) : (ofPieces (n :: ns)).isAbsolute = false := by
  obtain ⟨b, bs, rfl⟩ := List.exists_cons_of_ne_nil h.nonempty
  have hb : b ≠ slash := fun he => h.noSlash (by simp [he])
  cases ns <;> simp [ofPieces, isAbsolute, List.intercalate, hb]

theorem pieces_ofPieces_names {names : List Bytes} (hne : names ≠ []) (h : ∀ n ∈ names, IsName n) :
    (ofPieces names).pieces = names :=
  pieces_ofPieces hne fun n hn => (h n hn).noSlash

theorem components_ofPieces {names : List Bytes} (hne : names ≠ []) (h : ∀ n ∈ names, IsName n) :
    (ofPieces names).components = names.map .name := by
  have hpieces := pieces_ofPieces_names hne h
  have hnamed : (ofPieces names).named = names := by
    rw [named, hpieces]
    exact List.filter_eq_self.mpr fun n hn => by simp [(h n hn).notBlank]
  have hcomponent : names.map pieceComponent = names.map .name :=
    List.map_congr_left fun n hn => by simp [pieceComponent, (h n hn).notParent]
  obtain ⟨n, ns, rfl⟩ := List.exists_cons_of_ne_nil hne
  have hn := h n (by simp)
  simp only [components, hnamed, hpieces, hcomponent, isAbsolute_ofPieces hn]
  simp [hn.notDot]

theorem named_of_components_isEmpty {p : Path} (h : p.components.isEmpty = true) : p.named = [] := by
  unfold components at h
  split at h
  · simp at h
  · split at h
    · simp at h
    · simpa using h

theorem pieces_descend (p : Path) {names : List Bytes} (hne : names ≠ []) (h : ∀ n ∈ names, IsName n) :
    (p.descend names).pieces = p.stem ++ names := by
  induction names generalizing p with
  | nil => exact absurd rfl hne
  | cons n names ih =>
    have hn := h n (by simp)
    cases names with
    | nil =>
      show (p.join ⟨n⟩).pieces = p.stem ++ [n]
      rw [pieces_join (isAbsolute_of_noSlash hn.noSlash), hn.pieces]
    | cons m names =>
      have := ih (p.join ⟨n⟩) (by simp) fun m hm => h m (List.mem_cons_of_mem _ hm)
      rw [stem_join hn, List.append_assoc] at this
      exact this

theorem isAbsolute_descend (p : Path) {names : List Bytes} (h : ∀ n ∈ names, IsName n) :
    (p.descend names).isAbsolute = p.isAbsolute := by
  induction names generalizing p with
  | nil => rfl
  | cons n names ih =>
    have := ih (p.join ⟨n⟩) fun m hm => h m (List.mem_cons_of_mem _ hm)
    rw [isAbsolute_join (isAbsolute_of_noSlash (h n (by simp)).noSlash)] at this
    exact this

theorem stripRoot?_descend (root : Path) {names : List Bytes} (hne : names ≠ []) (h : ∀ n ∈ names, IsName n) :
    (root.descend names).stripRoot? root = some (ofPieces names) := by
  have hstarts : (root.descend names).startsWith root = true := by
    rw [startsWith, components_descend root h]
    simp
  have hcount : root.named = root.stem.filter fun b => !isBlank b := (filter_stem root _ (by simp [isBlank])).symm
  have hrest := trimLeft_dropNamed hne h root.stem
  unfold stripRoot?
  rw [hstarts, pieces_descend root hne h]
  by_cases he : root.components.isEmpty = true
  · have hnone := named_of_components_isEmpty he
    rw [hcount] at hnone
    rw [hnone] at hrest
    have hempty : root.components = [] := List.isEmpty_iff.mp he
    have hrel : (root.descend names).isAbsolute = false := by
      rw [isAbsolute_descend root h]
      cases ha : root.isAbsolute with
      | false => rfl
      | true => simp [components, ha] at hempty
    have hhead : ((root.descend names).components.head? == some .current) = false := by
      rw [components_descend root h, hempty]
      cases names <;> simp
    simp only [he, hrel, hhead]
    rw [show trimLeft (root.stem ++ names) = names from hrest, trimRight_names h]
    rfl
  · simp only [he, hcount, hrest, trimRight_names h]
    rfl

theorem relativeTo_descend (root : Path) {names : List Bytes} (hne : names ≠ []) (h : ∀ n ∈ names, IsName n) :
    relativeTo root (root.descend names) = .ok (ofPieces names) := by
  rw [relativeTo, stripRoot?_descend root hne h]
  simp [components_ofPieces hne h]

theorem stem_ofPieces {names : List Bytes} (h : ∀ n ∈ names, IsName n) : (ofPieces names).stem = names := by
  cases names with
  | nil => simp [stem, ofPieces, isEmpty, List.intercalate]
  | cons n ns =>
    have hpieces := pieces_ofPieces_names (by simp) h
    have hlast : (ofPieces (n :: ns)).bytes.getLast? ≠ some slash := by
      intro hl
      obtain ⟨ps, -, hps⟩ := pieces_of_endsWithSlash hl
      have : [] ∈ (ofPieces (n :: ns)).pieces := by simp [hps]
      rw [hpieces] at this
      exact (h [] this).nonempty rfl
    have hne : (ofPieces (n :: ns)).bytes ≠ [] := by
      intro he
      have : [] ∈ (ofPieces (n :: ns)).pieces := by simp [pieces, he, splitSlash]
      rw [hpieces] at this
      exact (h [] this).nonempty rfl
    rw [stem, if_neg hlast, hpieces]
    simp [isEmpty, hne]

theorem join_ofPieces {ps : List Bytes} {name : Bytes} (h : ∀ n ∈ ps, IsName n) (hs : slash ∉ name) :
    (ofPieces ps).join ⟨name⟩ = ofPieces (ps ++ [name]) := by
  rw [← ofPieces_pieces ((ofPieces ps).join ⟨name⟩), pieces_join (isAbsolute_of_noSlash hs), stem_ofPieces h,
    pieces, splitSlash_of_notMem hs]

theorem join_ofPieces_inj (p : Path) {ns ms : List Bytes} (hn : ns ≠ []) (hm : ms ≠ [])
    (hns : ∀ n ∈ ns, n ≠ [] ∧ slash ∉ n) (hms : ∀ m ∈ ms, m ≠ [] ∧ slash ∉ m)
    (h : p.join (ofPieces ns) = p.join (ofPieces ms)) : ns = ms := by
  have hpieces := congrArg pieces h
  rw [pieces_join_ofPieces p hn hns, pieces_join_ofPieces p hm hms] at hpieces
  exact List.append_cancel_left hpieces

/-- Another name in place of the last one. -/
theorem withFileName_ofPieces {names : List Bytes} {last name : Bytes} (h : ∀ n ∈ names, IsName n) (hl : IsName last)
    (hs : slash ∉ name) : (ofPieces (names ++ [last])).withFileName name = ofPieces (names ++ [name]) := by
  have hall : ∀ n ∈ names ++ [last], IsName n := by
    intro n hn
    rcases List.mem_append.mp hn with hn | hn
    · exact h n hn
    · rwa [List.mem_singleton.mp hn]
  have hcomponents := components_ofPieces (by simp) hall
  have hfile : (ofPieces (names ++ [last])).fileName? = some last := by
    simp [fileName?, hcomponents]
  have hparent : (ofPieces (names ++ [last])).parent? = some (ofPieces names) := by
    have ht : trimRight (trimRight (ofPieces (names ++ [last])).pieces).dropLast = names := by
      rw [pieces_ofPieces_names (by simp) hall, trimRight_names hall, List.dropLast_concat, trimRight_names h]
    have hlast : (ofPieces (names ++ [last])).components.getLast? = some (.name last) := by simp [hcomponents]
    simp only [parent?, ht, hlast]
    cases names with
    | nil =>
      have hrel : (ofPieces [last]).isAbsolute = false := isAbsolute_ofPieces hl
      have hone : (ofPieces [last]).components.length = 1 := by rw [show [last] = [] ++ [last] from rfl, hcomponents]; rfl
      have hempty : (ofPieces []).isEmpty = true := rfl
      simp only [List.nil_append, hrel, hone, hempty]
      rfl
    | cons n ns =>
      have hne : (ofPieces (n :: ns)).isEmpty = false := by
        have hn := (h n (by simp)).nonempty
        cases ns <;> simp [ofPieces, List.intercalate, isEmpty, hn]
      simp [hne]
  rw [withFileName, hfile, hparent]
  exact join_ofPieces h hs

theorem fileName?_descend (root : Path) {names : List Bytes} {last : Bytes} (h : ∀ n ∈ names ++ [last], IsName n) :
    (root.descend (names ++ [last])).fileName? = some last := by
  simp [fileName?, components_descend root h]

theorem fileName?_of_name {last : Bytes} (h : IsName last) : (⟨last⟩ : Path).fileName? = some last := by
  have halone : (descend ⟨[]⟩ ([] ++ [last])).fileName? = some last := fileName?_descend ⟨[]⟩ (by simpa using h)
  have hsame : descend ⟨[]⟩ ([] ++ [last]) = ⟨last⟩ := by
    simp [descend, join, isAbsolute_of_noSlash h.noSlash, isEmpty]
  rwa [hsame] at halone

/-- A name with an extension is what stands before the last dot, the dot, and the extension. -/
theorem split_of_extension? {p : Path} {name after : Bytes} (hname : p.fileName? = some name)
    (h : p.extension? = some after) : ∃ before, before ≠ [] ∧ name = before ++ dot :: after := by
  simp only [extension?, hname] at h
  split at h
  · simp at h
  · rename_i hlen
    simp only [Option.some.injEq] at h
    have hsplit := List.takeWhile_append_dropWhile (p := fun b => b != dot) (l := name.reverse)
    cases hd : name.reverse.dropWhile (fun b => b != dot) with
    | nil =>
      rw [hd, List.append_nil] at hsplit
      rw [h] at hlen
      have : after.length = name.length := by rw [← h, hsplit, List.length_reverse, List.length_reverse]
      omega
    | cons b bs =>
      have hb : b = dot := by
        have := List.head_dropWhile_not (fun b => b != dot) (l := name.reverse) (by simp [hd])
        simpa [hd] using this
      subst hb
      have hname' : name = bs.reverse ++ dot :: after := by
        rw [hd] at hsplit
        have := congrArg List.reverse hsplit
        rw [List.reverse_reverse, List.reverse_append, h] at this
        simpa using this.symm
      refine ⟨bs.reverse, ?_, hname'⟩
      intro hnil
      rw [h, hname', hnil] at hlen
      simp at hlen

theorem dropText?_append (pat rest : List Char) : Text.dropText? pat (pat ++ rest) = some rest := by
  induction pat with
  | nil => cases rest <;> rfl
  | cons c pat ih => simpa [Text.dropText?] using ih

theorem withoutMarker_of_marked {text kept : String} {ext : String}
    (h : text.toList = kept.toList ++ '.' :: ext.toList) : withoutMarker text ext = kept := by
  have hr : text.toList.reverse = ("." ++ ext).toList.reverse ++ kept.toList.reverse := by
    rw [h]
    simp
  rw [withoutMarker, hr]
  simp only [dropText?_append, List.reverse_reverse, String.ofList_toList]

/-- What is rendered into `out` stands below it under the names of its template, without the extension. -/
theorem outputOf_descend {root out q : Path} {names : List Bytes} {last : Bytes} {ext : String}
    (h : ∀ n ∈ names ++ [last], IsName n)
    (hext : TemplateDir.hasExtension [ext] (root.descend (names ++ [last])) = true)
    (ho : outputOf root (root.descend (names ++ [last])) out ext = .ok q) :
    ∃ kept, kept ≠ [] ∧ slash ∉ kept ∧ last = kept ++ dot :: Utf8.encode ext ∧
      q = out.join (ofPieces (names ++ [kept])) := by
  have hfile : (ofPieces (names ++ [last])).fileName? = some last := by
    simp [fileName?, components_ofPieces (by simp) h]
  obtain ⟨after, hafter, hdecode⟩ : ∃ after, (root.descend (names ++ [last])).extension? = some after ∧
      Utf8.decode? after = some ext := by
    simp only [TemplateDir.hasExtension, extensionText?, Option.any_eq_true, Option.bind_eq_some_iff] at hext
    obtain ⟨t, ⟨after, hafter, hdecode⟩, ht⟩ := hext
    exact ⟨after, hafter, by simpa [List.contains_iff_mem] using hdecode.trans (by simpa using ht)⟩
  obtain ⟨before, hbefore, hlast⟩ := split_of_extension? (fileName?_descend root h) hafter
  simp only [outputOf, relativeTo_descend root (by simp) h, hfile, Option.bind_some] at ho
  cases hd : Utf8.decode? last with
  | none => simp [hd] at ho
  | some text =>
    rw [hlast] at hd
    obtain ⟨t, u, ht, hu, htext⟩ := Utf8.decode?_mark (by decide) hd
    have hu' : u = ext := Option.some.inj (hu.symm.trans hdecode)
    subst hu'
    rw [← hlast] at hd
    simp only [hd, withoutMarker_of_marked htext] at ho
    split at ho
    · simp at ho
    · have hname := h last (by simp)
      have hs : slash ∉ before := fun hm => hname.noSlash (by rw [hlast]; exact List.mem_append_left _ hm)
      refine ⟨before, hbefore, hs, by rw [hlast, Utf8.encode_of_decode? hdecode], ?_⟩
      rw [Utf8.encode_of_decode? ht, withFileName_ofPieces (fun n hn => h n (List.mem_append_left _ hn)) hname hs] at ho
      simpa using ho.symm

end Path
end ApiStencil

/-!
What the components of a path tell of it: whether it starts at the root, and the names that it goes by.
Joining a path to another one adds its names.
-/

namespace ApiStencil
namespace Path

/-- The piece that a component stands for; the root and a leading dot stand for none. -/
def Component.piece? : Component → Option Bytes
  | .root | .current => none
  | .parent => some [dot, dot]
  | .name bs => some bs

theorem piece?_pieceComponent (b : Bytes) : (pieceComponent b).piece? = some b := by
  unfold pieceComponent
  split
  · rename_i h
    rw [beq_iff_eq.mp h]
    rfl
  · rfl

theorem filterMap_pieceComponent (ps : List Bytes) : (ps.map pieceComponent).filterMap Component.piece? = ps := by
  induction ps with
  | nil => rfl
  | cons p ps ih => rw [List.map_cons, List.filterMap_cons_some (piece?_pieceComponent p), ih]

theorem named_eq (p : Path) : p.named = p.components.filterMap Component.piece? := by
  have hinner := filterMap_pieceComponent p.named
  unfold components
  split
  · exact hinner.symm
  · split
    · exact hinner.symm
    · exact hinner.symm

theorem root_notMem_inner (ps : List Bytes) : Component.root ∉ ps.map pieceComponent := by
  intro h
  obtain ⟨b, -, hb⟩ := List.mem_map.mp h
  unfold pieceComponent at hb
  split at hb <;> cases hb

theorem isAbsolute_iff (p : Path) : p.isAbsolute = true ↔ Component.root ∈ p.components := by
  have hinner := root_notMem_inner p.named
  unfold components
  cases hp : p.isAbsolute with
  | true => simp
  | false =>
    simp only [Bool.false_eq_true, if_false, false_iff]
    split
    · simpa using hinner
    · exact hinner

/-- Three facts make up the components of a path. -/
theorem components_eq_of {p q : Path} (hroot : p.isAbsolute = q.isAbsolute) (hnamed : p.named = q.named)
    (hhead : p.pieces.head? = q.pieces.head?) : p.components = q.components := by
  unfold components
  rw [hroot, hnamed, hhead]

theorem named_join_of_relative {p q : Path} (hq : q.isAbsolute = false) : (p.join q).named = p.named ++ q.named := by
  rw [named, pieces_join hq, List.filter_append, filter_stem p _ (by simp [isBlank])]
  rfl

theorem isBlank_eq_false_iff {b : Bytes} (hne : b ≠ []) : isBlank b = false ↔ b ≠ [dot] := by
  simp [isBlank, hne]

/-- The names of a path that is put together of pieces; a dot at its end is none. -/
theorem named_ofPieces_snoc {names : List Bytes} {last : Bytes} (h : ∀ n ∈ names, IsName n)
    (hlast : last ≠ [] ∧ slash ∉ last) :
    (ofPieces (names ++ [last])).named = names ++ if last = [dot] then [] else [last] := by
  have hpieces := pieces_ofPieces (by simp) fun n hn => (parts_snoc h hlast n hn).2
  have hfront : names.filter (fun b => !isBlank b) = names :=
    List.filter_eq_self.mpr fun n hn => by simp [(h n hn).notBlank]
  rw [named, hpieces, List.filter_append, hfront]
  by_cases hdot : last = [dot]
  · simp [hdot, isBlank]
  · simp [hdot, (isBlank_eq_false_iff hlast.1).mpr hdot]

end Path
end ApiStencil
