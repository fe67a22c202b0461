import ApiStencil.Proofs.YamlScalars
/-!
Scalars between quotes are read back, whatever stands behind them. Words are read character by character, each as it
is written; the white space between them stands for itself, but for the indentation behind a break.
-/
set_option autoImplicit false

namespace ApiStencil.Yaml

/-! Pairs of neighbours, and runs of one kind of character. -/

theorem hasPair_behind {p q : Char → Bool} {a b : List Char} (h : hasPair p q (a ++ b) = false) :
    hasPair p q b = false := by
  induction a with
  | nil => exact h
  | cons c a ih =>
    refine ih ?_
    cases hcs : a ++ b with
    | nil => rfl
    | cons d cs =>
      rw [List.cons_append, hcs, hasPair, Bool.or_eq_false_iff] at h
      exact h.2

/-- Behind characters of one kind stands none of another, where the two do not meet. -/
theorem hasPair_run {p q : Char → Bool} {a b : List Char} (ha : a ≠ []) (hp : ∀ c ∈ a, p c = true)
    (h : hasPair p q (a ++ b) = false) : b.head?.all (!q ·) = true := by
  cases b with
  | nil => rfl
  | cons d b =>
    rw [← List.dropLast_concat_getLast ha, List.append_assoc] at h
    have := hasPair_behind h
    rw [List.cons_append, List.nil_append, hasPair, hp _ (List.getLast_mem ha), Bool.or_eq_false_iff] at this
    simpa using this.1

/-- The characters of one kind at the front of a text. -/
theorem run_split (p : Char → Bool) (cs : List Char) :
    ∃ a b, cs = a ++ b ∧ (∀ c ∈ a, p c = true) ∧ b.head?.all (!p ·) = true :=
  ⟨cs.takeWhile p, cs.dropWhile p, List.takeWhile_append_dropWhile.symm,
    fun c hc => List.all_eq_true.mp List.all_takeWhile c hc, by
      rcases Plain.dropWhile_cases p cs with h | ⟨c, rest, h, hc⟩
      · rw [h]; rfl
      · simp [h, hc]⟩

/-! Lines and their indentation. -/

theorem indented_line {a : List Char} (ha : ∀ c ∈ a, isBreak c = false) (n : Nat) (b : List Char) :
    indented n false (a ++ b) = a ++ indented n false b := by
  induction a with
  | nil => rfl
  | cons c a ih =>
    have := ih fun d hd => ha d (List.mem_cons_of_mem _ hd)
    simp [indented, ha c (by simp), this]

theorem indented_breaks {a : List Char} (hne : a ≠ []) (ha : ∀ c ∈ a, isBreak c = true) (n : Nat) (fresh : Bool)
    (b : List Char) : indented n fresh (a ++ b) = a ++ indented n true b := by
  induction a generalizing fresh with
  | nil => exact absurd rfl hne
  | cons c a ih =>
    have hc := ha c (by simp)
    cases a with
    | nil => simp [indented, hc]
    | cons d a =>
      have := ih (by simp) (fun e he => ha e (List.mem_cons_of_mem _ he)) true
      simp [indented, hc, ← this]

theorem length_le_indented (n : Nat) (fresh : Bool) (cs : List Char) : cs.length ≤ (indented n fresh cs).length := by
  induction cs generalizing fresh with
  | nil => exact Nat.zero_le _
  | cons c cs ih =>
    have := ih (isBreak c)
    simp only [indented, List.length_append, List.length_cons]
    omega

/-- Breaks that stand in a text as they are. -/
theorem eq_of_printable_break {c : Char} (hb : isBreak c = true) (hp : isPrintable c = true) :
    c = '\n' ∨ c = '\u2028' ∨ c = '\u2029' := by
  have hr : c ≠ '\r' := ne_of_printable hp (by decide)
  have hn : c ≠ '\u0085' := ne_of_printable hp (by decide)
  simpa [isBreak, hr, hn, or_assoc] using hb

theorem breakChar_of_printable {c : Char} (hb : isBreak c = true) (hp : isPrintable c = true) : breakChar c = c := by
  rcases eq_of_printable_break hb hp with rfl | rfl | rfl <;> decide

/-- Breaks are gathered as they stand. -/
theorem Gap.read_breaks {bs : List Char} (hb : ∀ c ∈ bs, isBreak c = true ∧ isPrintable c = true) (margin : Nat)
    (g : Gap) (hg : g.broken = true) (m : Mark) (cs : List Char) :
    Gap.read margin g m (bs ++ cs) = Gap.read margin { g with more := g.more ++ bs } (m.past bs) cs := by
  induction bs generalizing g m with
  | nil => simp [Mark.past]
  | cons b bs ih =>
    obtain ⟨hb₁, hb₂⟩ := hb b (by simp)
    have hr : b ≠ '\r' := ne_of_printable hb₂ (by decide)
    have hadd : g.addBreak (breakChar b) = { g with more := g.more ++ [b] } := by
      simp [Gap.addBreak, hg, breakChar_of_printable hb₁ hb₂]
    rw [List.cons_append, Gap.read_break hb₁ hr, hadd,
      ih (fun c hc => hb c (List.mem_cons_of_mem _ hc)) { g with more := g.more ++ [b] } hg]
    simp [Mark.past, hb₁]

/-! Scalars between quotes. -/

namespace Quoted

/-- Whether a character of a text stands as white space between such quotes. -/
def isRaw (single : Bool) (c : Char) : Bool := c == ' ' || (single && isBreak c)

/-- What is written for a character. -/
def piece (single : Bool) (c : Char) : List Char :=
  if single then (if c == '\'' then ['\'', '\''] else [c]) else (doubleChar c).toList

/-- What a text is like that can stand between such quotes. -/
structure Fits (single : Bool) (cs : List Char) : Prop where
  printable : single = true → ∀ c ∈ cs, isPrintable c = true ∧ c ≠ '\n'
  spaceBreak : single = true → hasPair isSpace isBreak cs = false
  breakSpace : single = true → hasPair isBreak isSpace cs = false

theorem Fits.behind {single : Bool} {a b : List Char} (h : Fits single (a ++ b)) : Fits single b :=
  ⟨fun hs c hc => h.printable hs c (List.mem_append_right _ hc), fun hs => hasPair_behind (h.spaceBreak hs),
    fun hs => hasPair_behind (h.breakSpace hs)⟩

/-! Escapes. -/

/-- The digits of an escape. -/
def hexDigits (width n : Nat) : List Char :=
  List.replicate (width - (Nat.toDigits 16 n).length) '0' ++ (Nat.toDigits 16 n).map Char.toUpper

theorem hexPadded_toList (width n : Nat) : (hexPadded width n).toList = hexDigits width n := by
  rw [hexPadded, String.toList_ofList, List.length_map]
  rfl

/-- Whether digits are read as a number, and may stand in a document on one line. -/
def Reads16 (width n : Nat) : Prop :=
  (hexDigits width n).length = width ∧ Decimal.ofBase? 16 (hexDigits width n) = some n ∧
    (hexDigits width n).all fun d => !isBreak d && isAllowed d

instance (width n : Nat) : Decidable (Reads16 width n) := by
  unfold Reads16
  infer_instance

theorem Reads16.characters {width n : Nat} (h : Reads16 width n) :
    ∀ d ∈ hexDigits width n, isBreak d = false ∧ isAllowed d = true := fun d hd => by
  simpa using List.all_eq_true.mp h.2.2 d hd

theorem reads_two : ∀ n < 160, Reads16 2 n := by decide +kernel

theorem reads_four : ∀ n ∈ [0xfeff, 0xfffe, 0xffff], Reads16 4 n := by decide

theorem unprintable {c : Char} (h : isPrintable c = false) :
    c.toNat < 160 ∨ c.toNat ∈ [0xfeff, 0xfffe, 0xffff] := by
  simp only [isPrintable, Bool.or_eq_false_iff, Bool.and_eq_false_iff, decide_eq_false_iff_not, bne_eq_false_iff_eq] at h
  simp only [List.mem_cons, List.not_mem_nil, or_false]
  omega

theorem numbered_reads {width : Nat} {c : Char} (h : Reads16 width c.toNat) (since : Mark) (m : Mark)
    (rest : List Char) :
    numbered since width ⟨hexDigits width c.toNat ++ rest, m⟩ =
      .ok (c, ⟨rest, m.past (hexDigits width c.toNat)⟩) := by
  have hcharacters := h.characters
  obtain ⟨hlength, hvalue, -⟩ := h
  have htake : (hexDigits width c.toNat ++ rest).take width = hexDigits width c.toNat :=
    List.take_left' hlength
  have hline : ∀ d ∈ hexDigits width c.toNat, isBreak d = false := fun d hd => (hcharacters d hd).1
  have hskip := Cursor.skip_past hline m rest
  rw [hlength] at hskip
  have hvalid : c.toNat.isValidChar := c.valid
  simp only [numbered, htake, hlength, beq_self_eq_true, if_true, hvalue, hvalid, Char.ofNat_toNat, hskip]

theorem short_escapes : ∀ p ∈ escapes, ∃ d, p.2.toList = [d] ∧ shortEscapes.lookup d = some p.1 ∧ isBreak d = false := by
  simp [escapes, shortEscapes, List.lookup_cons, isBreak]

/-- How a character is written that does not stand for itself: by a letter, or by its number. -/
theorem doubleChar_cases (c : Char) :
    ((doubleChar c).toList = [c] ∧ isPrintable c = true ∧ isBreak c = false ∧ c ≠ '"' ∧ c ≠ '\\') ∨
    (∃ d, (doubleChar c).toList = ['\\', d] ∧ shortEscapes.lookup d = some c ∧ isBreak d = false) ∨
    ∃ d n, (doubleChar c).toList = '\\' :: d :: hexDigits n c.toNat ∧ shortEscapes.lookup d = none ∧
      digitCount? d = some n ∧ Reads16 n c.toNat ∧ isBreak d = false := by
  unfold doubleChar
  split
  next h =>
    simp only [Bool.and_eq_true, Bool.not_eq_true', bne_iff_ne] at h
    exact .inl ⟨String.toList_singleton .., h.1.1.1, h.1.1.2, h.1.2, h.2⟩
  next h =>
    split
    next e he =>
      obtain ⟨l₁, l₂, hmem, -⟩ := List.lookup_eq_some_iff.mp he
      obtain ⟨d, hd, hlookup, hbreak⟩ := short_escapes (c, e) (by rw [hmem]; simp)
      exact .inr (.inl ⟨d, by rw [String.toList_append, hd]; rfl, hlookup, hbreak⟩)
    next hnone =>
      have hprint : isPrintable c = false := by
        refine Bool.eq_false_iff.mpr fun hprint => ?_
        have hmem : (c = '\n' ∨ c = '\u2028' ∨ c = '\u2029') ∨ c = '"' ∨ c = '\\' := by
          cases hb : isBreak c with
          | true => exact .inl (eq_of_printable_break hb hprint)
          | false => exact .inr (by simpa [hprint, hb, Decidable.or_iff_not_imp_left] using h)
        rcases hmem with (rfl | rfl | rfl) | rfl | rfl <;> exact absurd hnone (by decide)
      rcases unprintable hprint with hn | hn
      · refine .inr (.inr ⟨'x', 2, ?_, by decide, rfl, reads_two _ hn, rfl⟩)
        rw [if_pos (by omega), String.toList_append, hexPadded_toList]
        rfl
      · have := reads_four _ hn
        simp only [List.mem_cons, List.not_mem_nil, or_false] at hn
        refine .inr (.inr ⟨'u', 4, ?_, by decide, rfl, this, rfl⟩)
        rw [if_neg (by omega), if_pos (by omega), String.toList_append, hexPadded_toList]
        rfl

/-- The forms of a character that is no white space: itself, two quotes in place of one, or an escape. -/
inductive Form (single : Bool) (c : Char) : List Char → Prop where
  | plain : isPrintable c = true → isBreak c = false → c ≠ ' ' → c ≠ quote single → (single = false → c ≠ '\\') →
    Form single c [c]
  | doubled : single = true → c = '\'' → Form single c ['\'', '\'']
  | letter (d : Char) : single = false → shortEscapes.lookup d = some c → isBreak d = false → Form single c ['\\', d]
  | number (d : Char) (n : Nat) : single = false → shortEscapes.lookup d = none → digitCount? d = some n →
    Reads16 n c.toNat → isBreak d = false → Form single c ('\\' :: d :: hexDigits n c.toNat)

theorem form_piece {single : Bool} {c : Char} (hc : isRaw single c = false)
    (hp : single = true → isPrintable c = true) : Form single c (piece single c) := by
  have hspace : c ≠ ' ' := fun heq => by simp [isRaw, heq] at hc
  cases single with
  | true =>
    have hbreak : isBreak c = false := by
      simp only [isRaw, Bool.or_eq_false_iff] at hc
      simpa using hc.2
    by_cases hquote : c = '\''
    · subst hquote
      exact .doubled rfl rfl
    · rw [show piece true c = [c] by simp [piece, hquote]]
      exact .plain (hp rfl) hbreak hspace hquote (by simp)
  | false =>
    rw [piece, if_neg (by decide)]
    rcases doubleChar_cases c with ⟨hpiece, hprint, hbreak, hquote, hslash⟩ | ⟨d, hpiece, hlookup, hbreak⟩ |
      ⟨d, n, hpiece, hlookup, hcount, hreads, hbreak⟩
    · rw [hpiece]
      exact .plain hprint hbreak hspace hquote fun _ => hslash
    · rw [hpiece]
      exact .letter d rfl hlookup hbreak
    · rw [hpiece]
      exact .number d n rfl hlookup hcount hreads hbreak

theorem lineBreak?_none {c : Char} (h : isBreak c = false) (rest : List Char) (m : Mark) :
    (Cursor.mk (c :: rest) m).lineBreak? = none := by
  have hr : c ≠ '\r' := fun heq => by simp [heq, isBreak] at h
  unfold Cursor.lineBreak?
  split
  next heq => exact absurd (List.cons.inj heq).1 hr
  next heq =>
    obtain ⟨rfl, -⟩ := List.cons.inj heq
    rw [if_neg (by simp [h])]
  next => rfl

/-- One step over an escape. -/
theorem word_escape {c d : Char} {e : List Char} (hd : isBreak d = false) (since : Mark) (fuel : Nat)
    (acc : List Char) (m : Mark) (rest : List Char)
    (h : escape since ⟨'\\' :: d :: e ++ rest, m⟩ = .ok (c, ⟨rest, m.past ('\\' :: d :: e)⟩)) :
    word false since (fuel + 1) acc ⟨'\\' :: d :: e ++ rest, m⟩ =
      word false since fuel (c :: acc) ⟨rest, m.past ('\\' :: d :: e)⟩ := by
  have hnone : (Cursor.mk ('\\' :: d :: e ++ rest) m).next.lineBreak? = none := lineBreak?_none hd _ _
  rw [word]
  simp only [List.cons_append] at h hnone ⊢
  rw [if_neg (by decide), if_neg (by simp), if_neg (by decide), if_pos (by decide), hnone, h]

/-- A character that is no white space is read in one step. -/
theorem word_piece {single : Bool} {c : Char} (hc : isRaw single c = false)
    (hp : single = true → isPrintable c = true) (since : Mark) (fuel : Nat) (acc : List Char) (m : Mark)
    (rest : List Char) :
    word single since (fuel + 1) acc ⟨piece single c ++ rest, m⟩ =
      word single since fuel (c :: acc) ⟨rest, m.past (piece single c)⟩ := by
  have hform := form_piece hc hp
  generalize piece single c = p at hform ⊢
  cases hform with
  | plain hprint hbreak hspace hquote hslash =>
    rw [word]
    simp only [List.cons_append, List.nil_append, isBlankOrBreak_of_printable hprint, hbreak,
      beq_eq_false_iff_ne.mpr hspace, beq_eq_false_iff_ne.mpr hquote, Bool.or_false, Bool.false_eq_true, if_false]
    cases single with
    | true =>
      have hquote : (c == '\'') = false := beq_eq_false_iff_ne.mpr hquote
      simp [hquote, Mark.past, hbreak, Cursor.next]
    | false =>
      have hslash : (c == '\\') = false := beq_eq_false_iff_ne.mpr (hslash rfl)
      simp [hslash, Mark.past, hbreak, Cursor.next]
  | doubled hsingle hquote =>
    subst hsingle hquote
    rw [word]
    rfl
  | letter d hsingle hlookup hbreak =>
    subst hsingle
    refine word_escape hbreak since fuel acc m rest ?_
    simp only [escape, List.cons_append, List.nil_append, List.drop_succ_cons, List.drop_zero, hlookup]
    simp [Cursor.skip, Cursor.next, Mark.past, hbreak, show isBreak '\\' = false from rfl]
  | number d n hsingle hlookup hcount hreads hbreak =>
    subst hsingle
    refine word_escape hbreak since fuel acc m rest ?_
    simp only [escape, List.cons_append, List.drop_succ_cons, List.drop_zero, hlookup, hcount]
    have hline : ∀ e ∈ ['\\', d], isBreak e = false := by simp [hbreak, show isBreak '\\' = false from rfl]
    have hskip := Cursor.skip_past hline m (hexDigits n c.toNat ++ rest)
    have := numbered_reads hreads since (m.past ['\\', d]) rest
    rw [← Mark.past_append] at this
    exact (congrArg _ hskip).trans this

/-- What is written for a character does not begin with white space, and has no breaks. -/
theorem piece_front {single : Bool} {c : Char} (hc : isRaw single c = false)
    (hp : single = true → isPrintable c = true) :
    ∃ d ds, piece single c = d :: ds ∧ isBlankOrBreak d = false ∧ ∀ e ∈ d :: ds, isBreak e = false := by
  have hform := form_piece hc hp
  generalize piece single c = p at hform
  cases hform with
  | plain hprint hbreak hspace =>
    exact ⟨c, [], rfl, by simp [isBlankOrBreak_of_printable hprint, hspace, hbreak], by simp [hbreak]⟩
  | doubled => exact ⟨'\'', ['\''], rfl, rfl, by simp [isBreak]⟩
  | letter d hsingle hlookup hbreak =>
    exact ⟨'\\', [d], rfl, rfl, by simp [hbreak, show isBreak '\\' = false from rfl]⟩
  | number d n hsingle hlookup hcount hreads hbreak =>
    refine ⟨'\\', d :: hexDigits n c.toNat, rfl, rfl, fun e he => ?_⟩
    simp only [List.mem_cons] at he
    rcases he with rfl | rfl | he
    · rfl
    · exact hbreak
    · exact (hreads.characters e he).1

theorem piece_line {single : Bool} {w : List Char} (hw : ∀ c ∈ w, isRaw single c = false)
    (hp : single = true → ∀ c ∈ w, isPrintable c = true) : ∀ d ∈ w.flatMap (piece single), isBreak d = false := by
  intro d hd
  obtain ⟨c, hc, hd⟩ := List.mem_flatMap.mp hd
  obtain ⟨e, es, hpiece, -, hline⟩ := piece_front (hw c hc) (fun hs => hp hs c hc)
  exact hline d (hpiece ▸ hd)

/-- Characters up to white space or the closing quote. -/
theorem word_reads {single : Bool} (w : List Char) (hw : ∀ c ∈ w, isRaw single c = false)
    (hp : single = true → ∀ c ∈ w, isPrintable c = true) (since : Mark) {rest : List Char}
    (hrest : ∀ fuel acc m, word single since (fuel + 1) acc ⟨rest, m⟩ = .ok ((acc, false), ⟨rest, m⟩)) (fuel : Nat)
    (acc : List Char) (m : Mark) (hf : w.length < fuel) :
    word single since fuel acc ⟨w.flatMap (piece single) ++ rest, m⟩ =
      .ok ((w.reverse ++ acc, false), ⟨rest, m.past (w.flatMap (piece single))⟩) := by
  induction w generalizing fuel acc m with
  | nil =>
    obtain ⟨fuel, rfl⟩ := Nat.exists_eq_add_of_lt hf
    exact hrest _ _ _
  | cons c w ih =>
    obtain ⟨fuel, rfl⟩ := Nat.exists_eq_add_of_lt (Nat.zero_lt_of_lt hf)
    rw [List.flatMap_cons, List.append_assoc, word_piece (hw c (by simp)) (fun hs => hp hs c (by simp)),
      ih (fun d hd => hw d (List.mem_cons_of_mem _ hd)) (fun hs d hd => hp hs d (List.mem_cons_of_mem _ hd)) _ _ _
        (by simp only [List.length_cons] at hf; omega)]
    simp [Mark.past_append]

theorem word_stops {single : Bool} {c : Char} (hc : isBlankOrBreak c = true) (rest : List Char) (since : Mark)
    (fuel : Nat) (acc : List Char) (m : Mark) :
    word single since (fuel + 1) acc ⟨c :: rest, m⟩ = .ok ((acc, false), ⟨c :: rest, m⟩) := by
  simp only [word, hc, if_true]

theorem word_quote {single : Bool} {tail : List Char} (ht : tail.head? ≠ some '\'') (since : Mark) (fuel : Nat)
    (acc : List Char) (m : Mark) :
    word single since (fuel + 1) acc ⟨quote single :: tail, m⟩ = .ok ((acc, false), ⟨quote single :: tail, m⟩) := by
  have hblank : isBlankOrBreak (quote single) = false := by cases single <;> rfl
  rw [word]
  simp only [hblank, Bool.false_eq_true, if_false, beq_eq_false_iff_ne.mpr ht, Bool.and_false, beq_self_eq_true,
    if_true]

/-- A run of one kind of white space and what follows it, where the other kind may not. -/
theorem run_front {single : Bool} {p q : Char → Bool} {c : Char} (hc : p c = true) {rest : List Char}
    (h : single = true → hasPair p q (c :: rest) = false) :
    ∃ g cs', c :: rest = g ++ cs' ∧ g ≠ [] ∧ (∀ d ∈ g, p d = true) ∧
      cs'.head?.all (fun d => !p d && !(single && q d)) = true := by
  obtain ⟨g, cs', hsplit, hg, hcs'⟩ := run_split p (c :: rest)
  have hne : g ≠ [] := by
    rintro rfl
    rw [List.nil_append] at hsplit
    simp [← hsplit, hc] at hcs'
  refine ⟨g, cs', hsplit, hne, hg, ?_⟩
  cases cs' with
  | nil => rfl
  | cons d cs' =>
    have hd : p d = false := by simpa using hcs'
    cases single with
    | false => simp [hd]
    | true =>
      have := hasPair_run hne hg (hsplit ▸ h rfl)
      simpa [hd] using this

/-- Characters that stand for themselves, and what follows the white space behind them. -/
theorem Fits.split {single : Bool} {cs : List Char} (h : Fits single cs) :
    ∃ w rest, cs = w ++ rest ∧ (∀ c ∈ w, isRaw single c = false) ∧
      (rest = [] ∨ ∃ g cs', rest = g ++ cs' ∧ g ≠ [] ∧ cs'.head?.all (!isRaw single ·) = true ∧
        ((∀ c ∈ g, c = ' ') ∨ single = true ∧ ∀ c ∈ g, isBreak c = true ∧ isPrintable c = true ∧ c ≠ '\n')) := by
  obtain ⟨w, rest, rfl, hw, hrest⟩ := run_split (!isRaw single ·) cs
  refine ⟨w, rest, rfl, fun c hc => by simpa using hw c hc, ?_⟩
  have hr := h.behind
  cases rest with
  | nil => exact .inl rfl
  | cons c rest =>
    refine .inr ?_
    have hraw : isSpace c = true ∨ single = true ∧ isBreak c = true := by simpa [isRaw, isSpace] using hrest
    rcases hraw with hc | ⟨rfl, hc⟩
    · obtain ⟨g, cs', hsplit, hne, hg, hcs'⟩ := run_front hc hr.spaceBreak
      exact ⟨g, cs', hsplit, hne, by simpa [isRaw, isSpace] using hcs', .inl fun d hd => by simpa [isSpace] using hg d hd⟩
    · obtain ⟨g, cs', hsplit, hne, hg, hcs'⟩ := run_front hc hr.breakSpace
      refine ⟨g, cs', hsplit, hne, by simpa [isRaw, isSpace, Bool.and_comm] using hcs', .inr ⟨rfl, fun d hd => ⟨hg d hd, ?_⟩⟩⟩
      exact hr.printable rfl d (by rw [hsplit]; exact List.mem_append_left _ hd)

/-- White space is read as it stands in the text; the reader passes over the indentation behind a break. -/
theorem gap_reads {g y : List Char} (hne : g ≠ [])
    (hg : (∀ c ∈ g, c = ' ') ∨ ∀ c ∈ g, isBreak c = true ∧ isPrintable c = true ∧ c ≠ '\n')
    (hy : ∃ d ds, y = d :: ds ∧ isBlankOrBreak d = false) (tail : List Char) (m : Mark) :
    ∃ c a w, indented 2 false (g ++ y) = c :: a ++ indented 2 false y ∧ isBlankOrBreak c = true ∧
      Gap.read 0 { Gap.empty with broken := false } m (c :: a ++ (indented 2 false y ++ tail)) =
        (w, ⟨indented 2 false y ++ tail, m.past (c :: a)⟩) ∧ w.text = g ∧ 0 < (m.past (c :: a)).column := by
  obtain ⟨d, ds, rfl, hd⟩ := hy
  have hstops : Stops (indented 2 false (d :: ds) ++ tail) := by simp [indented, Stops, hd]
  have hbreak : isBreak d = false := by
    simp only [isBlankOrBreak, Bool.or_eq_false_iff] at hd
    exact hd.2
  obtain ⟨c, g, rfl⟩ := List.exists_cons_of_ne_nil hne
  rcases hg with hg | hg
  · obtain ⟨n, hn⟩ : ∃ n, c :: g = List.replicate (n + 1) ' ' :=
      ⟨g.length, List.eq_replicate_iff.mpr ⟨rfl, hg⟩⟩
    have hline : ∀ e ∈ c :: g, isBreak e = false := fun e he => by rw [hg e he]; rfl
    refine ⟨c, g, ⟨c :: g, none, [], false, none⟩, indented_line hline 2 _, by rw [hg c (by simp)]; rfl, ?_, rfl, ?_⟩
    · rw [hn, Gap.read_spaces (n + 1) 0 _ rfl m hstops]
      rfl
    · rw [(Mark.past_line hline m).2, List.length_cons]
      omega
  · obtain ⟨hc, hprint, hfeed⟩ := hg c (by simp)
    have hmore : ∀ e ∈ g, isBreak e = true ∧ isPrintable e = true := fun e he =>
      ⟨(hg e (by simp [he])).1, (hg e (by simp [he])).2.1⟩
    refine ⟨c, g ++ [' ', ' '], ⟨[], some c, g, true, none⟩, ?_, by simp [isBlankOrBreak, hc], ?_, ?_, ?_⟩
    · rw [indented_breaks (by simp) (fun e he => (hg e he).1)]
      simp [indented, hbreak, List.replicate]
    · have hindent := Gap.read_indent 2 0 ⟨[], some c, g, true, none⟩ rfl (m.past (c :: g)) hstops
      rw [List.cons_append, List.append_assoc, Gap.read_break hc (ne_of_printable hprint (by decide)),
        breakChar_of_printable hc hprint, Gap.read_breaks hmore _ _ rfl]
      refine Eq.trans ?_ (hindent.trans ?_)
      · simp [Gap.addBreak, Gap.empty, Mark.past, hc, List.replicate]
      · rw [← Mark.past_append]
        rfl
    · simp [Gap.text, hfeed]
    · have hline : ∀ e ∈ [' ', ' '], isBreak e = false := by simp [isBreak]
      rw [← List.cons_append, Mark.past_append, (Mark.past_line hline _).2]
      exact Nat.succ_pos _

/-- What stands between the quotes, with the last one. -/
def written (single : Bool) (cs : List Char) : List Char :=
  indented 2 false (cs.flatMap (piece single) ++ [quote single])

theorem piece_raw {single : Bool} {g : List Char}
    (hg : (∀ c ∈ g, c = ' ') ∨ single = true ∧ ∀ c ∈ g, isBreak c = true ∧ isPrintable c = true ∧ c ≠ '\n') :
    g.flatMap (piece single) = g := by
  have hone : ∀ c ∈ g, piece single c = [c] := by
    intro c hc
    rcases hg with hg | ⟨rfl, hg⟩
    · obtain rfl := hg c hc
      cases single <;> rfl
    · have hquote : c ≠ '\'' := by
        rintro rfl
        exact absurd (hg _ hc).1 (by decide)
      simp [piece, hquote]
  clear hg
  induction g with
  | nil => rfl
  | cons c g ih =>
    rw [List.flatMap_cons, hone c (by simp), ih fun d hd => hone d (List.mem_cons_of_mem _ hd)]
    rfl

theorem piece_ne_nil (single : Bool) (c : Char) : piece single c ≠ [] := by
  cases single with
  | true =>
    rw [piece, if_pos rfl]
    split <;> simp
  | false =>
    rw [piece, if_neg (by decide)]
    rcases doubleChar_cases c with ⟨h, -⟩ | ⟨d, h, -⟩ | ⟨d, n, h, -⟩ <;> simp [h]

theorem length_le_pieces (single : Bool) (w : List Char) : w.length ≤ (w.flatMap (piece single)).length := by
  induction w with
  | nil => exact Nat.le_refl _
  | cons c w ih =>
    have := List.length_pos_iff.mpr (piece_ne_nil single c)
    simp only [List.flatMap_cons, List.length_append, List.length_cons]
    omega

theorem quote_line (single : Bool) : isBreak (quote single) = false := by cases single <;> rfl

theorem quote_visible (single : Bool) : isBlankOrBreak (quote single) = false := by cases single <;> rfl

theorem body_step {single : Bool} {since : Mark} {k k₁ : Cursor} {acc acc₁ : List Char} (hm : 0 < k.mark.column)
    (hne : k.rest ≠ []) (hword : word single since k.reach acc k = .ok ((acc₁, false), k₁)) (fuel : Nat) :
    body single since (fuel + 1) acc k =
      if k₁.startsWith (quote single) then .ok (acc₁, k₁.next)
      else body single since fuel ((Gap.read 0 { Gap.empty with broken := false } k₁.mark k₁.rest).1.text.reverse ++ acc₁)
        (Gap.read 0 { Gap.empty with broken := false } k₁.mark k₁.rest).2 := by
  have hrule : k.atDocumentRule = false := by simp [Cursor.atDocumentRule, Cursor.atRule, Nat.ne_of_gt hm]
  have hempty : k.rest.isEmpty = false := by simpa using hne
  rw [body]
  simp only [hrule, hempty, Bool.false_eq_true, if_false, hword]

/-- The last word, with the closing quote behind it. -/
theorem body_last {single : Bool} {w : List Char} (hw : ∀ c ∈ w, isRaw single c = false)
    (hp : single = true → ∀ c ∈ w, isPrintable c = true) (since : Mark) (fuel : Nat) (acc : List Char) {m : Mark}
    (hm : 0 < m.column) {tail : List Char} (ht : tail.head? ≠ some '\'') :
    body single since (fuel + 1) acc ⟨written single w ++ tail, m⟩ =
      .ok (w.reverse ++ acc, ⟨tail, m.past (written single w)⟩) := by
  have hlength := length_le_pieces single w
  have hwritten : written single w = w.flatMap (piece single) ++ [quote single] := by
    rw [written, indented_line (piece_line hw hp)]
    simp [indented]
  have hreach : w.length < (Cursor.mk (w.flatMap (piece single) ++ quote single :: tail) m).reach := by
    simp only [Cursor.reach, List.length_append]
    omega
  have hword := word_reads w hw hp since (fun f acc m => word_quote ht since f acc m) _ acc m hreach
  rw [hwritten, List.append_assoc, List.singleton_append, body_step hm (by simp) hword, if_pos (by simp [Cursor.startsWith])]
  simp [Cursor.next, Mark.past_append, Mark.past, quote_line]

/-- What is written for a text that does not begin with white space does not begin with white space either. -/
theorem pieces_front {single : Bool} {cs : List Char} (hcs : Fits single cs)
    (hfront : cs.head?.all (!isRaw single ·) = true) :
    ∃ d ds, cs.flatMap (piece single) ++ [quote single] = d :: ds ∧ isBlankOrBreak d = false := by
  cases cs with
  | nil => exact ⟨_, [], rfl, quote_visible single⟩
  | cons c cs =>
    have hc : isRaw single c = false := by simpa using hfront
    obtain ⟨d, ds, hpiece, hd, -⟩ := piece_front hc fun hs => (hcs.printable hs c (by simp)).1
    exact ⟨d, ds ++ (cs.flatMap (piece single) ++ [quote single]), by simp [hpiece], hd⟩

/-- A word and the white space behind it, when more follows. -/
theorem body_more {single : Bool} {w g cs : List Char} (hw : ∀ c ∈ w, isRaw single c = false)
    (hp : single = true → ∀ c ∈ w, isPrintable c = true) (hne : g ≠ [])
    (hg : (∀ c ∈ g, c = ' ') ∨ single = true ∧ ∀ c ∈ g, isBreak c = true ∧ isPrintable c = true ∧ c ≠ '\n')
    (hcs : Fits single cs) (hfront : cs.head?.all (!isRaw single ·) = true) (since : Mark) (fuel : Nat)
    (acc : List Char) {m : Mark} (hm : 0 < m.column) (tail : List Char) :
    ∃ front, written single (w ++ (g ++ cs)) = front ++ written single cs ∧ 0 < (m.past front).column ∧
      body single since (fuel + 1) acc ⟨written single (w ++ (g ++ cs)) ++ tail, m⟩ =
        body single since fuel ((w ++ g).reverse ++ acc) ⟨written single cs ++ tail, m.past front⟩ := by
  have hlength := length_le_pieces single w
  obtain ⟨c, a, gap, hgap, hc, hread, htext, hcolumn⟩ := gap_reads hne (hg.imp_right And.right) (pieces_front hcs hfront)
    tail (m.past (w.flatMap (piece single)))
  have hwritten : written single (w ++ (g ++ cs)) = w.flatMap (piece single) ++ (c :: a) ++ written single cs := by
    rw [written, List.flatMap_append, List.flatMap_append, piece_raw hg, List.append_assoc, List.append_assoc,
      indented_line (piece_line hw hp), hgap, List.append_assoc]
    rfl
  have hreach : w.length < (Cursor.mk (w.flatMap (piece single) ++ c :: (a ++ (written single cs ++ tail))) m).reach := by
    simp only [Cursor.reach, List.length_append]
    omega
  have hword := word_reads w hw hp since (fun f acc m => word_stops hc (a ++ (written single cs ++ tail)) since f acc m) _
    acc m hreach
  have hquote : (Cursor.mk (c :: (a ++ (written single cs ++ tail))) (m.past (w.flatMap (piece single)))).startsWith
      (quote single) = false := by
    refine beq_eq_false_iff_ne.mpr fun heq => ?_
    obtain rfl : c = quote single := by simpa using heq
    simp [quote_visible] at hc
  have hgap' : Gap.read 0 { Gap.empty with broken := false } (m.past (w.flatMap (piece single)))
      (c :: (a ++ (written single cs ++ tail))) =
      (gap, ⟨written single cs ++ tail, m.past (w.flatMap (piece single) ++ (c :: a))⟩) := by
    rw [Mark.past_append]
    exact hread
  rw [← Mark.past_append] at hcolumn
  refine ⟨w.flatMap (piece single) ++ (c :: a), hwritten, hcolumn, ?_⟩
  rw [hwritten, List.append_assoc, List.append_assoc, List.cons_append, body_step hm (by simp) hword, hquote,
    if_neg (by simp), hgap', htext, List.reverse_append, List.append_assoc]

/-- Words and the white space between them, to the closing quote. -/
theorem body_reads {single : Bool} (since : Mark) (fuel : Nat) (cs : List Char) (hcs : Fits single cs)
    (hf : cs.length < fuel) (acc : List Char) (m : Mark) (hm : 0 < m.column) {tail : List Char}
    (ht : tail.head? ≠ some '\'') :
    body single since fuel acc ⟨written single cs ++ tail, m⟩ =
      .ok (cs.reverse ++ acc, ⟨tail, m.past (written single cs)⟩) := by
  -- each round reads one word with the white space behind it
  induction fuel generalizing cs acc m with
  | zero => exact absurd hf (Nat.not_lt_zero _)
  | succ fuel ih =>
    obtain ⟨w, rest, rfl, hw, hrest⟩ := hcs.split
    have hp : single = true → ∀ c ∈ w, isPrintable c = true := fun hs c hc => (hcs.printable hs c (by simp [hc])).1
    rcases hrest with rfl | ⟨g, cs', rfl, hne, hfront, hg⟩
    · simpa using body_last hw hp since fuel acc hm ht
    · have hbehind : Fits single cs' := by
        rw [← List.append_assoc] at hcs
        exact hcs.behind
      have hlen : cs'.length < fuel := by
        have := List.length_pos_iff.mpr hne
        simp only [List.length_append] at hf
        omega
      obtain ⟨front, hwritten, hcolumn, hstep⟩ := body_more hw hp hne hg hbehind hfront since fuel acc hm tail
      rw [hstep, ih cs' hbehind hlen _ _ hcolumn, hwritten, Mark.past_append]
      simp

theorem length_lt_written (single : Bool) (cs : List Char) : cs.length < (written single cs).length := by
  have := length_le_pieces single cs
  refine Nat.lt_of_lt_of_le ?_ (length_le_indented ..)
  simp only [List.length_append, List.length_singleton]
  omega

/-- A text between quotes is read back, whatever stands behind it. -/
theorem read_written {single : Bool} {cs : List Char} (hcs : Fits single cs) (m : Mark) {tail : List Char}
    (ht : tail.head? ≠ some '\'') :
    read single ⟨quote single :: (written single cs ++ tail), m⟩ =
      .ok (String.ofList cs, ⟨tail, m.past (quote single :: written single cs)⟩) := by
  have hreach : cs.length < (Cursor.mk (quote single :: (written single cs ++ tail)) m).reach := by
    have := length_lt_written single cs
    simp only [Cursor.reach, List.length_cons, List.length_append]
    omega
  rw [read]
  have hnext : (Cursor.mk (quote single :: (written single cs ++ tail)) m).next = ⟨written single cs ++ tail, m.next⟩ := rfl
  rw [hnext, body_reads _ _ cs hcs hreach [] m.next (Nat.succ_pos _) ht]
  simp [Mark.past, quote_line]

/-- What is written for a character may stand in a document. -/
theorem piece_allowed {single : Bool} {c : Char} (hp : single = true → isPrintable c = true) :
    ∀ d ∈ piece single c, isAllowed d = true := by
  intro e he
  cases single with
  | true =>
    have hc := isAllowed_of_printable (hp rfl)
    simp only [piece, if_true] at he
    split at he
    · simp only [List.mem_cons, List.not_mem_nil, or_false, or_self] at he
      exact he ▸ rfl
    · exact List.mem_singleton.mp he ▸ hc
  | false =>
    have hslash : isAllowed '\\' = true := by decide
    simp only [piece, Bool.false_eq_true, if_false] at he
    rcases doubleChar_cases c with ⟨hpiece, hprint, -⟩ | ⟨d, hpiece, hlookup, -⟩ | ⟨d, n, hpiece, -, hcount, hreads, -⟩
    · rw [hpiece] at he
      exact List.mem_singleton.mp he ▸ isAllowed_of_printable hprint
    · obtain ⟨l₁, l₂, hmem, -⟩ := List.lookup_eq_some_iff.mp hlookup
      have hletters : ∀ p ∈ shortEscapes, isAllowed p.1 = true := by decide
      have hletter := hletters (d, c) (by rw [hmem]; simp)
      rw [hpiece] at he
      simp only [List.mem_cons, List.not_mem_nil, or_false] at he
      rcases he with rfl | rfl
      · exact hslash
      · exact hletter
    · rw [hpiece] at he
      simp only [List.mem_cons] at he
      rcases he with rfl | rfl | he
      · exact hslash
      · unfold digitCount? at hcount
        split at hcount <;> first | rfl | cases hcount
      · exact (hreads.characters e he).2

theorem mem_indented {n : Nat} {fresh : Bool} {cs : List Char} {c : Char} (h : c ∈ indented n fresh cs) : c = ' ' ∨ c ∈ cs := by
  induction cs generalizing fresh with
  | nil => exact .inr h
  | cons d cs ih =>
    rw [indented, List.mem_append, List.mem_cons] at h
    rcases h with h | rfl | h
    · split at h
      · exact .inl (List.mem_replicate.mp h).2
      · cases h
    · exact .inr (by simp)
    · exact (ih h).imp_right (List.mem_cons_of_mem _)

theorem written_allowed {single : Bool} {cs : List Char} (h : Fits single cs) :
    ∀ c ∈ quote single :: written single cs, isAllowed c = true := by
  have hquote : isAllowed (quote single) = true := by cases single <;> rfl
  intro c hc
  rcases List.mem_cons.mp hc with rfl | hc
  · exact hquote
  · rcases mem_indented hc with rfl | hc
    · rfl
    · rcases List.mem_append.mp hc with hc | hc
      · obtain ⟨d, hd, hc⟩ := List.mem_flatMap.mp hc
        exact piece_allowed (fun hs => (h.printable hs d hd).1) c hc
      · exact List.mem_singleton.mp hc ▸ hquote

theorem toList_singleQuoted (s : String) : (singleQuoted 2 s).toList = quote true :: written true s.toList := by
  rw [singleQuoted, String.toList_ofList]
  rfl

theorem toList_doubleQuoted (s : String) : (doubleQuoted s).toList = quote false :: written false s.toList := by
  have hline : ∀ d ∈ s.toList.flatMap (piece false), isBreak d = false := by
    intro d hd
    obtain ⟨c, -, hd⟩ := List.mem_flatMap.mp hd
    cases hc : isRaw false c with
    | true =>
      obtain rfl : c = ' ' := by simpa [isRaw] using hc
      obtain rfl : d = ' ' := List.mem_singleton.mp hd
      rfl
    | false =>
      obtain ⟨e, es, hpiece, -, hbreaks⟩ := piece_front hc nofun
      exact hbreaks d (hpiece ▸ hd)
  rw [doubleQuoted, String.toList_append, String.toList_append, String.toList_join, List.flatMap_map, written, indented_line hline]
  rfl

/-- What the printer writes between single quotes can stand so. -/
theorem fits_of_allowed {cs : List Char} (h : (allowed cs).single = true) (hfeed : '\n' ∉ cs) : Fits true cs := by
  cases cs with
  | nil => exact ⟨fun _ => nofun, fun _ => rfl, fun _ => rfl⟩
  | cons c rest =>
    simp only [allowed, Bool.and_eq_true, Bool.not_eq_true', Bool.or_eq_false_iff, Bool.not_eq_false'] at h
    obtain ⟨hbreak, hprint, hspace⟩ := h
    refine ⟨fun _ d hd => ⟨List.all_eq_true.mp hprint d hd, ?_⟩, fun _ => hspace, fun _ => hbreak⟩
    rintro rfl
    exact hfeed hd

theorem fits_double (cs : List Char) : Fits false cs := ⟨nofun, nofun, nofun⟩

end Quoted
end ApiStencil.Yaml
