import ApiStencil.Yaml.Printer
import ApiStencil.Yaml.Token.Scalar
/-!
Scalars on one line, and those between quotes, are read back, whatever stands behind them. A reader moves over
words and the white space between them; so do the proofs.
-/
set_option autoImplicit false

namespace ApiStencil.Yaml

/-- The place behind some characters, none of them a carriage return. -/
def Mark.past (m : Mark) : List Char → Mark
  | [] => m
  | c :: rest => (if isBreak c then m.nextLine 1 else m.next).past rest

theorem Mark.past_append (m : Mark) (cs ds : List Char) : m.past (cs ++ ds) = (m.past cs).past ds := by
  induction cs generalizing m with
  | nil => rfl
  | cons c cs ih => exact ih _

theorem Mark.past_line {cs : List Char} (h : ∀ c ∈ cs, isBreak c = false) (m : Mark) :
    (m.past cs).line = m.line ∧ (m.past cs).column = m.column + cs.length := by
  induction cs generalizing m with
  | nil => exact ⟨rfl, rfl⟩
  | cons c cs ih =>
    obtain ⟨hline, hcolumn⟩ := ih (fun d hd => h d (List.mem_cons_of_mem _ hd)) m.next
    rw [Mark.past, h c (by simp)]
    refine ⟨hline, hcolumn.trans ?_⟩
    simp only [Mark.next, List.length_cons]
    omega

/-- A mark only goes down the lines. -/
theorem Mark.line_le_past (m : Mark) (cs : List Char) : m.line ≤ (m.past cs).line := by
  induction cs generalizing m with
  | nil => exact Nat.le_refl _
  | cons c cs ih =>
    refine Nat.le_trans ?_ (ih _)
    split <;> simp [Mark.nextLine, Mark.next]

theorem Cursor.skip_past {cs : List Char} (h : ∀ c ∈ cs, isBreak c = false) (m : Mark) (rest : List Char) :
    Cursor.skip cs.length ⟨cs ++ rest, m⟩ = ⟨rest, m.past cs⟩ := by
  induction cs generalizing m with
  | nil => rfl
  | cons c cs ih =>
    rw [Mark.past, h c (by simp)]
    exact ih (fun d hd => h d (List.mem_cons_of_mem _ hd)) m.next

/-- Whether a text, at its front, goes on with white space. -/
def Stops (cs : List Char) : Prop := cs.head?.all fun c => !isBlankOrBreak c

/-! A text without escapes holds no tab, no null and no carriage return. -/

theorem ne_of_printable {c d : Char} (h : isPrintable c = true) (hd : isPrintable d = false) : c ≠ d :=
  fun heq => by simp [heq, hd] at h

theorem isBlank_of_printable {c : Char} (h : isPrintable c = true) : isBlank c = (c == ' ') := by
  have htab : c ≠ '\t' := ne_of_printable h rfl
  simp [isBlank, htab]

theorem isBlankOrBreak_of_printable {c : Char} (h : isPrintable c = true) :
    isBlankOrBreak c = (c == ' ' || isBreak c) := by
  have hnull : (c == '\x00') = false := beq_eq_false_iff_ne.mpr (ne_of_printable h rfl)
  rw [isBlankOrBreak, isBlank_of_printable h, hnull, Bool.or_false]

/-- What may stand in a text as it is may stand in a document. -/
theorem isAllowed_of_printable {c : Char} (h : isPrintable c = true) : isAllowed c = true := by
  simp only [isPrintable, Bool.or_eq_true, Bool.and_eq_true, decide_eq_true_eq, beq_iff_eq, bne_iff_ne] at h
  rcases h with (rfl | h) | h
  · rfl
  all_goals
    simp only [isAllowed, Bool.or_eq_true, Bool.and_eq_true, decide_eq_true_eq, beq_iff_eq]
    omega

/-! White space. -/

namespace Gap

theorem read_stops {cs : List Char} (h : Stops cs) (margin : Nat) (g : Gap) (m : Mark) :
    read margin g m cs = (g, ⟨cs, m⟩) := by
  cases cs with
  | nil => rfl
  | cons c cs =>
    have hc : isBlankOrBreak c = false := by simpa [Stops] using h
    simp only [isBlankOrBreak, Bool.or_eq_false_iff] at hc
    have hr : c ≠ '\r' := fun heq => by simp [heq, isBreak] at hc
    rw [read]
    · simp [hc]
    · simp [hr]

theorem read_break {c : Char} (hb : isBreak c = true) (hr : c ≠ '\r') (margin : Nat) (g : Gap) (m : Mark)
    (cs : List Char) : read margin g m (c :: cs) = read margin (g.addBreak (breakChar c)) (m.nextLine 1) cs := by
  rw [read]
  · rw [if_pos hb]
  · simp [hr]

theorem isBreak_of_blank {c : Char} (hb : isBlank c = true) : isBreak c = false := by
  simp only [isBlank, Bool.or_eq_true, beq_iff_eq] at hb
  rcases hb with rfl | rfl <;> rfl

theorem read_blank {c : Char} (hb : isBlank c = true) (margin : Nat) (g : Gap) (m : Mark)
    (cs : List Char) : read margin g m (c :: cs) = read margin (g.addBlank margin m c) m.next cs := by
  have hn := isBreak_of_blank hb
  have hr : c ≠ '\r' := fun heq => by simp [heq, isBlank] at hb
  rw [read]
  · rw [if_neg (by simp [hn]), if_pos hb]
  · simp [hr]

/-- Spaces on a line are kept. -/
theorem read_spaces (n margin : Nat) (g : Gap) (hg : g.broken = false) (m : Mark) {cs : List Char} (h : Stops cs) :
    read margin g m (List.replicate n ' ' ++ cs) =
      ({ g with blanks := g.blanks ++ List.replicate n ' ' }, ⟨cs, m.past (List.replicate n ' ')⟩) := by
  induction n generalizing g m with
  | zero => simpa [Mark.past] using read_stops h margin g m
  | succ n ih =>
    have hadd : g.addBlank margin m ' ' = { g with blanks := g.blanks ++ [' '] } := by simp [addBlank, hg]
    rw [List.replicate_succ, List.cons_append, read_blank rfl, hadd]
    refine (ih { g with blanks := g.blanks ++ [' '] } hg m.next).trans ?_
    simp [Mark.past, isBreak]

/-- Spaces at the front of a line are passed over. -/
theorem read_indent (n margin : Nat) (g : Gap) (hg : g.broken = true) (m : Mark) {cs : List Char} (h : Stops cs) :
    read margin g m (List.replicate n ' ' ++ cs) = (g, ⟨cs, m.past (List.replicate n ' ')⟩) := by
  induction n generalizing m with
  | zero => exact read_stops h margin g m
  | succ n ih =>
    have hadd : g.addBlank margin m ' ' = g := by simp [addBlank, hg]
    rw [List.replicate_succ, List.cons_append, read_blank rfl, hadd]
    exact ih m.next

end Gap

/-! Plain scalars. -/

namespace Plain

theorem endsWord_append (cs tail : List Char) : Cursor.endsWord (cs ++ '\n' :: tail) = cs.head?.all isBlankOrBreak := by
  cases cs <;> rfl

theorem isClash_block (cs : List Char) : isClash false cs = false := by
  unfold isClash
  split <;> rfl

/-- Characters up to a space or the end of the line. -/
theorem word_reads (w rest : List Char) (hw : ∀ c ∈ w, isBlankOrBreak c = false) (hrest : rest.head?.all (· == ' '))
    {before : Bool} (hinner : holdsIndicator before (w ++ rest) = false) (since : Mark) (acc : List Char) (m : Mark)
    (tail : List Char) :
    word false since acc m (w ++ (rest ++ '\n' :: tail)) = .ok (w.reverse ++ acc, ⟨rest ++ '\n' :: tail, m.past w⟩) := by
  induction w generalizing before acc m with
  | nil =>
    cases rest with
    | nil => rfl
    | cons c rest =>
      obtain rfl : c = ' ' := by simpa using hrest
      rfl
  | cons c w ih =>
    have hc := hw c (by simp)
    rw [List.cons_append, holdsIndicator, Bool.or_eq_false_iff, Bool.or_eq_false_iff] at hinner
    have hends : endsAt false (c :: (w ++ (rest ++ '\n' :: tail))) = false := by
      rw [endsAt, ← List.append_assoc, endsWord_append]
      simpa using hinner.1.1
    have hb : isBreak c = false := by
      simp only [isBlankOrBreak, Bool.or_eq_false_iff] at hc
      exact hc.2
    rw [List.cons_append, word]
    simp only [hc, isClash_block, hends, Bool.false_eq_true, if_false]
    rw [ih (fun d hd => hw d (List.mem_cons_of_mem _ hd)) hinner.2]
    simp [Mark.past, hb]

/-- What a text is like that can stand without quotes. -/
structure Fits (cs : List Char) : Prop where
  printable : ∀ c ∈ cs, isPrintable c = true
  line : ∀ c ∈ cs, isBreak c = false
  front : cs.head? ≠ some ' '
  back : cs.getLast? ≠ some ' '
  inner : holdsIndicator true cs = false

theorem Fits.isBlankOrBreak {cs : List Char} (h : Fits cs) {c : Char} (hc : c ∈ cs) :
    isBlankOrBreak c = (c == ' ') := by
  rw [isBlankOrBreak_of_printable (h.printable c hc), h.line c hc, Bool.or_false]

theorem holdsIndicator_behind {before : Bool} (cs : List Char) (c : Char) {rest : List Char}
    (h : holdsIndicator before (cs ++ c :: rest) = false) : holdsIndicator (Yaml.isBlankOrBreak c) rest = false := by
  induction cs generalizing before with
  | nil =>
    rw [List.nil_append, holdsIndicator, Bool.or_eq_false_iff] at h
    exact h.2
  | cons d cs ih =>
    rw [List.cons_append, holdsIndicator, Bool.or_eq_false_iff] at h
    exact ih h.2

theorem dropWhile_cases (p : Char → Bool) (cs : List Char) :
    cs.dropWhile p = [] ∨ ∃ c rest, cs.dropWhile p = c :: rest ∧ p c = false := by
  have := List.head?_dropWhile_not p cs
  cases h : cs.dropWhile p with
  | nil => exact .inl rfl
  | cons c rest => exact .inr ⟨c, rest, rfl, by simpa [h] using this⟩

/-- Spaces at the front of a text, and what follows them. -/
theorem spaces_split (cs : List Char) : ∃ k rest, cs = List.replicate k ' ' ++ rest ∧ rest.head? ≠ some ' ' := by
  refine ⟨(cs.takeWhile (· == ' ')).length, cs.dropWhile (· == ' '), ?_, ?_⟩
  · have hrun : cs.takeWhile (· == ' ') = List.replicate (cs.takeWhile (· == ' ')).length ' ' :=
      List.eq_replicate_iff.mpr ⟨rfl, fun c hc => by simpa using List.all_eq_true.mp List.all_takeWhile c hc⟩
    rw [← hrun, List.takeWhile_append_dropWhile]
  · rcases dropWhile_cases (· == ' ') cs with h | ⟨c, rest, h, hc⟩
    · simp [h]
    · simpa [h] using hc

/-- What follows spaces inside such a text is such a text. -/
theorem Fits.behind {cs rest : List Char} (h : Fits (cs ++ ' ' :: rest)) (hfront : rest.head? ≠ some ' ') :
    rest ≠ [] ∧ Fits rest := by
  have hne : rest ≠ [] := by
    rintro rfl
    exact h.back (by simp)
  refine ⟨hne, fun c hc => h.printable c (by simp [hc]), fun c hc => h.line c (by simp [hc]), hfront, ?_,
    holdsIndicator_behind cs ' ' h.inner⟩
  have hlast : (cs ++ ' ' :: rest).getLast? = rest.getLast? := by
    cases hc : rest.getLast? with
    | none => exact absurd (List.getLast?_eq_none_iff.mp hc) hne
    | some c => simp [List.getLast?_append, List.getLast?_cons, hc]
  rw [← hlast]
  exact h.back

/-- The first word of such a text, and what follows the spaces behind it. -/
theorem Fits.split {cs : List Char} (h : Fits cs) (hne : cs ≠ []) :
    ∃ w rest, cs = w ++ rest ∧ w ≠ [] ∧ (∀ c ∈ w, c ≠ ' ') ∧
      (rest = [] ∨ ∃ k cs', rest = List.replicate (k + 1) ' ' ++ cs' ∧ cs' ≠ [] ∧ Fits cs') := by
  have hcs := List.takeWhile_append_dropWhile (p := (· != ' ')) (l := cs)
  refine ⟨cs.takeWhile (· != ' '), cs.dropWhile (· != ' '), hcs.symm, ?_, ?_, ?_⟩
  · obtain ⟨c, cs, rfl⟩ := List.exists_cons_of_ne_nil hne
    have hc : c ≠ ' ' := by simpa using h.front
    simp [hc]
  · intro c hc
    simpa using List.all_eq_true.mp List.all_takeWhile c hc
  · rcases dropWhile_cases (· != ' ') cs with hrest | ⟨c, rest, hrest, hc⟩
    · exact .inl hrest
    · obtain rfl : c = ' ' := by simpa using hc
      obtain ⟨k, cs', hcs', hfront⟩ := spaces_split rest
      have hrun : cs.dropWhile (· != ' ') = List.replicate (k + 1) ' ' ++ cs' := by
        rw [hrest, hcs', List.replicate_succ, List.cons_append]
      rw [hrun, List.replicate_succ', List.append_assoc, ← List.append_assoc] at hcs
      rw [← hcs] at h
      exact .inr ⟨k, cs', hrun, h.behind hfront⟩

/-- One word and the white space behind it. -/
theorem body_word {since : Mark} {w rest : List Char} {m : Mark} (hm : 0 < m.column) (hw : w ≠ [])
    (hhash : w.head? ≠ some '#') (hword : word false since [] m (w ++ rest) = .ok (w.reverse, ⟨rest, m.past w⟩))
    (hmore : rest.head?.any Yaml.isBlankOrBreak = true) {g' : Gap} {k : Cursor}
    (hread : Gap.read 1 .empty (m.past w) rest = (g', k)) (htab : g'.tab = none) (fuel : Nat) (acc : List Char)
    (g : Gap) :
    body false 1 since (fuel + 1) acc g ⟨w ++ rest, m⟩ =
      if k.mark.column < 1 then .ok ((w.reverse ++ g.text.reverse ++ acc, g'.broken), k)
      else body false 1 since fuel (w.reverse ++ g.text.reverse ++ acc) g' k := by
  have hstart : (Cursor.mk (w ++ rest) m).atDocumentRule = false := by
    simp [Cursor.atDocumentRule, Cursor.atRule, Nat.ne_of_gt hm]
  have hhash : (Cursor.mk (w ++ rest) m).startsWith '#' = false := by
    obtain ⟨c, w, rfl⟩ := List.exists_cons_of_ne_nil hw
    simpa [Cursor.startsWith] using hhash
  obtain ⟨d, ds, hrev⟩ := List.exists_cons_of_ne_nil (mt List.reverse_eq_nil_iff.mp hw)
  rw [body]
  simp only [hstart, hhash, Bool.or_self, Bool.false_eq_true, if_false, hword, hrev, hmore, hread, htab,
    Bool.not_true, Bool.not_false, Bool.true_and, decide_eq_true_eq]

theorem Fits.not_hash {cs : List Char} (h : Fits cs) : cs.head? ≠ some '#' := by
  cases cs with
  | nil => simp
  | cons c cs =>
    have := h.inner
    rw [holdsIndicator, Bool.or_eq_false_iff, Bool.or_eq_false_iff] at this
    simpa using this.1.2

theorem Fits.stops {cs : List Char} (h : Fits cs) (hne : cs ≠ []) (tail : List Char) : Stops (cs ++ tail) := by
  obtain ⟨c, cs, rfl⟩ := List.exists_cons_of_ne_nil hne
  have := h.front
  simpa [Stops, h.isBlankOrBreak (c := c) (by simp)] using this

/-- The first word of such a text, to a space or the end of the line. -/
theorem Fits.word_reads {w rest : List Char} (h : Fits (w ++ rest)) (hspace : ∀ c ∈ w, c ≠ ' ')
    (hrest : rest.head?.all (· == ' ')) (since m : Mark) (tail : List Char) :
    word false since [] m (w ++ (rest ++ '\n' :: tail)) = .ok (w.reverse, ⟨rest ++ '\n' :: tail, m.past w⟩) := by
  have hblank : ∀ c ∈ w, Yaml.isBlankOrBreak c = false := fun c hc => by
    rw [h.isBlankOrBreak (by simp [hc])]
    simpa using hspace c hc
  simpa using Plain.word_reads w rest hblank hrest h.inner since [] m tail

/-- The last word, with the end of the line and the white space behind it. -/
theorem body_last {w : List Char} (h : Fits w) (hw : w ≠ []) (hspace : ∀ c ∈ w, c ≠ ' ') (since : Mark) (fuel : Nat)
    (acc : List Char) (g : Gap) {m : Mark} (hm : 0 < m.column) {tail : List Char} (ht : Stops tail) :
    body false 1 since (fuel + 1) acc g ⟨w ++ '\n' :: tail, m⟩ =
      .ok ((w.reverse ++ g.text.reverse ++ acc, true), ⟨tail, m.past (w ++ ['\n'])⟩) := by
  have hword : word false since [] m (w ++ '\n' :: tail) = .ok (w.reverse, ⟨'\n' :: tail, m.past w⟩) := by
    rw [← List.append_nil w] at h
    exact h.word_reads hspace rfl since m tail
  have hread : Gap.read 1 .empty (m.past w) ('\n' :: tail) = (Gap.empty.addBreak '\n', ⟨tail, (m.past w).nextLine 1⟩) := by
    rw [Gap.read_break rfl (by decide), Gap.read_stops ht]
    rfl
  have hcolumn : (Cursor.mk tail ((m.past w).nextLine 1)).mark.column < 1 := Nat.zero_lt_one
  have hmark : (m.past w).nextLine 1 = m.past (w ++ ['\n']) := by rw [Mark.past_append]; rfl
  rw [body_word hm hw h.not_hash hword rfl hread rfl, if_pos hcolumn, hmark]
  rfl

/-- A word and the spaces behind it, when another word follows. -/
theorem body_more {w cs : List Char} (k : Nat) (h : Fits (w ++ (List.replicate (k + 1) ' ' ++ cs))) (hw : w ≠ [])
    (hspace : ∀ c ∈ w, c ≠ ' ') (hne : cs ≠ []) (hcs : Fits cs) (since : Mark) (fuel : Nat) (acc : List Char) (g : Gap)
    {m : Mark} (hm : 0 < m.column) (tail : List Char) :
    0 < (m.past (w ++ List.replicate (k + 1) ' ')).column ∧
      body false 1 since (fuel + 1) acc g ⟨w ++ (List.replicate (k + 1) ' ' ++ cs) ++ '\n' :: tail, m⟩ =
        body false 1 since fuel (w.reverse ++ g.text.reverse ++ acc) ⟨List.replicate (k + 1) ' ', none, [], false, none⟩
          ⟨cs ++ '\n' :: tail, m.past (w ++ List.replicate (k + 1) ' ')⟩ := by
  have hhash : w.head? ≠ some '#' := by
    obtain ⟨c, w, rfl⟩ := List.exists_cons_of_ne_nil hw
    exact h.not_hash
  have hword := h.word_reads hspace (by simp [List.replicate_succ]) since m tail
  have hread : Gap.read 1 .empty (m.past w) (List.replicate (k + 1) ' ' ++ cs ++ '\n' :: tail) =
      (⟨List.replicate (k + 1) ' ', none, [], false, none⟩,
        ⟨cs ++ '\n' :: tail, m.past (w ++ List.replicate (k + 1) ' ')⟩) := by
    rw [List.append_assoc, Gap.read_spaces (k + 1) 1 .empty rfl _ (hcs.stops hne _), Mark.past_append]
    rfl
  have hcolumn : 0 < (m.past (w ++ List.replicate (k + 1) ' ')).column := by
    have hline : ∀ c ∈ w ++ List.replicate (k + 1) ' ', isBreak c = false := fun c hc => h.line c (by
      simp only [List.mem_append] at hc ⊢
      exact hc.imp_right .inl)
    rw [(Mark.past_line hline m).2]
    omega
  refine ⟨hcolumn, ?_⟩
  rw [List.append_assoc, body_word hm hw hhash hword rfl hread rfl,
    if_neg (Nat.not_lt.mpr hcolumn)]

/-- Words and the spaces between them, to the end of the line and of the white space behind it. -/
theorem body_reads (since : Mark) (n : Nat) (cs : List Char) (hn : cs.length ≤ n) (hcs : Fits cs) (hne : cs ≠ [])
    (fuel : Nat) (acc : List Char) (g : Gap) (hg : g.broken = false) (m : Mark) (hm : 0 < m.column)
    {tail : List Char} (ht : Stops tail) (hf : n < fuel) :
    body false 1 since fuel acc g ⟨cs ++ '\n' :: tail, m⟩ =
      .ok ((cs.reverse ++ g.blanks.reverse ++ acc, true), ⟨tail, m.past (cs ++ ['\n'])⟩) := by
  -- each round reads one word with the white space behind it
  induction n generalizing cs fuel acc g m with
  | zero => exact absurd (List.eq_nil_of_length_eq_zero (Nat.le_zero.mp hn)) hne
  | succ n ih =>
    obtain ⟨w, rest, rfl, hw, hspace, hrest⟩ := hcs.split hne
    obtain ⟨fuel, rfl⟩ := Nat.exists_eq_add_of_lt (Nat.zero_lt_of_lt hf)
    have hgap : g.text = g.blanks := by simp [Gap.text, hg]
    rcases hrest with rfl | ⟨k, cs', rfl, hne', hcs'⟩
    · rw [List.append_nil] at hcs ⊢
      rw [body_last hcs hw hspace since _ acc g hm ht, hgap]
    · obtain ⟨hcolumn, hstep⟩ := body_more k hcs hw hspace hne' hcs' since (0 + fuel) acc g hm tail
      have hlength : cs'.length ≤ n := by
        simp only [List.length_append, List.length_replicate] at hn
        omega
      rw [hstep, hgap, ih cs' hlength hcs' hne' _ _ _ rfl _ hcolumn (by omega)]
      simp [Mark.past_append]

/-- A text without quotes to the end of its line. -/
theorem read_line {cs : List Char} (h : Fits cs) (hne : cs ≠ []) {m : Mark} (hm : 0 < m.column) {tail : List Char}
    (ht : Stops tail) :
    read false 1 ⟨cs ++ '\n' :: tail, m⟩ = .ok ((String.ofList cs, true), ⟨tail, m.past (cs ++ ['\n'])⟩) := by
  have hlength : cs.length < (Cursor.mk (cs ++ '\n' :: tail) m).reach := by
    simp only [Cursor.reach, List.length_append, List.length_cons]
    omega
  rw [read, body_reads m cs.length cs (Nat.le_refl _) h hne _ _ _ rfl _ hm ht hlength]
  simp [Gap.empty]

/-- What the printer writes without quotes can stand so. -/
theorem fits_of_allowed {cs : List Char} (h : (allowed cs).plain = true) (hne : cs ≠ []) :
    Fits cs ∧ startsWithIndicator cs = false := by
  obtain ⟨c, rest, rfl⟩ := List.exists_cons_of_ne_nil hne
  simp only [allowed, Bool.and_eq_true, Bool.not_eq_true', Bool.or_eq_false_iff, Bool.not_eq_false',
    List.any_cons, List.any_nil, Bool.or_false] at h
  obtain ⟨⟨⟨⟨⟨⟨hfirst, hlast⟩, -⟩, hprint, -⟩, hline⟩, hstart⟩, hinner⟩ := h
  refine ⟨⟨List.all_eq_true.mp hprint, ?_, ?_, ?_, ?_⟩, hstart⟩
  · intro d hd
    rcases List.mem_cons.mp hd with rfl | hd
    · exact hline.1
    · simpa using List.any_eq_false.mp hline.2 d hd
  · simpa [isSpace] using hfirst.1
  · intro hback
    simp [hback, isSpace] at hlast
  · simp only [startsWithIndicator, Bool.or_eq_false_iff, Bool.and_eq_false_iff] at hstart
    obtain ⟨⟨⟨hindicator, hword⟩, -⟩, -⟩ := hstart
    have hhash : (c == '#') = false := by
      have : c ∉ "#,[]\x7b\x7d&*!|>'\"%@`".toList := by simpa using hindicator
      refine beq_eq_false_iff_ne.mpr fun heq => this (by simp [heq])
    have hcolon : (c == ':' && rest.head?.all isBlankOrBreak) = false := by
      rcases hword with hword | hword
      · rw [hword.1.2, Bool.false_and]
      · rw [hword, Bool.and_false]
    rw [holdsIndicator, hcolon, hhash, hinner]
    rfl

end Plain

end ApiStencil.Yaml
