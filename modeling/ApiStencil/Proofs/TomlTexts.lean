import ApiStencil.Toml.Printer
import ApiStencil.Toml.Scan
/-!
Texts between the quotes that suit them are read back, whatever stands behind the closing quotes. The reader
takes a run of quotes in one step while the writer counts them one by one, so what is read so far always has a
run of quotes that is still to be taken.
-/
set_option autoImplicit false

namespace ApiStencil.Toml

/-- A text does not begin with a mark. -/
def StartsOff (mark : Char) (cs : List Char) : Prop := cs.head? ≠ some mark

theorem StartsOff.cons {mark c : Char} (h : c ≠ mark) (cs : List Char) : StartsOff mark (c :: cs) := by
  simpa [StartsOff] using h

section Body
variable {q : Quote}

theorem takeWhile_run {mark : Char} {cs : List Char} (h : StartsOff mark cs) (n : Nat) :
    (List.replicate n mark ++ cs).takeWhile (· == mark) = List.replicate n mark := by
  have hcs : cs.takeWhile (· == mark) = [] := by
    cases cs with
    | nil => rfl
    | cons c cs =>
      have hc : c ≠ mark := by simpa [StartsOff] using h
      simp [hc]
  rw [List.takeWhile_append_of_pos (by simp), hcs, List.append_nil]

/-- Up to two quotes inside a text of several lines. -/
theorem textBody_run (hq : q.multiline = true) {n : Nat} (h0 : 0 < n) (h3 : n < 3) {cs : List Char}
    (hcs : StartsOff q.mark cs) (fuel : Nat) (acc : List Char) :
    textBody q (fuel + 1) acc (List.replicate n q.mark ++ cs) =
      textBody q fuel (List.replicate n q.mark ++ acc) cs := by
  obtain ⟨m, rfl⟩ := Nat.exists_eq_add_of_lt h0
  have hrun := takeWhile_run hcs (0 + m + 1)
  rw [List.replicate_succ, List.cons_append] at hrun ⊢
  rw [textBody]
  simp only [beq_self_eq_true, if_true, hq, hrun, List.length_cons, List.length_replicate, h3]
  rw [List.replicate_succ, List.cons_append, List.drop_succ_cons,
    List.drop_append_of_le_length (by simp), List.drop_eq_nil_of_le (by simp), List.nil_append]

/-- The closing quotes of a text of several lines, behind up to two that belong to it. -/
theorem textBody_close (hq : q.multiline = true) {n : Nat} (hn : n ≤ 2) {cs : List Char}
    (hcs : StartsOff q.mark cs) (fuel : Nat) (acc : List Char) :
    textBody q (fuel + 1) acc (List.replicate (n + 3) q.mark ++ cs) =
      .ok ((List.replicate n q.mark ++ acc).reverse, cs) := by
  have hrun := takeWhile_run hcs (n + 3)
  have hmin : min (n + 3 - 3) 2 = n := by omega
  have hdrop : (List.replicate (n + 3) q.mark ++ cs).drop (n + 3) = cs := by
    rw [List.drop_append_of_le_length (by simp), List.drop_eq_nil_of_le (by simp), List.nil_append]
  rw [List.replicate_succ, List.cons_append] at hrun hdrop ⊢
  rw [textBody]
  simp only [beq_self_eq_true, if_true, hq, hrun, List.length_cons, List.length_replicate]
  rw [if_neg (by omega), hmin, hdrop]

/-- The closing quote of a text on one line. -/
theorem textBody_close_line (hq : q.multiline = false) (fuel : Nat) (acc cs : List Char) :
    textBody q (fuel + 1) acc (q.mark :: cs) = .ok (acc.reverse, cs) := by
  rw [textBody]
  simp [hq]

/-- A character that stands for itself. -/
theorem textBody_char {c : Char} (hc : c ≠ q.mark) (hb : c ≠ '\\' ∨ q.escapes = false)
    (hin : isInLine c = true) (fuel : Nat) (acc cs : List Char) :
    textBody q (fuel + 1) acc (c :: cs) = textBody q fuel (c :: acc) cs := by
  have hb : ¬(c == '\\' && q.escapes) = true := by
    rcases hb with hb | hb <;> simp [hb]
  rw [textBody, if_neg (by simpa using hc), if_neg hb, if_pos hin]

theorem textBody_break (hq : q.multiline = true) (hm : q.mark ≠ '\n') (fuel : Nat) (acc cs : List Char) :
    textBody q (fuel + 1) acc ('\n' :: cs) = textBody q fuel ('\n' :: acc) cs := by
  rw [textBody, if_neg (by simpa using hm.symm), if_neg (by simp), if_neg (by decide), hq]
  rfl

/-- A backslash with what it escapes, unless a break comes next. -/
theorem textBody_escape (hm : q.mark ≠ '\\') (he : q.escapes = true) {cs rest : List Char} {d : Char}
    (hb : continued? cs = none) (hd : escaped cs = .ok (d, rest)) (fuel : Nat) (acc : List Char) :
    textBody q (fuel + 1) acc ('\\' :: cs) = textBody q fuel (d :: acc) rest := by
  rw [textBody, if_neg (by simpa using hm.symm), if_pos (by simp [he])]
  simp only [hb, ite_self, hd]

/-- What is written for a character: it is read in one step, and neither a quote nor another break begins it. -/
structure Piece (q : Quote) (c : Char) (piece : List Char) : Prop where
  starts : ∃ d rest, piece = d :: rest ∧ d ≠ q.mark ∧ d ≠ '\r' ∧ (d = '\n' → c = '\n')
  reads : ∀ fuel acc cs, textBody q (fuel + 1) acc (piece ++ cs) = textBody q fuel (c :: acc) cs

/-- A text and what is written for it between quotes, behind `n` of these. -/
inductive Written (q : Quote) : Nat → List Char → List Char → Prop
  | nil {n : Nat} : n ≤ q.maxRun → Written q n [] []
  | mark {n : Nat} {cs body : List Char} :
      n < q.maxRun → Written q (n + 1) cs body → Written q n (q.mark :: cs) (q.mark :: body)
  | piece {n : Nat} {c : Char} {piece cs body : List Char} :
      n ≤ q.maxRun → Piece q c piece → Written q 0 cs body → Written q n (c :: cs) (piece ++ body)

theorem Piece.startsOff {c : Char} {piece : List Char} (h : Piece q c piece) (cs : List Char) :
    StartsOff q.mark (piece ++ cs) := by
  obtain ⟨d, rest, rfl, hd, -⟩ := h.starts
  exact .cons hd _

theorem Piece.length_pos {c : Char} {piece : List Char} (h : Piece q c piece) : 0 < piece.length := by
  obtain ⟨d, rest, rfl, -⟩ := h.starts
  exact Nat.succ_pos _

/-- A run that is still to be taken is taken before a piece. -/
theorem textBody_pending {n : Nat} (hn : n ≤ q.maxRun) {cs : List Char} (hcs : StartsOff q.mark cs) {fuel : Nat}
    (acc : List Char) (hf : n + cs.length < fuel) :
    ∃ fuel', cs.length < fuel' ∧
      textBody q fuel acc (List.replicate n q.mark ++ cs) =
        textBody q fuel' (List.replicate n q.mark ++ acc) cs := by
  rcases Nat.eq_zero_or_pos n with rfl | h0
  · exact ⟨fuel, by omega, rfl⟩
  · obtain ⟨fuel, rfl⟩ := Nat.exists_eq_add_of_lt (Nat.zero_lt_of_lt hf)
    cases hq : q.multiline
    · simp [Quote.maxRun, hq] at hn
      omega
    · have h3 : n < 3 := by
        simp only [Quote.maxRun, hq, if_true] at hn
        omega
      exact ⟨0 + fuel, by omega, textBody_run hq h0 h3 hcs _ acc⟩

/-- What is written is read as the text, and reading stops behind the closing quotes. -/
theorem Written.reads {n : Nat} {cs body : List Char} (h : Written q n cs body) {tail : List Char}
    (ht : StartsOff q.mark tail) (fuel : Nat) (acc : List Char)
    (hf : n + (body ++ q.marks ++ tail).length < fuel) :
    textBody q fuel acc (List.replicate n q.mark ++ (body ++ q.marks ++ tail)) =
      .ok ((List.replicate n q.mark ++ acc).reverse ++ cs, tail) := by
  induction h generalizing fuel acc with
  | @nil n hn =>
    obtain ⟨fuel, rfl⟩ := Nat.exists_eq_add_of_lt (Nat.zero_lt_of_lt hf)
    cases hq : q.multiline
    · have h0 : n = 0 := by simpa [Quote.maxRun, hq] using hn
      subst h0
      simpa [Quote.marks, hq] using textBody_close_line hq (0 + fuel) acc tail
    · have hn : n ≤ 2 := by simpa [Quote.maxRun, hq] using hn
      have := textBody_close hq hn ht (0 + fuel) acc
      rw [← List.replicate_append_replicate, List.append_assoc] at this
      simpa [Quote.marks, hq] using this
  | @mark n cs body hn _ ih =>
    have := ih fuel acc (by simp only [List.cons_append, List.length_cons] at hf; omega)
    rw [List.reverse_append, List.reverse_replicate, List.replicate_succ', List.append_assoc] at this
    simpa using this
  | @piece n c piece cs body hn hp _ ih =>
    rw [List.append_assoc, List.append_assoc] at hf ⊢
    have hlen := hp.length_pos
    obtain ⟨fuel, hf', hrun⟩ := textBody_pending hn (hp.startsOff (body ++ (q.marks ++ tail))) acc hf
    rw [hrun]
    obtain ⟨fuel, rfl⟩ := Nat.exists_eq_add_of_lt (Nat.zero_lt_of_lt hf')
    rw [hp.reads, ← List.append_assoc]
    have := ih (0 + fuel) (c :: (List.replicate n q.mark ++ acc)) (by simp at hf' ⊢; omega)
    simpa using this

end Body

theorem isInLine_of {c : Char} (hc : isCode c = false) (hn : c ≠ '\n') : isInLine c = true := by
  simp only [isCode, isInLine, bne_iff_ne, Bool.or_eq_false_iff, Bool.and_eq_false_iff, decide_eq_false_iff_not,
    Bool.or_eq_true, Bool.and_eq_true, decide_eq_true_eq, beq_iff_eq, beq_eq_false_iff_ne, bne_eq_false_iff_eq] at hc ⊢
  obtain ⟨(h | h) | h, h127⟩ := hc
  · exact .inr ⟨by omega, h127⟩
  · exact .inl h
  · exact absurd h hn

/-! Writing with escapes. -/

theorem hexDigits4_spec : ∀ n < 128, (hexDigits4 n).length = 4 ∧ Decimal.ofBase? 16 (hexDigits4 n) = some n := by
  decide

theorem escaped_code {c : Char} (hc : c.toNat < 128) (cs : List Char) :
    escaped ('u' :: hexDigits4 c.toNat ++ cs) = .ok (c, cs) := by
  obtain ⟨hlen, hval⟩ := hexDigits4_spec c.toNat hc
  have htake : (hexDigits4 c.toNat ++ cs).take 4 = hexDigits4 c.toNat := by
    rw [← hlen, List.take_left]
  have hdrop : (hexDigits4 c.toNat ++ cs).drop 4 = cs := by
    rw [← hlen, List.drop_left]
  have hvalid : c.toNat.isValidChar := c.valid
  simp only [List.cons_append, escaped, hexCharacter, htake, hdrop, hlen, beq_self_eq_true, if_true, hval, hvalid,
    Char.ofNat_toNat]

theorem escape_piece {m : Bool} {c : Char} (hc : c ≠ '"') : Piece ⟨'"', m⟩ c (escape m c) := by
  have hm : (⟨'"', m⟩ : Quote).mark ≠ '\\' := by show '"' ≠ '\\'; decide
  have esc : ∀ (d : Char) (rest : List Char), (∀ cs, continued? (d :: cs) = none) →
      (∀ cs, escaped (d :: rest ++ cs) = .ok (c, cs)) → Piece ⟨'"', m⟩ c ('\\' :: d :: rest) := fun d rest hd he =>
    { starts := ⟨_, _, rfl, hm.symm, by decide, by simp⟩
      reads := fun fuel acc cs => textBody_escape hm rfl (hd _) (he cs) fuel acc }
  unfold escape
  split
  · exact esc _ _ (fun _ => rfl) fun _ => rfl
  · exact esc _ _ (fun _ => rfl) fun _ => rfl
  · split
    next hq =>
      exact
        { starts := ⟨_, _, rfl, hc, by decide, id⟩
          reads := textBody_break hq hc.symm }
    next => exact esc _ _ (fun _ => rfl) fun _ => rfl
  · exact esc _ _ (fun _ => rfl) fun _ => rfl
  · exact esc _ _ (fun _ => rfl) fun _ => rfl
  · exact esc _ _ (fun _ => rfl) fun _ => rfl
  next _ _ _ _ hr hb =>
    split
    next hcode =>
      refine esc _ _ (fun _ => rfl) (escaped_code ?_)
      simp only [Bool.or_eq_true, decide_eq_true_eq, beq_iff_eq] at hcode
      omega
    next hcode =>
      simp only [Bool.or_eq_true, decide_eq_true_eq, beq_iff_eq, not_or, Nat.not_lt] at hcode
      have hin : isInLine c = true := by simp [isInLine, hcode]
      exact
        { starts := ⟨_, _, rfl, hc, hr, id⟩
          reads := textBody_char hc (.inl hb) hin }

/-- Between double quotes every text can be written. -/
theorem escapeText_written (m : Bool) (cs : List Char) (n : Nat) (hn : n ≤ (⟨'"', m⟩ : Quote).maxRun) :
    Written ⟨'"', m⟩ n cs (escapeText ⟨'"', m⟩ n cs) := by
  induction cs generalizing n with
  | nil => exact .nil hn
  | cons c cs ih =>
    by_cases hc : c = '"'
    · subst hc
      rw [escapeText]
      split
      next hlt => exact .mark hlt (ih (n + 1) hlt)
      next =>
        have hm : (⟨'"', m⟩ : Quote).mark ≠ '\\' := by show '"' ≠ '\\'; decide
        have hpiece : Piece ⟨'"', m⟩ '"' ['\\', '"'] :=
          { starts := ⟨_, _, rfl, hm.symm, by decide, by simp⟩
            reads := fun fuel acc rest => textBody_escape hm rfl rfl rfl fuel acc }
        exact .piece hn hpiece (ih 0 (Nat.zero_le _))
    · rw [escapeText]
      · exact .piece hn (escape_piece hc) (ih 0 (Nat.zero_le _))
      · exact hc

theorem le_longestRun (mark : Char) (cs : List Char) (n : Nat) : n ≤ longestRun mark n cs := by
  induction cs generalizing n with
  | nil => exact Nat.le_refl n
  | cons c cs ih =>
    rw [longestRun]
    split
    · exact Nat.le_of_succ_le (ih (n + 1))
    · exact Nat.le_max_left _ _

/-- A text that holds no character that needs an escape, and no run of quotes that is too long, can be written as
it is. -/
theorem raw_written {q : Quote} (hq : q.mark = '\'') {cs : List Char} (n : Nat) (hcode : cs.any isCode = false)
    (hrun : longestRun q.mark n cs ≤ q.maxRun) (hb : q.multiline = true ∨ '\n' ∉ cs) : Written q n cs cs := by
  induction cs generalizing n with
  | nil => exact .nil hrun
  | cons c cs ih =>
    rw [List.any_cons, Bool.or_eq_false_iff] at hcode
    have hb' : q.multiline = true ∨ '\n' ∉ cs := hb.imp_right fun h hc => h (List.mem_cons_of_mem c hc)
    by_cases hc : c = q.mark
    · subst hc
      rw [longestRun, if_pos (beq_self_eq_true _)] at hrun
      exact .mark (Nat.lt_of_lt_of_le (le_longestRun _ cs (n + 1)) hrun) (ih (n + 1) hcode.2 hrun hb')
    · rw [longestRun, if_neg (by simpa using hc)] at hrun
      have hr : c ≠ '\r' := by
        rintro rfl
        exact absurd hcode.1 (by decide)
      have hpiece : Piece q c [c] := by
        refine { starts := ⟨_, _, rfl, hc, hr, id⟩, reads := ?_ }
        by_cases hn : c = '\n'
        · subst hn
          exact textBody_break (hb.resolve_right (by simp)) (Ne.symm hc)
        · exact textBody_char hc (.inr (by simp [Quote.escapes, hq])) (isInLine_of hcode.1 hn)
      exact .piece (by omega) hpiece (ih 0 hcode.2 (by omega) hb')

/-! Choosing the quotes. -/

/-- The quotes for a text are double ones, or single ones that suit it. -/
theorem ofText_cases (cs : List Char) :
    (∃ m, Quote.ofText cs = ⟨'"', m⟩) ∨ ∃ m, Quote.ofText cs = ⟨'\'', m⟩ ∧ (Quote.ofText cs).suits cs = true := by
  cases h : Quote.all.find? fun q => q.suits cs with
  | none => exact .inl ⟨cs.contains '\n', by rw [Quote.ofText, h]; rfl⟩
  | some q =>
    have hq : Quote.ofText cs = q := by rw [Quote.ofText, h]; rfl
    have hs : q.suits cs = true := by simpa using List.find?_some h
    have hmem := List.mem_of_find?_eq_some h
    simp only [Quote.all, List.mem_cons, List.not_mem_nil, or_false] at hmem
    rw [hq]
    rcases hmem with rfl | rfl | rfl | rfl
    · exact .inl ⟨_, rfl⟩
    · exact .inr ⟨_, rfl, hs⟩
    · exact .inl ⟨_, rfl⟩
    · exact .inr ⟨_, rfl, hs⟩

/-- What stands between the quotes that are chosen for a text. -/
def bodyOf (cs : List Char) : List Char :=
  if (Quote.ofText cs).escapes then escapeText (Quote.ofText cs) 0 cs else cs

theorem bodyOf_written (cs : List Char) : Written (Quote.ofText cs) 0 cs (bodyOf cs) := by
  rcases ofText_cases cs with ⟨m, hq⟩ | ⟨m, hq, hs⟩
  · simpa [bodyOf, hq, Quote.escapes] using escapeText_written m cs 0 (Nat.zero_le _)
  · have hb : bodyOf cs = cs := by simp [bodyOf, hq, Quote.escapes]
    simp only [Quote.suits, Bool.and_eq_true, Bool.not_eq_true', decide_eq_true_eq, Bool.or_eq_true] at hs
    obtain ⟨⟨⟨hcode, -⟩, hrun⟩, hm⟩ := hs
    rw [hb]
    refine raw_written (by rw [hq]) 0 hcode hrun (hm.imp_right fun h => ?_)
    simpa using h

/-- No break that the reader would leave out opens a text without breaks. -/
theorem Written.no_break {q : Quote} (hm : q.mark = '"' ∨ q.mark = '\'') {n : Nat} {cs body : List Char}
    (h : Written q n cs body) (hcs : '\n' ∉ cs) (tail : List Char) :
    lineBreak? (body ++ q.mark :: tail) = none := by
  have hmark : ∀ rest, lineBreak? (q.mark :: rest) = none := by
    intro rest
    rcases hm with hm | hm <;> rw [hm] <;> rfl
  cases h with
  | nil => exact hmark _
  | mark => exact hmark _
  | piece _ hp _ =>
    obtain ⟨d, rest, rfl, -, hr, hn⟩ := hp.starts
    have hn : d ≠ '\n' := fun hd => hcs (by simp [hn hd])
    unfold lineBreak?
    split
    · simp_all
    · simp_all
    · rfl

/-- On one line no quote stands at the front of what is written. -/
theorem Written.front {q : Quote} (hq : q.multiline = false) {cs body : List Char} (h : Written q 0 cs body) :
    body = [] ∨ ∀ tail, StartsOff q.mark (body ++ tail) := by
  cases h with
  | nil => exact .inl rfl
  | mark hn => exact absurd hn (by simp [Quote.maxRun, hq])
  | piece _ hp _ => exact .inr fun tail => by simpa using hp.startsOff _

theorem Written.textIn {q : Quote} {cs body : List Char} (h : Written q 0 cs body) {tail : List Char}
    (ht : StartsOff q.mark tail) :
    Reader.textIn q (body ++ q.marks ++ tail) = .ok (String.ofList cs, tail) := by
  rw [Reader.textIn]
  have := h.reads ht ((body ++ q.marks ++ tail).length + 1) [] (by omega)
  rw [List.replicate_zero, List.nil_append] at this
  rw [this]
  rfl

theorem Written.text_several {mark : Char} (hm : mark = '"' ∨ mark = '\'') {cs body : List Char}
    (h : Written ⟨mark, true⟩ 0 cs body) {tail : List Char} (ht : StartsOff mark tail) :
    Reader.text (mark :: mark :: mark :: ((if cs.contains '\n' then ['\n'] else []) ++
      (body ++ mark :: mark :: mark :: tail))) = .ok (String.ofList cs, tail) := by
  have htext : ∀ rest, Reader.text (mark :: mark :: mark :: rest) =
      Reader.textIn ⟨mark, true⟩ (skipFirstBreak rest) := by
    intro rest
    rcases hm with rfl | rfl <;> rfl
  have hskip : skipFirstBreak ((if cs.contains '\n' then ['\n'] else []) ++
      (body ++ mark :: mark :: mark :: tail)) = body ++ mark :: mark :: mark :: tail := by
    split
    next => rfl
    next hn => rw [List.nil_append, skipFirstBreak, h.no_break hm (by simpa using hn)]; rfl
  rw [htext, hskip]
  simpa [Quote.marks] using h.textIn ht

theorem Written.text_line {mark : Char} (hm : mark = '"' ∨ mark = '\'') {cs body : List Char}
    (h : Written ⟨mark, false⟩ 0 cs body) {tail : List Char} (ht : StartsOff mark tail) :
    Reader.text (mark :: (body ++ mark :: tail)) = .ok (String.ofList cs, tail) := by
  have hfront : ∀ rest, body ++ mark :: tail ≠ mark :: mark :: rest := by
    intro rest heq
    rcases h.front rfl with rfl | hoff
    · rw [List.nil_append, List.cons.injEq] at heq
      exact ht (by rw [heq.2]; rfl)
    · exact hoff (mark :: tail) (by rw [heq]; rfl)
  have htext : Reader.text (mark :: (body ++ mark :: tail)) =
      Reader.textIn ⟨mark, false⟩ (body ++ mark :: tail) := by
    unfold Reader.text
    split
    next heq =>
      obtain ⟨rfl, heq⟩ := List.cons.inj heq
      exact absurd heq (hfront _)
    next heq =>
      obtain ⟨rfl, heq⟩ := List.cons.inj heq
      exact absurd heq (hfront _)
    next => rcases hm with rfl | rfl <;> rfl
  rw [htext]
  simpa [Quote.marks] using h.textIn ht

/-- A text is read back from its quotes. -/
theorem text_renderText (s : String) {tail : List Char} (hd : StartsOff '"' tail) (hs : StartsOff '\'' tail) :
    Reader.text ((renderText s).toList ++ tail) = .ok (s, tail) := by
  have h := bodyOf_written s.toList
  have hbody : (renderText s).toList = (Quote.ofText s.toList).marks ++
      (if (Quote.ofText s.toList).multiline && s.toList.contains '\n' then ['\n'] else []) ++ bodyOf s.toList ++
        (Quote.ofText s.toList).marks := String.toList_ofList
  rw [hbody]
  obtain ⟨mark, m, hq, hm⟩ : ∃ mark m, Quote.ofText s.toList = ⟨mark, m⟩ ∧ (mark = '"' ∨ mark = '\'') := by
    rcases ofText_cases s.toList with ⟨m, hq⟩ | ⟨m, hq, -⟩
    · exact ⟨_, m, hq, .inl rfl⟩
    · exact ⟨_, m, hq, .inr rfl⟩
  have ht : StartsOff mark tail := by rcases hm with rfl | rfl <;> assumption
  rw [hq] at h ⊢
  cases m
  · simpa [Quote.marks] using h.text_line hm ht
  · simpa [Quote.marks] using h.text_several hm ht

end ApiStencil.Toml
