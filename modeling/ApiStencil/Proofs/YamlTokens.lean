import ApiStencil.Proofs.YamlBlocks
import ApiStencil.Proofs.YamlLookahead
import Mathlib.Logic.Relation
/-!
Tokens of a mapping in the first column: keys, the scalars behind them, and sequences of scalars. Each line is found
as its tokens, whatever stands on the lines behind it.
-/
set_option autoImplicit false

namespace ApiStencil.Yaml

theorem Mark.index_past (m : Mark) (cs : List Char) : (m.past cs).index = m.index + cs.length := by
  induction cs generalizing m with
  | nil => rfl
  | cons c cs ih =>
    rw [Mark.past, ih]
    split <;> simp only [Mark.nextLine, Mark.next, List.length_cons] <;> omega

/-- Behind a break the mark is further down. -/
theorem Mark.line_lt_past {cs : List Char} {b : Char} (hmem : b ∈ cs) (hb : isBreak b = true) (m : Mark) :
    m.line < (m.past cs).line := by
  obtain ⟨front, rest, rfl⟩ := List.append_of_mem hmem
  rw [Mark.past_append, Mark.past, if_pos hb]
  refine Nat.lt_of_lt_of_le ?_ (Mark.line_le_past _ rest)
  exact Nat.lt_succ_of_le (Mark.line_le_past m front)

/-- Whether a text begins with no white space, and with nothing that is passed over like it. -/
def Solid (cs : List Char) : Prop := cs.head?.all fun c => !isBlankOrBreak c && c != '#' && c != '\ufeff'

theorem Solid.stops {cs : List Char} (h : Solid cs) : Stops cs := by
  cases cs with
  | nil => rfl
  | cons c cs =>
    simp only [Solid, List.head?_cons, Option.all_some, Bool.and_eq_true] at h
    exact h.1.1

theorem Solid.append {cs : List Char} (h : Solid cs) (hne : cs ≠ []) (tail : List Char) : Solid (cs ++ tail) := by
  obtain ⟨c, cs, rfl⟩ := List.exists_cons_of_ne_nil hne
  exact h

namespace Cursor

theorem spanFrom_stops {p : Char → Bool} {cs : List Char} (h : cs.head?.all (!p ·)) (acc : List Char) (m : Mark) :
    spanFrom p acc m cs = (acc.reverse, ⟨cs, m⟩) := by
  cases cs with
  | nil => rfl
  | cons c cs =>
    have hc : p c = false := by simpa using h
    simp [spanFrom, hc]

theorem skipComment_solid {cs : List Char} (h : Solid cs) (m : Mark) : (Cursor.mk cs m).skipComment = ⟨cs, m⟩ := by
  cases cs with
  | nil => rfl
  | cons c cs =>
    simp only [Solid, List.head?_cons, Option.all_some, Bool.and_eq_true, bne_iff_ne] at h
    have hc : (some c == some '#') = false := by simpa using h.1.2
    rw [skipComment, List.head?_cons, hc]
    rfl

theorem atRule_of_ne {c r : Char} (h : c ≠ r) (rest : List Char) (m : Mark) : (Cursor.mk (c :: rest) m).atRule r = false := by
  have hr : (c == r) = false := beq_eq_false_iff_ne.mpr h
  unfold atRule
  split
  next heq =>
    obtain ⟨rfl, -⟩ := List.cons.inj heq
    simp [hr]
  next => simp

end Cursor

namespace Lexer

section Space

variable {cs : List Char} {m : Mark} {q : List Token} {n : Nat} {i : List Nat} {a : Bool} {c : Option Candidate}
variable {o : List (Option Candidate)}

theorem head_solid (h : Solid cs) (b : Bool) : cs.head?.all (fun c => !(c == ' ' || (c == '\t' && b))) := by
  cases cs with
  | nil => rfl
  | cons c cs =>
    simp only [Solid, List.head?_cons, Option.all_some, Bool.and_eq_true, isBlankOrBreak, isBlank] at h ⊢
    cases hs : c == ' ' <;> cases ht : c == '\t' <;> simp_all

theorem skipWhile_solid (h : Solid cs) (b : Bool) :
    (Cursor.mk cs m).skipWhile (fun c => c == ' ' || (c == '\t' && b)) = ⟨cs, m⟩ := by
  rw [Cursor.skipWhile, Cursor.span, Cursor.spanFrom_stops (head_solid h b)]

theorem skipSpace_solid (h : Solid cs) (fuel : Nat) :
    (Lexer.mk ⟨cs, m⟩ q n i a c o).skipSpace fuel = ⟨⟨cs, m⟩, q, n, i, a, c, o⟩ := by
  cases fuel with
  | zero => rfl
  | succ fuel =>
    have hmark : (Cursor.mk cs m).startsWith '\ufeff' = false := by
      cases cs with
      | nil => rfl
      | cons c cs =>
        simp only [Solid, List.head?_cons, Option.all_some, Bool.and_eq_true, bne_iff_ne] at h
        simpa [Cursor.startsWith] using h.2
    simp only [skipSpace, hmark, Bool.and_false, Bool.false_eq_true, if_false, skipWhile_solid h,
      Cursor.skipComment_solid h, Cursor.lineBreak?_stops h.stops]

/-- A space before a token. -/
theorem skipSpace_space (h : Solid cs) (fuel : Nat) :
    (Lexer.mk ⟨' ' :: cs, m⟩ q n i a c o).skipSpace (fuel + 1) = ⟨⟨cs, m.next⟩, q, n, i, a, c, o⟩ := by
  have hskip (b : Bool) : (Cursor.mk (' ' :: cs) m).skipWhile (fun c => c == ' ' || (c == '\t' && b)) = ⟨cs, m.next⟩ := by
    have hspace : (' ' == ' ' || (' ' == '\t' && b)) = true := rfl
    rw [Cursor.skipWhile, Cursor.span, Cursor.spanFrom, if_pos hspace, Cursor.spanFrom_stops (head_solid h b)]
  have hmark : (Cursor.mk (' ' :: cs) m).startsWith '\ufeff' = false := rfl
  simp only [skipSpace, hmark, Bool.and_false, Bool.false_eq_true, if_false, hskip,
    Cursor.skipComment_solid h, Cursor.lineBreak?_stops h.stops]

/-- The break at the end of a line. -/
theorem skipSpace_feed (h : Solid cs) (fuel : Nat) :
    (Lexer.mk ⟨'\n' :: cs, m⟩ q n i a c []).skipSpace (fuel + 1) = ⟨⟨cs, m.nextLine 1⟩, q, n, i, true, c, []⟩ := by
  have hskip (b : Bool) : (Cursor.mk ('\n' :: cs) m).skipWhile (fun c => c == ' ' || (c == '\t' && b)) = ⟨'\n' :: cs, m⟩ := by
    rw [Cursor.skipWhile, Cursor.span, Cursor.spanFrom_stops rfl]
  have hmark : (Cursor.mk ('\n' :: cs) m).startsWith '\ufeff' = false := rfl
  have hcomment : (Cursor.mk ('\n' :: cs) m).skipComment = ⟨'\n' :: cs, m⟩ := rfl
  have hbreak : (Cursor.mk ('\n' :: cs) m).lineBreak? = some ('\n', ⟨cs, m.nextLine 1⟩) := rfl
  simp only [skipSpace, hmark, Bool.and_false, Bool.false_eq_true, if_false, hskip, hcomment, hbreak]
  have hline : (Lexer.mk ⟨'\n' :: cs, m⟩ q n i a c []).skipLine ⟨cs, m.nextLine 1⟩ =
      ⟨⟨cs, m.nextLine 1⟩, q, n, i, true, c, []⟩ := by
    simp [skipLine, inFlow]
  rw [hline, skipSpace_solid h]

end Space

/-- The indentations around a line that begins in the first column. -/
def Flat (i : List Nat) : Prop := i = [] ∨ i = [0]

theorem unroll_flat {i : List Nat} (hi : Flat i) (k : Cursor) (q : List Token) (n : Nat) (a : Bool)
    (c : Option Candidate) (o : List (Option Candidate)) (column : Nat) :
    (Lexer.mk k q n i a c o).unroll column = ⟨k, q, n, i, a, c, o⟩ := by
  rcases hi with rfl | rfl <;> cases o <;> simp [unroll, inFlow, remaining, endBlocks]

theorem advance_of {l l₁ : Lexer} {k : Cursor} {q : List Token} {n : Nat} {i : List Nat} {a : Bool}
    {c : Option Candidate} {o : List (Option Candidate)} (hspace : l.skipSpace l.cursor.reach = l₁)
    (hstale : l₁.dropStale = .ok ⟨k, q, n, i, a, c, o⟩) (hi : Flat i) :
    l.advance = (Lexer.mk k q n i a c o).token := by
  rw [advance, hspace, hstale]
  exact congrArg token (unroll_flat hi k q n a c o _)

/-- Another token is found, and less of the text is left. -/
def Finds (l l' : Lexer) : Prop := l.advance = .ok l' ∧ l'.cursor.rest.length < l.cursor.rest.length

/-- The tokens of some lines have been found, and `tail` begins at the front of a line. A candidate that is left has
not become a key. -/
def AtLine (l : Lexer) (tail : List Char) (i : List Nat) (ks : List Token.Kind) : Prop :=
  ∃ m q c, m.column = 0 ∧ q.map (·.kind) = ks ∧ (∀ x ∈ c, x.required = false ∧ x.mark.line < m.line) ∧
    l.skipSpace l.cursor.reach = ⟨⟨tail, m⟩, q, 0, i, true, c, []⟩ ∧ tail.length ≤ l.cursor.rest.length

theorem dropStale_old {k : Cursor} {q : List Token} {n : Nat} {i : List Nat} {a : Bool} {c : Option Candidate}
    (hc : ∀ x ∈ c, x.required = false ∧ x.mark.line < k.mark.line) :
    (Lexer.mk k q n i a c []).dropStale = .ok ⟨k, q, n, i, a, none, []⟩ := by
  cases c with
  | none => rfl
  | some c =>
    obtain ⟨hrequired, hline⟩ := hc c rfl
    have hfresh : (Lexer.mk k q n i a (some c) []).fresh (some c) = .ok none := by
      simp [fresh, hrequired, hline]
    show ((Lexer.mk k q n i a (some c) []).fresh (some c) >>= fun candidate =>
      (Except.ok ⟨k, q, n, i, a, candidate, []⟩ : Except Fault Lexer)) = _
    rw [hfresh]
    rfl

theorem AtLine.advance {l : Lexer} {tail : List Char} {i : List Nat} {ks : List Token.Kind} (h : AtLine l tail i ks)
    (hi : Flat i) : ∃ m q, m.column = 0 ∧ q.map (·.kind) = ks ∧
      l.advance = (Lexer.mk ⟨tail, m⟩ q 0 i true none []).token ∧ tail.length ≤ l.cursor.rest.length := by
  obtain ⟨m, q, c, hm, hq, hc, hspace, hlength⟩ := h
  exact ⟨m, q, hm, hq, advance_of hspace (dropStale_old hc) hi, hlength⟩

/-- The end of a line, with nothing but a break left of it. -/
theorem atLine_feed {tail : List Char} (ht : Solid tail) {m : Mark} {q : List Token} {i : List Nat} {a : Bool}
    {c : Option Candidate} (hc : ∀ x ∈ c, x.required = false ∧ x.mark.line < m.line + 1) :
    AtLine ⟨⟨'\n' :: tail, m⟩, q, 0, i, a, c, []⟩ tail i (q.map (·.kind)) :=
  ⟨m.nextLine 1, q, c, rfl, rfl, hc, skipSpace_feed ht _, by simp⟩

theorem atLine_front {tail : List Char} (ht : Solid tail) {m : Mark} (hm : m.column = 0) {q : List Token}
    {i : List Nat} {c : Option Candidate} (hc : ∀ x ∈ c, x.required = false ∧ x.mark.line < m.line) :
    AtLine ⟨⟨tail, m⟩, q, 0, i, true, c, []⟩ tail i (q.map (·.kind)) :=
  ⟨m, q, c, hm, rfl, hc, skipSpace_solid ht _, Nat.le_refl _⟩

theorem AtLine.snoc {l : Lexer} {tail : List Char} {i : List Nat} {q : List Token} {t : Token}
    (h : AtLine l tail i ((q ++ [t]).map (·.kind))) : AtLine l tail i (q.map (·.kind) ++ [t.kind]) := by
  simpa using h

/-! Plain scalars, as keys and as values. -/

/-- Characters that begin something else than a plain scalar, wherever they stand. -/
def marks : List Char := "#,[]\x7b\x7d&*!|>'\"%@`".toList

theorem startsPlain_of {c : Char} {rest : List Char} (hmark : c ∉ marks) (hblank : isBlankOrBreak c = false)
    (hword : c = '-' ∨ c = '?' ∨ c = ':' → Cursor.endsWord rest = false) {l : Lexer} (hl : l.inFlow = false) :
    l.startsPlain c rest = true := by
  by_cases hc : c = '-' ∨ c = '?' ∨ c = ':'
  · have hrest := hword hc
    have hhead : rest.head?.any isBlank = false := by
      cases rest with
      | nil => rfl
      | cons d rest =>
        simp only [Cursor.endsWord, List.head?_cons, Option.all_some, isBlankOrBreak, Bool.or_eq_false_iff] at hrest
        exact hrest.1.1
    rcases hc with rfl | rfl | rfl <;> simp [startsPlain, hrest, hhead, hl]
  · have hnone : indicators.contains c = false := by
      have : indicators = '-' :: '?' :: ':' :: ",[]\x7b\x7d#&*!|>'\"%@`".toList := by decide
      have hsame : ",[]\x7b\x7d#&*!|>'\"%@`".toList.all marks.contains = true := by decide
      have hout : c ∉ ",[]\x7b\x7d#&*!|>'\"%@`".toList := fun h =>
        hmark (List.contains_iff_mem.mp (List.all_eq_true.mp hsame c h))
      simp only [not_or] at hc
      rw [this]
      simpa [hc] using hout
    simp only [startsPlain, hblank, hnone, Bool.or_self, Bool.not_false, Bool.true_or]

theorem token_plain {c : Char} {rest : List Char} {m : Mark} {q : List Token} {i : List Nat} {a : Bool}
    (hrule : (Cursor.mk (c :: rest) m).atDocumentRule = false) (hmark : c ∉ marks) (hblank : isBlankOrBreak c = false)
    (hword : c = '-' ∨ c = '?' ∨ c = ':' → Cursor.endsWord rest = false) :
    (Lexer.mk ⟨c :: rest, m⟩ q 0 i a none []).token = (Lexer.mk ⟨c :: rest, m⟩ q 0 i a none []).plain := by
  have hne : ∀ d ∈ marks, (c == d) = false := fun d hd => beq_eq_false_iff_ne.mpr fun h => hmark (h ▸ hd)
  have hnone (d : Char) (hd : d = '-' ∨ d = '?' ∨ d = ':') : (c == d && Cursor.endsWord rest) = false := by
    rw [Bool.and_eq_false_iff, beq_eq_false_iff_ne]
    by_cases h : c = d
    · exact .inr (hword (h ▸ hd))
    · exact .inl h
  have hplain := startsPlain_of hmark hblank hword (l := Lexer.mk ⟨c :: rest, m⟩ q 0 i a none []) rfl
  have hflow : (Lexer.mk ⟨c :: rest, m⟩ q 0 i a none []).inFlow = false := rfl
  rw [Cursor.atDocumentRule, Bool.or_eq_false_iff] at hrule
  simp only [token, hrule, hplain, hflow, hne '%' (by decide), hne '[' (by decide), hne '\x7b' (by decide),
    hne ']' (by decide), hne '\x7d' (by decide), hne ',' (by decide), hnone '-' (.inl rfl), hnone '?' (.inr (.inl rfl)),
    hnone ':' (.inr (.inr rfl)), hne '*' (by decide), hne '&' (by decide), hne '!' (by decide), hne '|' (by decide),
    hne '>' (by decide), hne '\'' (by decide), hne '"' (by decide), Bool.false_and, Bool.false_or,
    Bool.false_eq_true, if_false, if_true]

/-- What is kept of a token as a candidate, where a key may begin. -/
def saved (a : Bool) (i : List Nat) (q : List Token) (m : Mark) : Option Candidate :=
  if a then some ⟨i.head? == some m.column, q.length, m⟩ else none

theorem saveCandidate_eq (cs : List Char) (m : Mark) (q : List Token) (i : List Nat) (a : Bool) :
    (Lexer.mk ⟨cs, m⟩ q 0 i a none []).saveCandidate = .ok ⟨⟨cs, m⟩, q, 0, i, a, saved a i q m, []⟩ := by
  cases a with
  | false => rfl
  | true =>
    simp [saveCandidate, dropCandidate, inFlow, saved, Bind.bind, Except.bind, Pure.pure, Except.pure]

theorem plain_eq {cs : List Char} {m : Mark} {q : List Token} {i : List Nat} {a broken : Bool} {s : String} {k : Cursor}
    (hread : Plain.read false (Lexer.mk ⟨cs, m⟩ q 0 i a none []).margin ⟨cs, m⟩ = .ok ((s, broken), k)) :
    (Lexer.mk ⟨cs, m⟩ q 0 i a none []).plain =
      .ok ⟨k, q ++ [⟨.scalar s .plain, m, k.mark⟩], 0, i, broken, saved a i q m, []⟩ := by
  rw [plain]
  refine (Block.bind_ok (saveCandidate_eq cs m q i a)).trans ?_
  exact Block.bind_ok hread

theorem node_eq {cs : List Char} {m : Mark} {q : List Token} {i : List Nat} {a : Bool} {kind : Token.Kind} {k : Cursor}
    {read : Cursor → Except Fault (Token.Kind × Cursor)} (hread : read ⟨cs, m⟩ = .ok (kind, k)) :
    (Lexer.mk ⟨cs, m⟩ q 0 i a none []).node read =
      .ok ⟨k, q ++ [⟨kind, m, k.mark⟩], 0, i, false, saved a i q m, []⟩ := by
  rw [node]
  refine (Block.bind_ok (saveCandidate_eq cs m q i a)).trans ?_
  exact Block.bind_ok hread

theorem block_eq {cs : List Char} {m : Mark} {q : List Token} {a : Bool} {s : String} {k : Cursor}
    (hread : Block.read true 1 ⟨cs, m⟩ = .ok (s, k)) :
    (Lexer.mk ⟨cs, m⟩ q 0 [0] a none []).block true =
      .ok ⟨k, q ++ [⟨.scalar s .literal, m, k.mark⟩], 0, [0], true, none, []⟩ := by
  rw [block]
  refine (Block.bind_ok (a := Lexer.mk ⟨cs, m⟩ q 0 [0] a none []) rfl).trans ?_
  exact Block.bind_ok hread

/-! Scalars to the ends of their lines. -/

/-- A text that is found as one scalar, behind other characters of its first line and before any other line. -/
structure Scans (cs : List Char) (s : String) (f : Form) : Prop where
  solid : Solid cs
  ne_nil : cs ≠ []
  allowed : ∀ c ∈ cs, isAllowed c = true
  token (tail : List Char) (m : Mark) (q : List Token) (a : Bool) : 0 < m.column → Solid tail →
    ∃ l', (Lexer.mk ⟨cs ++ tail, m⟩ q 0 [0] a none []).token = .ok l' ∧ l'.cursor.rest.length < (cs ++ tail).length ∧
      AtLine l' tail [0] (q.map (·.kind) ++ [.scalar s f])

theorem mem_saved {a : Bool} {q : List Token} {m : Mark} (hm : 0 < m.column) {x : Candidate}
    (hx : x ∈ saved a [0] q m) : x.required = false ∧ x.mark = m := by
  cases a with
  | false => cases hx
  | true =>
    obtain rfl := Option.some.inj hx
    have : ¬ 0 = m.column := by omega
    simp [this]

theorem atDocumentRule_inside (cs : List Char) {m : Mark} (hm : 0 < m.column) :
    (Cursor.mk cs m).atDocumentRule = false := by
  simp [Cursor.atDocumentRule, Cursor.atRule, Nat.ne_of_gt hm]

theorem scans_plain {cs : List Char} (h : Plain.Fits cs) (hne : cs ≠ []) (hstart : startsWithIndicator cs = false) :
    Scans (cs ++ ['\n']) (String.ofList cs) .plain := by
  obtain ⟨c, rest, rfl⟩ := List.exists_cons_of_ne_nil hne
  simp only [startsWithIndicator, Bool.or_eq_false_iff, Bool.and_eq_false_iff] at hstart
  obtain ⟨⟨⟨hindicator, hword⟩, -⟩, -⟩ := hstart
  have hmark : c ∉ marks := fun hmem => by
    have : marks.contains c = true := List.contains_iff_mem.mpr hmem
    exact absurd (this.symm.trans hindicator) (by decide)
  have hblank : isBlankOrBreak c = false := by
    rw [h.isBlankOrBreak (by simp)]
    simpa using h.front
  have hsolid : Solid (c :: rest ++ ['\n']) := by
    have hhash : c ≠ '#' := fun heq => hmark (heq ▸ by decide)
    have hzero : c ≠ '\ufeff' := ne_of_printable (h.printable c (by simp)) (by decide)
    simp [Solid, hblank, hhash, hzero]
  refine ⟨hsolid, by simp, ?_, fun tail m q a hm ht => ?_⟩
  · intro d hd
    rcases List.mem_append.mp hd with hd | hd
    · exact isAllowed_of_printable (h.printable d hd)
    · exact List.mem_singleton.mp hd ▸ rfl
  have hends : c = '-' ∨ c = '?' ∨ c = ':' → Cursor.endsWord (rest ++ '\n' :: tail) = false := by
    intro hc
    rw [Plain.endsWord_append]
    rcases hword with hword | hword
    · rcases hc with rfl | rfl | rfl <;> simp at hword
    · exact hword
  have htext : c :: rest ++ ['\n'] ++ tail = c :: (rest ++ '\n' :: tail) := by simp
  have hread := Plain.read_line h hne hm ht.stops
  rw [List.cons_append] at hread
  rw [htext]
  have hshort : tail.length < (c :: (rest ++ '\n' :: tail)).length := by
    simp only [List.length_cons, List.length_append]
    omega
  refine ⟨_, (token_plain (atDocumentRule_inside _ hm) hmark hblank hends).trans (plain_eq hread), hshort, ?_⟩
  have hline : m.line < (m.past (c :: rest ++ ['\n'])).line := Mark.line_lt_past (b := '\n') (by simp) rfl m
  have hcolumn : (m.past (c :: rest ++ ['\n'])).column = 0 := by rw [Mark.past_append]; rfl
  exact AtLine.snoc (atLine_front ht hcolumn fun x hx => ⟨(mem_saved hm hx).1, (mem_saved hm hx).2 ▸ hline⟩)

theorem scans_quoted {single : Bool} {cs : List Char} (h : Quoted.Fits single cs) :
    Scans (Quoted.quote single :: (Quoted.written single cs ++ ['\n'])) (String.ofList cs) .quoted := by
  refine ⟨by cases single <;> rfl, by simp, ?_, fun tail m q a hm ht => ?_⟩
  · intro d hd
    rw [← List.cons_append] at hd
    rcases List.mem_append.mp hd with hd | hd
    · exact Quoted.written_allowed h d hd
    · exact List.mem_singleton.mp hd ▸ rfl
  have htext : Quoted.quote single :: (Quoted.written single cs ++ ['\n']) ++ tail =
      Quoted.quote single :: (Quoted.written single cs ++ '\n' :: tail) := by simp
  have hread := Quoted.read_written h m (show ('\n' :: tail).head? ≠ some '\'' by simp)
  rw [htext]
  have htoken : (Lexer.mk ⟨Quoted.quote single :: (Quoted.written single cs ++ '\n' :: tail), m⟩ q 0 [0] a none []).token =
      (Lexer.mk ⟨Quoted.quote single :: (Quoted.written single cs ++ '\n' :: tail), m⟩ q 0 [0] a none []).quoted single := by
    cases single with
    | true => simp [token, Cursor.atRule_of_ne, Quoted.quote, inFlow]
    | false => simp [token, Cursor.atRule_of_ne, Quoted.quote, inFlow]
  refine ⟨_, htoken.trans (node_eq (by rw [hread]; rfl)), ?_, ?_⟩
  · simp only [List.length_cons, List.length_append]
    omega
  · refine AtLine.snoc (atLine_feed ht fun x hx => ⟨(mem_saved hm hx).1, ?_⟩)
    rw [(mem_saved hm hx).2]
    exact Nat.lt_succ_of_le (Mark.line_le_past m _)

theorem getLast?_indented (n : Nat) (fresh : Bool) (cs : List Char) : (indented n fresh cs).getLast? = cs.getLast? := by
  induction cs generalizing fresh with
  | nil => rfl
  | cons c cs ih =>
    simp [indented, List.getLast?_append, List.getLast?_cons, ih]

/-- A literal block ends with a break. -/
theorem written_last (cs : List Char) : (Block.written cs).getLast?.any isBreak = true := by
  rw [Block.written, Block.close]
  split
  next h => rwa [List.append_nil, getLast?_indented]
  next h => simp [isBreak]

theorem column_last {cs : List Char} (h : cs.getLast?.any isBreak = true) (m : Mark) : (m.past cs).column = 0 := by
  rcases List.eq_nil_or_concat cs with rfl | ⟨init, b, rfl⟩
  · simp at h
  · have hb : isBreak b = true := by simpa [List.concat_eq_append] using h
    rw [List.concat_eq_append, Mark.past_append, Mark.past, if_pos hb]
    rfl

theorem scans_literal {cs : List Char} (h : Block.Fits cs) (hne : cs ≠ []) :
    Scans ('|' :: ((literalHints cs).toList ++ '\n' :: Block.written cs)) (String.ofList cs) .literal := by
  refine ⟨rfl, by simp, ?_, fun tail m q a hm ht => ?_⟩
  · intro d hd
    simp only [List.mem_cons, List.mem_append] at hd
    rcases hd with rfl | hd | rfl | hd
    · rfl
    · exact Block.literalHints_allowed cs d hd
    · rfl
    · exact Block.written_allowed h d hd
  have hread := Block.read_written h hne m ht.stops
  have htext : '|' :: ((literalHints cs).toList ++ '\n' :: Block.written cs) ++ tail =
      '|' :: ((literalHints cs).toList ++ '\n' :: (Block.written cs ++ tail)) := by simp
  have hcolumn : (m.past ('|' :: ((literalHints cs).toList ++ '\n' :: Block.written cs))).column = 0 := by
    have : '|' :: ((literalHints cs).toList ++ '\n' :: Block.written cs) =
        '|' :: ((literalHints cs).toList ++ ['\n']) ++ Block.written cs := by simp
    rw [this, Mark.past_append]
    exact column_last (written_last cs) _
  rw [htext]
  have htoken (rest : List Char) : (Lexer.mk ⟨'|' :: rest, m⟩ q 0 [0] a none []).token =
      (Lexer.mk ⟨'|' :: rest, m⟩ q 0 [0] a none []).block true := by
    simp [token, Cursor.atRule_of_ne, inFlow]
  refine ⟨_, (htoken _).trans (block_eq hread), ?_, ?_⟩
  · simp only [List.length_cons, List.length_append]
    omega
  · exact AtLine.snoc (atLine_front ht hcolumn (by simp))

/-- The last character between quotes is the quote. -/
theorem quoted_last (single : Bool) (cs : List Char) :
    (Quoted.quote single :: Quoted.written single cs).getLast?.any isBreak = false := by
  rw [List.getLast?_cons, Quoted.written, getLast?_indented]
  simp [Quoted.quote_line]

/-- A scalar as it stands behind its key or hyphen, with the end of its last line. -/
def scalarLine (s : String) : List Char := (closeLine (scalarText 2 false s)).toList

theorem toList_closeLine (s : String) :
    (closeLine s).toList = if s.toList.getLast?.any isBreak then s.toList else s.toList ++ ['\n'] := by
  rw [closeLine]
  split
  · rfl
  · rw [String.toList_append]
    rfl

theorem wanted_feed (s : String) : wanted s = .literal ↔ '\n' ∈ s.toList := by
  rw [wanted, List.contains_eq_mem]
  by_cases h : '\n' ∈ s.toList
  · simp [h]
  · simp only [h, decide_false, Bool.false_eq_true, if_false, iff_false]
    split
    · split <;> simp
    · simp

theorem wanted_ne_double (s : String) : wanted s ≠ .double := by
  rw [wanted]
  split
  · simp
  · split
    · split <;> simp
    · simp

/-- What a style asks of the text. -/
theorem styleOf_cases (s : String) :
    (styleOf false s = .plain ∧ (allowed s.toList).plain = true ∧ s.toList ≠ []) ∨
      (styleOf false s = .single ∧ (allowed s.toList).single = true ∧ '\n' ∉ s.toList) ∨
      styleOf false s = .double ∨ (styleOf false s = .literal ∧ (allowed s.toList).literal = true) := by
  have hquoted (hfeed : '\n' ∉ s.toList) (h : styleOf false s = if (allowed s.toList).single then .single else .double) :
      (styleOf false s = .single ∧ (allowed s.toList).single = true ∧ '\n' ∉ s.toList) ∨ styleOf false s = .double := by
    cases hs : (allowed s.toList).single with
    | true => exact .inl ⟨by simpa [hs] using h, rfl, hfeed⟩
    | false => exact .inr (by simpa [hs] using h)
  cases hw : wanted s with
  | plain =>
    have hfeed : '\n' ∉ s.toList := fun h => by simp [(wanted_feed s).mpr h] at hw
    cases hp : (allowed s.toList).plain with
    | true =>
      refine .inl ⟨by simp [styleOf, hw, hp], rfl, fun hempty => ?_⟩
      obtain rfl : s = "" := String.toList_eq_nil_iff.mp hempty
      exact absurd hw (by decide)
    | false =>
      rcases hquoted hfeed (by simp [styleOf, hw, hp]) with h | h
      · exact .inr (.inl h)
      · exact .inr (.inr (.inl h))
  | single =>
    have hfeed : '\n' ∉ s.toList := fun h => by simp [(wanted_feed s).mpr h] at hw
    rcases hquoted hfeed (by simp [styleOf, hw]) with h | h
    · exact .inr (.inl h)
    · exact .inr (.inr (.inl h))
  | double => exact absurd hw (wanted_ne_double s)
  | literal =>
    cases hl : (allowed s.toList).literal with
    | true => exact .inr (.inr (.inr ⟨by simp [styleOf, hw, hl], rfl⟩))
    | false => exact .inr (.inr (.inl (by simp [styleOf, hw, hl])))

/-- The scalar of any text is found as that text. -/
theorem scans_line (s : String) : ∃ f, Scans (scalarLine s) s f := by
  rcases styleOf_cases s with ⟨hstyle, hallowed, hne⟩ | ⟨hstyle, hallowed, hfeed⟩ | hstyle | ⟨hstyle, hallowed⟩
  · obtain ⟨hfits, hstart⟩ := Plain.fits_of_allowed hallowed hne
    have hlast : s.toList.getLast?.any isBreak = false := by
      obtain ⟨init, c, hs⟩ := (List.eq_nil_or_concat s.toList).resolve_left hne
      have := hfits.line c (by simp [hs])
      simp [hs, List.concat_eq_append, this]
    have hline : scalarLine s = s.toList ++ ['\n'] := by
      rw [scalarLine, scalarText, hstyle, toList_closeLine, hlast]
      rfl
    have := scans_plain hfits hne hstart
    rw [String.ofList_toList] at this
    exact ⟨_, hline ▸ this⟩
  · have hline : scalarLine s = Quoted.quote true :: (Quoted.written true s.toList ++ ['\n']) := by
      rw [scalarLine, scalarText, hstyle, toList_closeLine, Quoted.toList_singleQuoted, quoted_last]
      rfl
    have := scans_quoted (Quoted.fits_of_allowed hallowed hfeed)
    rw [String.ofList_toList] at this
    exact ⟨_, hline ▸ this⟩
  · have hline : scalarLine s = Quoted.quote false :: (Quoted.written false s.toList ++ ['\n']) := by
      rw [scalarLine, scalarText, hstyle, toList_closeLine, Quoted.toList_doubleQuoted, quoted_last]
      rfl
    have := scans_quoted (Quoted.fits_double s.toList)
    rw [String.ofList_toList] at this
    exact ⟨_, hline ▸ this⟩
  · obtain ⟨hfits, hne⟩ := Block.fits_of_allowed hallowed
    have hline : scalarLine s = '|' :: ((literalHints s.toList).toList ++ '\n' :: Block.written s.toList) := by
      have htext : ("|" ++ literalHints s.toList ++ literalLines 2 s).toList =
          '|' :: ((literalHints s.toList).toList ++ '\n' :: indented 2 true s.toList) := by
        simp [literalLines]
      have hlast : ('|' :: ((literalHints s.toList).toList ++ '\n' :: indented 2 true s.toList)).getLast?.any isBreak =
          s.toList.getLast?.any isBreak := by
        obtain ⟨init, c, hs⟩ := (List.eq_nil_or_concat s.toList).resolve_left hne
        rw [List.getLast?_cons, List.getLast?_append, List.getLast?_cons, getLast?_indented]
        simp [hs, List.concat_eq_append]
      rw [scalarLine, scalarText, hstyle, toList_closeLine, htext, hlast, Block.written, Block.close]
      split <;> simp
    have := scans_literal hfits hne
    rw [String.ofList_toList] at this
    exact ⟨_, hline ▸ this⟩

/-! Keys. -/

/-- Names that stand as keys as they are. -/
def IsKey (name : List Char) : Prop := name ≠ [] ∧ name.length ≤ maxKey ∧ ∀ c ∈ name, c.isLower ∨ c = '_'

instance (name : List Char) : Decidable (IsKey name) :=
  decidable_of_iff (name ≠ [] ∧ name.length ≤ maxKey ∧ (name.all fun c => c.isLower || c == '_') = true)
    (by simp [IsKey])

/-- The lexer stands behind the colon of a key. -/
def AtValue (l : Lexer) (rest : List Char) (ks : List Token.Kind) : Prop :=
  ∃ m q, 0 < m.column ∧ q.map (·.kind) = ks ∧ l = ⟨⟨rest, m⟩, q, 0, [0], false, none, []⟩

theorem key_char {c : Char} (h : c.isLower ∨ c = '_') :
    isBlankOrBreak c = false ∧ c ∉ marks ∧ c ≠ '-' ∧ c ≠ '.' ∧ c ≠ '?' ∧ c ≠ ':' := by
  have hne (d : Char) (hd : d.isLower = false) (hd' : d ≠ '_') : c ≠ d := by
    rintro rfl
    simp [hd, hd'] at h
  refine ⟨?_, fun hmem => ?_, hne _ rfl (by decide), hne _ rfl (by decide), hne _ rfl (by decide), hne _ rfl (by decide)⟩
  · simp [isBlankOrBreak, isBlank, isBreak, hne ' ' rfl (by decide), hne '\t' rfl (by decide),
      hne '\x00' rfl (by decide), hne '\n' rfl (by decide), hne '\r' rfl (by decide), hne '\u0085' rfl (by decide),
      hne '\u2028' rfl (by decide), hne '\u2029' rfl (by decide)]
  · have hmarks : marks.all (fun d => !d.isLower && d != '_') = true := by decide
    have hout := List.all_eq_true.mp hmarks c hmem
    simp only [Bool.and_eq_true, Bool.not_eq_true', bne_iff_ne] at hout
    exact hne c hout.1 hout.2 rfl

theorem word_key {rest : List Char} (hrest : Cursor.endsWord rest = true) (since : Mark) (name : List Char)
    (hname : ∀ c ∈ name, c.isLower ∨ c = '_') (acc : List Char) (m : Mark) :
    Plain.word false since acc m (name ++ ':' :: rest) = .ok (name.reverse ++ acc, ⟨':' :: rest, m.past name⟩) := by
  induction name generalizing acc m with
  | nil =>
    have hends : Plain.endsAt false (':' :: rest) = true := by simp [Plain.endsAt, hrest]
    rw [List.nil_append, Plain.word]
    simp [Plain.isClash_block, hends, isBlankOrBreak, isBlank, isBreak, Mark.past]
  | cons c name ih =>
    obtain ⟨hblank, -, -, -, -, hcolon⟩ := key_char (hname c (by simp))
    have hends : Plain.endsAt false (c :: (name ++ ':' :: rest)) = false := by simp [Plain.endsAt, hcolon]
    have hb : isBreak c = false := by
      simp only [isBlankOrBreak, Bool.or_eq_false_iff] at hblank
      exact hblank.2
    rw [List.cons_append, Plain.word]
    simp only [hblank, Plain.isClash_block, hends, Bool.false_eq_true, if_false]
    rw [ih fun d hd => hname d (List.mem_cons_of_mem _ hd)]
    simp [Mark.past, hb]

theorem read_key {name rest : List Char} (hname : IsKey name) (hrest : Cursor.endsWord rest = true) (margin : Nat)
    (m : Mark) : Plain.read false margin ⟨name ++ ':' :: rest, m⟩ =
      .ok ((String.ofList name, false), ⟨':' :: rest, m.past name⟩) := by
  obtain ⟨hne, -, hlower⟩ := hname
  have hword := word_key hrest m name hlower [] m
  obtain ⟨c, name, rfl⟩ := List.exists_cons_of_ne_nil hne
  obtain ⟨-, hmark, hdash, hdot, -⟩ := key_char (hlower c (by simp))
  have hrule : (Cursor.mk (c :: name ++ ':' :: rest) m).atDocumentRule = false := by
    simp [Cursor.atDocumentRule, Cursor.atRule_of_ne hdash, Cursor.atRule_of_ne hdot]
  have hhash : (Cursor.mk (c :: name ++ ':' :: rest) m).startsWith '#' = false := by
    have : c ≠ '#' := fun heq => hmark (heq ▸ by decide)
    simpa [Cursor.startsWith] using this
  obtain ⟨d, ds, hrev⟩ := List.exists_cons_of_ne_nil (mt List.reverse_eq_nil_iff.mp hne)
  rw [Plain.read, Cursor.reach, Plain.body]
  simp only [hrule, hhash, Bool.or_self, Bool.false_eq_true, if_false, hword, List.append_nil, hrev]
  have hcolon : (!(':' :: rest).head?.any isBlankOrBreak) = true := rfl
  rw [if_pos hcolon, ← hrev]
  simp [Gap.text, Gap.empty]

/-- A candidate stays one on its line. -/
theorem dropStale_key {k : Cursor} {q : List Token} {n : Nat} {i : List Nat} {a : Bool} {c : Candidate}
    (hline : k.mark.line = c.mark.line) (hindex : k.mark.index ≤ c.mark.index + maxKey) :
    (Lexer.mk k q n i a (some c) []).dropStale = .ok ⟨k, q, n, i, a, some c, []⟩ := by
  have hfresh : (Lexer.mk k q n i a (some c) []).fresh (some c) = .ok (some c) := by
    have hold : ¬ (c.mark.line < k.mark.line || c.mark.index + maxKey < k.mark.index) = true := by
      simp [hline, hindex]
    rw [fresh, if_neg hold]
  show ((Lexer.mk k q n i a (some c) []).fresh (some c) >>= fun candidate =>
    (Except.ok ⟨k, q, n, i, a, candidate, []⟩ : Except Fault Lexer)) = _
  rw [hfresh]
  rfl

/-- The mapping begins with its first key. -/
def opening (i : List Nat) (m : Mark) : List Token := if i = [] then [⟨.blockMapping, m, m⟩] else []

theorem value_eq {i : List Nat} (hi : Flat i) {m : Mark} (hm : m.column = 0) (rest : List Char) (m' : Mark)
    (q : List Token) (t : Token) (r : Bool) :
    (Lexer.mk ⟨':' :: rest, m'⟩ (q ++ [t]) 0 i false (some ⟨r, q.length, m⟩) []).value =
      .ok ⟨⟨rest, m'.next⟩, q ++ (opening i m ++ [⟨.key, m, m⟩, t, ⟨.value, m', m'.next⟩]), 0, [0], false, none, []⟩ := by
  rcases hi with rfl | rfl <;>
    simp [value, insertAt, roll, inFlow, mark, push, hm, opening, Cursor.skip, Cursor.next, Pure.pure, Except.pure]

theorem advance_value {i : List Nat} (hi : Flat i) {m : Mark} (hm : m.column = 0) {rest : List Char}
    (hrest : Cursor.endsWord rest = true) {m' : Mark} (hline : m'.line = m.line) (hindex : m'.index ≤ m.index + maxKey)
    (q : List Token) (t : Token) (r : Bool) :
    (Lexer.mk ⟨':' :: rest, m'⟩ (q ++ [t]) 0 i false (some ⟨r, q.length, m⟩) []).advance =
      .ok ⟨⟨rest, m'.next⟩, q ++ (opening i m ++ [⟨.key, m, m⟩, t, ⟨.value, m', m'.next⟩]), 0, [0], false, none, []⟩ := by
  have hsolid : Solid (':' :: rest) := rfl
  refine (advance_of (skipSpace_solid hsolid _) (dropStale_key hline hindex) hi).trans ?_
  rw [← value_eq hi hm rest m' q t r]
  simp [token, Cursor.atRule_of_ne, hrest]

/-- A key and its colon. -/
theorem finds_key {l : Lexer} {name rest : List Char} {i : List Nat} {ks : List Token.Kind}
    (h : AtLine l (name ++ ':' :: rest) i ks) (hi : Flat i) (hname : IsKey name) (hrest : Cursor.endsWord rest = true) :
    ∃ l', Relation.ReflTransGen Finds l l' ∧ AtValue l' rest
      (ks ++ ((if i = [] then [Token.Kind.blockMapping] else []) ++ [.key, .scalar (String.ofList name) .plain, .value])) := by
  obtain ⟨m, q, hm, rfl, hadvance, hlength⟩ := h.advance hi
  obtain ⟨hne, hmax, hlower⟩ := hname
  have hline : ∀ c ∈ name, isBreak c = false := fun c hc => by
    have := (key_char (hlower c hc)).1
    simp only [isBlankOrBreak, Bool.or_eq_false_iff] at this
    exact this.2
  have hscalar : l.advance = .ok ⟨⟨':' :: rest, m.past name⟩, q ++ [⟨.scalar (String.ofList name) .plain, m, m.past name⟩], 0,
      i, false, saved true i q m, []⟩ := by
    rw [hadvance]
    have hread := fun margin => read_key ⟨hne, hmax, hlower⟩ hrest margin m
    obtain ⟨c, name, rfl⟩ := List.exists_cons_of_ne_nil hne
    obtain ⟨hblank, hmark, hdash, hdot, hask, hcolon⟩ := key_char (hlower c (by simp))
    have hrule : (Cursor.mk (c :: (name ++ ':' :: rest)) m).atDocumentRule = false := by
      simp [Cursor.atDocumentRule, Cursor.atRule_of_ne hdash, Cursor.atRule_of_ne hdot]
    exact (token_plain hrule hmark hblank (by simp [hdash, hask, hcolon])).trans (plain_eq (hread _))
  obtain ⟨hsame, hcolumn⟩ := Mark.past_line hline m
  have hindex : (m.past name).index ≤ m.index + maxKey := by
    rw [Mark.index_past]
    omega
  have hvalue := advance_value hi hm hrest hsame hindex q ⟨.scalar (String.ofList name) .plain, m, m.past name⟩
    (i.head? == some m.column)
  have hpos : 0 < name.length := List.length_pos_iff.mpr hne
  refine ⟨_, .tail (.single ⟨hscalar, ?_⟩) ⟨hvalue, by simp⟩, (m.past name).next, _, Nat.succ_pos _, ?_, rfl⟩
  · simp only [List.length_append, List.length_cons] at hlength ⊢
    omega
  · rcases hi with rfl | rfl <;> simp [opening]

/-! Values. -/

/-- A scalar behind its key. -/
theorem finds_value {l : Lexer} {cs tail : List Char} {s : String} {f : Form} {ks : List Token.Kind}
    (h : AtValue l (' ' :: (cs ++ tail)) ks) (hcs : Scans cs s f) (ht : Solid tail) :
    ∃ l', Relation.ReflTransGen Finds l l' ∧ AtLine l' tail [0] (ks ++ [.scalar s f]) := by
  obtain ⟨m, q, hm, rfl, rfl⟩ := h
  obtain ⟨hsolid, hne, -, hscan⟩ := hcs
  obtain ⟨l', htoken, hlength, hline⟩ := hscan tail m.next q false (Nat.succ_pos _) ht
  have hadvance := advance_of (l := Lexer.mk ⟨' ' :: (cs ++ tail), m⟩ q 0 [0] false none [])
    (skipSpace_space (hsolid.append hne tail) _) (dropStale_old (by simp)) (.inr rfl)
  refine ⟨l', .single ⟨hadvance.trans htoken, ?_⟩, hline⟩
  simp only [List.length_cons]
  omega

/-- Brackets with nothing between them. -/
theorem finds_brackets {l : Lexer} {tail : List Char} {ks : List Token.Kind}
    (h : AtValue l (' ' :: '[' :: ']' :: '\n' :: tail) ks) (ht : Solid tail) :
    ∃ l', Relation.ReflTransGen Finds l l' ∧ AtLine l' tail [0] (ks ++ [.flowSequence, .flowSequenceEnd]) := by
  obtain ⟨m, q, hm, rfl, rfl⟩ := h
  have hopen : (Lexer.mk ⟨' ' :: '[' :: ']' :: '\n' :: tail, m⟩ q 0 [0] false none []).advance =
      .ok ⟨⟨']' :: '\n' :: tail, m.next.next⟩, q ++ [⟨.flowSequence, m.next, m.next.next⟩], 0, [0], true, none, [none]⟩ := by
    have hsolid : Solid ('[' :: ']' :: '\n' :: tail) := rfl
    refine (advance_of (c := none) (skipSpace_space hsolid _) rfl (.inr rfl)).trans ?_
    simp [token, Cursor.atRule_of_ne, openFlow, saveCandidate, mark, push, Cursor.skip, Cursor.next, Bind.bind, Except.bind,
      Pure.pure, Except.pure]
  have hclose : (Lexer.mk ⟨']' :: '\n' :: tail, m.next.next⟩ (q ++ [⟨.flowSequence, m.next, m.next.next⟩]) 0 [0] true none
      [none]).advance = .ok ⟨⟨'\n' :: tail, m.next.next.next⟩, q ++ [⟨.flowSequence, m.next, m.next.next⟩,
        ⟨.flowSequenceEnd, m.next.next, m.next.next.next⟩], 0, [0], false, none, []⟩ := by
    have hsolid : Solid (']' :: '\n' :: tail) := rfl
    refine (advance_of (c := none) (skipSpace_solid hsolid _) rfl (.inr rfl)).trans ?_
    simp [token, Cursor.atRule_of_ne, closeFlow, dropCandidate, mark, push, Cursor.skip, Cursor.next, Bind.bind, Except.bind,
      Pure.pure, Except.pure]
  refine ⟨_, .tail (.single ⟨hopen, by simp⟩) ⟨hclose, by simp⟩, ?_⟩
  have := atLine_feed ht (m := m.next.next.next) (q := q ++ [⟨.flowSequence, m.next, m.next.next⟩,
    ⟨.flowSequenceEnd, m.next.next, m.next.next.next⟩]) (i := [0]) (a := false) (c := none) (by simp)
  simpa using this

/-- An item of a sequence in the column of its key. -/
theorem finds_item {l : Lexer} {cs tail : List Char} {s : String} {f : Form} {ks : List Token.Kind}
    (h : AtLine l ('-' :: ' ' :: (cs ++ tail)) [0] ks) (hcs : Scans cs s f) (ht : Solid tail) :
    ∃ l', Relation.ReflTransGen Finds l l' ∧ AtLine l' tail [0] (ks ++ [.blockEntry, .scalar s f]) := by
  obtain ⟨m, q, hm, rfl, hadvance, hlength⟩ := h.advance (.inr rfl)
  obtain ⟨hsolid, hne, -, hscan⟩ := hcs
  have hentry : l.advance = .ok ⟨⟨' ' :: (cs ++ tail), m.next⟩, q ++ [⟨.blockEntry, m, m.next⟩], 0, [0], true, none, []⟩ := by
    rw [hadvance]
    have hrule : (Cursor.mk ('-' :: ' ' :: (cs ++ tail)) m).atRule '-' = false := by
      generalize cs ++ tail = rest
      cases rest <;> simp [Cursor.atRule]
    have hword : Cursor.endsWord (' ' :: (cs ++ tail)) = true := rfl
    simp [token, Cursor.atRule_of_ne, hrule, hword, blockEntry, rollHere, roll, inFlow, dropCandidate, mark, push, Cursor.skip,
      Cursor.next, hm, Bind.bind, Except.bind, Pure.pure, Except.pure]
  obtain ⟨l', htoken, hshort, hline⟩ := hscan tail m.next.next (q ++ [⟨.blockEntry, m, m.next⟩]) true (Nat.succ_pos _) ht
  have hscalar := advance_of (l := Lexer.mk ⟨' ' :: (cs ++ tail), m.next⟩ (q ++ [⟨.blockEntry, m, m.next⟩]) 0 [0] true none [])
    (skipSpace_space (hsolid.append hne tail) _) (dropStale_old (by simp)) (.inr rfl)
  refine ⟨l', .tail (.single ⟨hentry, ?_⟩) ⟨hscalar.trans htoken, ?_⟩, by simpa using hline⟩
  · simp only [List.length_cons] at hlength ⊢
    omega
  · simp only [List.length_cons]
    omega

/-! The whole text. -/

/-- At the end of the text the mapping ends. -/
theorem finds_end {l : Lexer} {ks : List Token.Kind} (h : AtLine l [] [0] ks) :
    ∃ l', l.advance = .ok l' ∧ l'.queue.map (·.kind) = ks ++ [.blockEnd, .streamEnd] ∧ l'.candidate = none ∧
      l'.outer = [] := by
  obtain ⟨m, q, hm, rfl, hadvance, -⟩ := h.advance (.inr rfl)
  refine ⟨⟨⟨[], m⟩, q ++ [⟨.blockEnd, m, m⟩, ⟨.streamEnd, m, m⟩], 0, [], false, none, []⟩, ?_, by simp, rfl, rfl⟩
  rw [hadvance]
  simp [token, endStream, unrollAll, inFlow, endBlocks, dropCandidate, push, hm, Bind.bind, Except.bind, Pure.pure, Except.pure]

theorem Ends.before {l l' : Lexer} (h : Relation.ReflTransGen Finds l l') {n : Nat} {ts : List Token} (he : Ends n ts l')
    (hn : n ≤ l'.cursor.rest.length + 1) : ∃ n, Ends n ts l := by
  suffices hs : ∃ n, Ends n ts l ∧ n ≤ l.cursor.rest.length + 1 from hs.imp fun _ => And.left
  induction h using Relation.ReflTransGen.head_induction_on with
  | refl => exact ⟨n, he, hn⟩
  | head hstep _ ih =>
    obtain ⟨n, he, hn⟩ := ih
    obtain ⟨hadvance, hlength⟩ := hstep
    exact ⟨n + 1, ⟨by omega, _, hadvance, he⟩, by omega⟩

/-- The text at its start. -/
theorem atLine_start {s : String} (h : Solid s.toList) : AtLine (.ofString s) s.toList [] [] :=
  atLine_front h rfl (by simp)

/-- Where the lines of a text have been found as tokens to its end, those tokens are seen. -/
theorem shows_of_lines {s : String} {l : Lexer} {ks : List Token.Kind}
    (h : Relation.ReflTransGen Finds (.ofString s) l) (hl : AtLine l [] [0] ks) :
    Shows (ks ++ [.blockEnd, .streamEnd]) (.ofString s) := by
  obtain ⟨l', hadvance, hq, hc, ho⟩ := finds_end hl
  have hends : Ends 1 l'.queue l := ⟨Nat.zero_le _, l', hadvance, rfl, hc, ho⟩
  obtain ⟨n, hstart⟩ := hends.before h (Nat.le_add_left 1 _)
  rw [← hq]
  exact hstart.shows (by simp [Sound, ofString])

end Lexer
end ApiStencil.Yaml
