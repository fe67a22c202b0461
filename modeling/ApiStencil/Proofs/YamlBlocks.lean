import ApiStencil.Proofs.YamlQuoted
import ApiStencil.Yaml.Token.Scalar
/-!
A text of several lines is read back from its literal block. The block is read line by line: the characters of a
line, its break, and the blank lines behind it; what becomes of the last breaks stands in the first line.
-/
set_option autoImplicit false

namespace ApiStencil.Yaml

/-- Behind a break a line begins. -/
theorem Mark.column_breaks {bs : List Char} (hbs : ∀ c ∈ bs, isBreak c = true) {m : Mark} (hm : m.column = 0) :
    (m.past bs).column = 0 := by
  induction bs generalizing m with
  | nil => exact hm
  | cons b bs ih =>
    rw [Mark.past, if_pos (hbs b (by simp))]
    exact ih (fun c hc => hbs c (List.mem_cons_of_mem _ hc)) rfl

theorem Cursor.lineBreak?_break {c : Char} (hb : isBreak c = true) (hp : isPrintable c = true) (rest : List Char)
    (m : Mark) : (Cursor.mk (c :: rest) m).lineBreak? = some (c, ⟨rest, m.nextLine 1⟩) := by
  have hr : c ≠ '\r' := ne_of_printable hp (by decide)
  unfold Cursor.lineBreak?
  split
  next heq => exact absurd (List.cons.inj heq).1 hr
  next heq =>
    obtain ⟨rfl, rfl⟩ := List.cons.inj heq
    rw [if_pos hb, breakChar_of_printable hb hp]
  next heq => exact absurd heq (by simp)

theorem Cursor.lineBreak?_stops {tail : List Char} (h : Stops tail) (m : Mark) :
    (Cursor.mk tail m).lineBreak? = none := by
  cases tail with
  | nil => rfl
  | cons c tail =>
    have hc : isBlankOrBreak c = false := by simpa [Stops] using h
    simp only [isBlankOrBreak, Bool.or_eq_false_iff] at hc
    exact Quoted.lineBreak?_none hc.2 tail m

/-- The characters of a line. -/
theorem Cursor.span_line {line : List Char} (h : ∀ c ∈ line, isBreak c = false) {b : Char} (hb : isBreak b = true)
    (rest : List Char) (m : Mark) :
    (Cursor.mk (line ++ b :: rest) m).span (fun c => !isBreak c) = (line, ⟨b :: rest, m.past line⟩) := by
  suffices haux : ∀ acc m, spanFrom (fun c => !isBreak c) acc m (line ++ b :: rest) =
      (acc.reverse ++ line, ⟨b :: rest, m.past line⟩) from haux [] m
  induction line with
  | nil => intro acc m; simp [spanFrom, hb, Mark.past]
  | cons c line ih =>
    intro acc m
    have hc := h c (by simp)
    rw [List.cons_append, spanFrom, hc, Bool.not_false, if_pos rfl, ih fun d hd => h d (List.mem_cons_of_mem _ hd)]
    simp [Mark.past, hc]

namespace Block

/-- What a text is like that can stand in a literal block. -/
structure Fits (cs : List Char) : Prop where
  printable : ∀ c ∈ cs, isPrintable c = true
  spaceBreak : hasPair isSpace isBreak cs = false
  back : cs.getLast? ≠ some ' '

/-- What the first line says of the breaks at the end of a text. -/
def ending (cs : List Char) : Chomping :=
  match cs.reverse with
  | [] => .strip
  | [c] => if isBreak c then .keep else .strip
  | c :: d :: _ => if !isBreak c then .strip else if isBreak d then .keep else .clip

/-- The break that ends a block whose text does not. -/
def close (cs : List Char) : List Char := if cs.getLast?.any isBreak then [] else ['\n']

section Breaks

variable {since : Mark} {indent fuel deepest : Nat} {acc : List Char} {m : Mark}

theorem skipIndent_stops {c : Char} (hc : c ≠ ' ') (rest : List Char) :
    skipIndent indent m (c :: rest) = ⟨c :: rest, m⟩ := by
  unfold skipIndent
  split
  next heq => exact absurd (List.cons.inj heq).1 hc
  next => rfl

/-- The break of a blank line. -/
theorem breaks_break {b : Char} (hb : isBreak b = true) (hp : isPrintable b = true) (hm : m.column = 0)
    (rest : List Char) :
    breaks since indent (fuel + 1) acc deepest ⟨b :: rest, m⟩ =
      breaks since indent fuel (acc ++ [b]) deepest ⟨rest, m.nextLine 1⟩ := by
  have hspace : b ≠ ' ' := by rintro rfl; exact absurd hb (by decide)
  have htab : (Cursor.mk (b :: rest) m).startsWith '\t' = false := by
    simpa [Cursor.startsWith] using ne_of_printable hp (by decide)
  rw [breaks]
  simp only [skipIndent_stops hspace, htab, Bool.and_false, Bool.false_eq_true, if_false,
    Cursor.lineBreak?_break hb hp, hm, Nat.max_zero]

theorem breaks_run {bs : List Char} (hbs : ∀ c ∈ bs, isBreak c = true ∧ isPrintable c = true) (hm : m.column = 0)
    (X : List Char) :
    breaks since indent (bs.length + fuel) acc deepest ⟨bs ++ X, m⟩ =
      breaks since indent fuel (acc ++ bs) deepest ⟨X, m.past bs⟩ := by
  induction bs generalizing acc m with
  | nil => simp [Mark.past]
  | cons b bs ih =>
    obtain ⟨hb, hp⟩ := hbs b (by simp)
    rw [List.length_cons, Nat.add_right_comm, List.cons_append, breaks_break hb hp hm,
      ih (fun c hc => hbs c (List.mem_cons_of_mem _ hc)) rfl]
    simp [Mark.past, hb]

/-- The text behind a block is none of its lines. -/
theorem breaks_stops {tail : List Char} (ht : Stops tail) (hm : m.column = 0) :
    breaks since indent (fuel + 1) acc deepest ⟨tail, m⟩ = .ok ((acc, deepest), ⟨tail, m⟩) := by
  have hskip : skipIndent indent m tail = ⟨tail, m⟩ := by
    cases tail with
    | nil => rfl
    | cons c tail =>
      refine skipIndent_stops ?_ tail
      rintro rfl
      simp [Stops, isBlankOrBreak, isBlank] at ht
  have htab : (Cursor.mk tail m).startsWith '\t' = false := by
    refine beq_eq_false_iff_ne.mpr fun heq => ?_
    simp [Stops, show tail.head? = some '\t' from heq, isBlankOrBreak, isBlank] at ht
  rw [breaks]
  simp only [hskip, htab, Bool.and_false, Bool.false_eq_true, if_false, Cursor.lineBreak?_stops ht, hm, Nat.max_zero]

/-- The indentation of a line that is not blank. -/
theorem breaks_indent {c : Char} (hb : isBreak c = false) (hp : isPrintable c = true)
    (hi : indent = 2 ∨ indent = 0 ∧ c ≠ ' ') (hm : m.column = 0) (rest : List Char) :
    breaks since indent (fuel + 1) acc deepest ⟨' ' :: ' ' :: c :: rest, m⟩ =
      .ok ((acc, max deepest 2), ⟨c :: rest, m.past [' ', ' ']⟩) := by
  have hcolumn : (m.past [' ', ' ']).column = 2 := by
    simp [Mark.past, show isBreak ' ' = false from rfl, Mark.next, hm]
  have hskip : skipIndent indent m (' ' :: ' ' :: c :: rest) = ⟨c :: rest, m.past [' ', ' ']⟩ := by
    have hspace : isBreak ' ' = false := rfl
    have hstop : skipIndent indent m.next.next (c :: rest) = ⟨c :: rest, m.next.next⟩ := by
      rcases hi with rfl | ⟨-, hc⟩
      · by_cases hc : c = ' '
        · subst hc
          rw [skipIndent, if_neg (by simp [within, Mark.next, hm])]
        · exact skipIndent_stops hc rest
      · exact skipIndent_stops hc rest
    have hwithin : within indent m.column = true ∧ within indent m.next.column = true := by
      rcases hi with rfl | ⟨rfl, -⟩ <;> simp [within, Mark.next, hm]
    rw [skipIndent, if_pos hwithin.1, skipIndent, if_pos hwithin.2, hstop]
    simp [Mark.past, hspace]
  have htab : (Cursor.mk (c :: rest) (m.past [' ', ' '])).startsWith '\t' = false := by
    simpa [Cursor.startsWith] using ne_of_printable hp (by decide)
  rw [breaks]
  simp only [hskip, htab, Bool.and_false, Bool.false_eq_true, if_false, Quoted.lineBreak?_none hb, hcolumn]

variable {bs : List Char}

/-- Blank lines at the end of a block. -/
theorem breaks_end (hbs : ∀ c ∈ bs, isBreak c = true ∧ isPrintable c = true) {tail : List Char} (ht : Stops tail)
    (hm : m.column = 0) (hf : bs.length < fuel) :
    breaks since indent fuel acc deepest ⟨bs ++ tail, m⟩ = .ok ((acc ++ bs, deepest), ⟨tail, m.past bs⟩) := by
  obtain ⟨n, rfl⟩ := Nat.exists_eq_add_of_lt hf
  rw [Nat.add_assoc, breaks_run hbs hm]
  exact breaks_stops ht (Mark.column_breaks (fun c hc => (hbs c hc).1) hm)

/-- Blank lines before another line. -/
theorem breaks_more (hbs : ∀ c ∈ bs, isBreak c = true ∧ isPrintable c = true) {c : Char} (hb : isBreak c = false)
    (hp : isPrintable c = true) (hi : indent = 2 ∨ indent = 0 ∧ c ≠ ' ') (hm : m.column = 0) (hf : bs.length < fuel)
    (rest : List Char) :
    breaks since indent fuel acc deepest ⟨bs ++ ' ' :: ' ' :: c :: rest, m⟩ =
      .ok ((acc ++ bs, max deepest 2), ⟨c :: rest, m.past (bs ++ [' ', ' '])⟩) := by
  obtain ⟨n, rfl⟩ := Nat.exists_eq_add_of_lt hf
  rw [Nat.add_assoc, breaks_run hbs hm, Mark.past_append]
  exact breaks_indent hb hp hi (Mark.column_breaks (fun c hc => (hbs c hc).1) hm) rest

end Breaks

section Lines

variable (since : Mark)

/-- What has been read of a block, in reverse, with all breaks. -/
def Lines.all (l : Lines) : List Char := l.blank.reverse ++ l.last.toList ++ l.text

theorem Lines.join_literal (l : Lines) (indented : Bool) : l.join true indented = l.all := by
  simp [Lines.join, Lines.all]

theorem lines_stops {m : Mark} (hm : m.column = 0) (fuel : Nat) (l : Lines) (tail : List Char) :
    lines true since 2 fuel l ⟨tail, m⟩ = .ok (l, ⟨tail, m⟩) := by
  cases fuel with
  | zero => rfl
  | succ fuel =>
    have hcolumn : (m.column != 2) = true := by simp [hm]
    rw [lines]
    simp only [hcolumn, Bool.true_or, if_true]

/-- One line with its break. -/
theorem lines_line {line : List Char} (hline : ∀ c ∈ line, isBreak c = false) {b : Char}
    (hb : isBreak b = true) (hp : isPrintable b = true) (l : Lines) {m : Mark} (hm : m.column = 2) {Z : List Char}
    {blank : List Char} {deepest : Nat} {k : Cursor}
    (hbreaks : ∀ fuel, Z.length < fuel →
      breaks since 2 fuel [] 0 ⟨Z, m.past (line ++ [b])⟩ = .ok ((blank, deepest), k)) (fuel : Nat) :
    ∃ indented, lines true since 2 (fuel + 1) l ⟨line ++ b :: Z, m⟩ =
      lines true since 2 fuel ⟨line.reverse ++ l.all, some b, blank, indented⟩ k := by
  have hempty : (line ++ b :: Z).isEmpty = false := by simp
  have hcolumn : (m.column != 2) = false := by simp [hm]
  have hmark : (m.past line).nextLine 1 = m.past (line ++ [b]) := by
    rw [Mark.past_append, Mark.past, if_pos hb]
    rfl
  refine ⟨(Cursor.mk (line ++ b :: Z) m).startsBlank, ?_⟩
  rw [lines]
  simp only [hcolumn, hempty, Bool.or_self, Bool.false_eq_true, if_false, Cursor.span_line hline hb,
    Cursor.lineBreak?_break hb hp, hmark, Lines.join_literal]
  rw [hbreaks _ (by simp [Cursor.reach])]

/-- The last line, with its break and the blank lines behind it. -/
theorem lines_last {line : List Char} (hline : ∀ c ∈ line, isBreak c = false) {b : Char} {bs : List Char}
    (hbs : ∀ c ∈ b :: bs, isBreak c = true ∧ isPrintable c = true) (l : Lines) {m : Mark} (hm : m.column = 2)
    {tail : List Char} (ht : Stops tail) (fuel : Nat) :
    ∃ indented, lines true since 2 (fuel + 1) l ⟨line ++ b :: (bs ++ tail), m⟩ =
      .ok (⟨line.reverse ++ l.all, some b, bs, indented⟩, ⟨tail, m.past (line ++ b :: bs)⟩) := by
  obtain ⟨hb, hp⟩ := hbs b (by simp)
  have hmore : ∀ c ∈ bs, isBreak c = true ∧ isPrintable c = true := fun c hc => hbs c (List.mem_cons_of_mem _ hc)
  have hzero : (m.past (line ++ [b])).column = 0 := by
    rw [Mark.past_append, Mark.past, if_pos hb]
    rfl
  have hmark : m.past (line ++ b :: bs) = (m.past (line ++ [b])).past bs := by simp [← Mark.past_append]
  have hbreaks (f : Nat) (hf : (bs ++ tail).length < f) :
      breaks since 2 f [] 0 ⟨bs ++ tail, m.past (line ++ [b])⟩ = .ok (([] ++ bs, 0), ⟨tail, (m.past (line ++ [b])).past bs⟩) :=
    breaks_end hmore ht hzero (by simp only [List.length_append] at hf; omega)
  obtain ⟨indented, hlines⟩ := lines_line since hline hb hp l hm hbreaks fuel
  refine ⟨indented, hlines.trans ?_⟩
  rw [lines_stops since (Mark.column_breaks (fun c hc => (hmore c hc).1) hzero), hmark]
  rfl

theorem Fits.behind {a b : List Char} (h : Fits (a ++ b)) (hne : b ≠ []) : Fits b := by
  refine ⟨fun c hc => h.printable c (List.mem_append_right _ hc), hasPair_behind h.spaceBreak, ?_⟩
  have hback := h.back
  rwa [List.getLast?_append, List.getLast?_eq_some_getLast hne, Option.some_or, ← List.getLast?_eq_some_getLast hne] at hback

/-- A line, the breaks behind it, and the lines that follow. -/
theorem Fits.split {cs : List Char} (h : Fits cs) (hne : cs ≠ []) (hfront : cs.head?.all (!isBreak ·)) :
    ∃ line bs rest, cs = line ++ (bs ++ rest) ∧ line ≠ [] ∧ (∀ c ∈ line, isBreak c = false) ∧
      (∀ c ∈ bs, isBreak c = true ∧ isPrintable c = true) ∧ rest.head?.all (!isBreak ·) ∧ (bs = [] → rest = []) ∧
      (rest ≠ [] → Fits rest) := by
  obtain ⟨line, rest₀, hcs, hline, hrest₀⟩ := run_split (!isBreak ·) cs
  obtain ⟨bs, rest, rfl, hbs, hrest⟩ := run_split isBreak rest₀
  subst hcs
  refine ⟨line, bs, rest, rfl, ?_, fun c hc => by simpa using hline c hc,
    fun c hc => ⟨hbs c hc, h.printable c (by simp [hc])⟩, hrest, ?_, fun hne => ?_⟩
  · rintro rfl
    cases hcs : bs ++ rest with
    | nil => exact hne hcs
    | cons c cs => simp_all
  · rintro rfl
    cases rest with
    | nil => rfl
    | cons c rest => simp_all
  · rw [← List.append_assoc] at h
    exact h.behind hne

/-- The end of a text shows in its last line and the breaks behind that. -/
theorem ending_append (a : List Char) {cs : List Char} (hne : cs ≠ []) (hfront : cs.head?.all (!isBreak ·)) :
    ending (a ++ cs) = ending cs := by
  rw [ending, ending, List.reverse_append]
  cases hcs : cs.reverse with
  | nil => exact absurd (List.reverse_eq_nil_iff.mp hcs) hne
  | cons c rev =>
    cases rev with
    | nil =>
      obtain rfl : cs = [c] := by rw [← List.reverse_reverse cs, hcs]; rfl
      have hc : isBreak c = false := by simpa using hfront
      cases a.reverse <;> simp [hc]
    | cons d rev => rfl

theorem ending_line {line : List Char} (hne : line ≠ []) (hline : ∀ c ∈ line, isBreak c = false) :
    ending line = .strip := by
  obtain ⟨init, c, rfl⟩ := (List.eq_nil_or_concat line).resolve_left hne
  have hc := hline c (by simp)
  rw [ending, List.concat_eq_append, List.reverse_append]
  cases init.reverse <;> simp [hc]

theorem ending_break {line : List Char} (hne : line ≠ []) (hline : ∀ c ∈ line, isBreak c = false) {b : Char}
    (hb : isBreak b = true) : ending (line ++ [b]) = .clip := by
  obtain ⟨init, c, rfl⟩ := (List.eq_nil_or_concat line).resolve_left hne
  have hc := hline c (by simp)
  simp [ending, hb, hc]

theorem ending_breaks (a : List Char) {b c : Char} {bs : List Char} (hb : ∀ d ∈ b :: c :: bs, isBreak d = true) :
    ending (a ++ b :: c :: bs) = .keep := by
  obtain ⟨init, y, hinit⟩ := (List.eq_nil_or_concat (c :: bs)).resolve_left (by simp)
  obtain ⟨init', x, hinit'⟩ := (List.eq_nil_or_concat (b :: init)).resolve_left (by simp)
  rw [List.concat_eq_append] at hinit hinit'
  rw [hinit, ← List.cons_append, hinit'] at hb ⊢
  have hx := hb x (by simp)
  have hy := hb y (by simp)
  simp [ending, hx, hy]

theorem close_line {line : List Char} (hne : line ≠ []) (hline : ∀ c ∈ line, isBreak c = false) : close line = ['\n'] := by
  obtain ⟨init, c, rfl⟩ := (List.eq_nil_or_concat line).resolve_left hne
  have hc := hline c (by simp)
  simp [close, hc]

theorem close_breaks (line : List Char) {bs : List Char} (hne : bs ≠ []) (hbs : ∀ c ∈ bs, isBreak c = true) :
    close (line ++ bs) = [] := by
  obtain ⟨init, c, rfl⟩ := (List.eq_nil_or_concat bs).resolve_left hne
  have hc := hbs c (by simp)
  simp [close, List.concat_eq_append, hc]

theorem close_append (a : List Char) (c : Char) (rest : List Char) : close (a ++ c :: rest) = close (c :: rest) := by
  simp [close, List.getLast?_append, List.getLast?_cons]

theorem indented_alone {line : List Char} (hline : ∀ c ∈ line, isBreak c = false) : indented 2 false line = line := by
  have := indented_line hline 2 []
  simpa [indented] using this

theorem indented_closed {line bs : List Char} (hline : ∀ c ∈ line, isBreak c = false) (hne : bs ≠ [])
    (hbs : ∀ c ∈ bs, isBreak c = true) : indented 2 false (line ++ bs) = line ++ bs := by
  rw [indented_line hline]
  have := indented_breaks hne hbs 2 false []
  simp [indented] at this ⊢
  exact this

theorem indented_more {line bs : List Char} (hline : ∀ c ∈ line, isBreak c = false) (hne : bs ≠ [])
    (hbs : ∀ c ∈ bs, isBreak c = true) {c : Char} (hc : isBreak c = false) (rest : List Char) :
    indented 2 false (line ++ (bs ++ c :: rest)) = line ++ (bs ++ ' ' :: ' ' :: c :: indented 2 false rest) := by
  rw [indented_line hline, indented_breaks hne hbs]
  simp [indented, hc, List.replicate]

/-- The breaks behind the last line say how the block ends. -/
theorem chomp_ending {line : List Char} (hne : line ≠ []) (hline : ∀ c ∈ line, isBreak c = false) {b : Char}
    {bs : List Char} (hbs : ∀ c ∈ b :: bs, isBreak c = true) (text : List Char) (indented : Bool) :
    (Lines.mk (line.reverse ++ text) (some b) bs indented).chomp (ending (line ++ b :: bs)) =
      (line ++ b :: bs).reverse ++ text := by
  cases bs with
  | nil =>
    rw [ending_break hne hline (hbs b (by simp))]
    simp [Lines.chomp]
  | cons c bs =>
    rw [ending_breaks line hbs]
    simp [Lines.chomp]

/-- A line with its breaks, before another one. -/
theorem lines_more {line : List Char} (hline : ∀ c ∈ line, isBreak c = false) {b : Char} {bs : List Char}
    (hbs : ∀ d ∈ b :: bs, isBreak d = true ∧ isPrintable d = true) {c : Char} (hc : isBreak c = false)
    (hpc : isPrintable c = true) (l : Lines) {m : Mark} (hm : m.column = 2) (rest : List Char) (fuel : Nat) :
    (m.past (line ++ b :: (bs ++ [' ', ' ']))).column = 2 ∧
      ∃ indented, lines true since 2 (fuel + 1) l ⟨line ++ b :: (bs ++ ' ' :: ' ' :: c :: rest), m⟩ =
        lines true since 2 fuel ⟨line.reverse ++ l.all, some b, bs, indented⟩
          ⟨c :: rest, m.past (line ++ b :: (bs ++ [' ', ' ']))⟩ := by
  obtain ⟨hb, hp⟩ := hbs b (by simp)
  have hmore : ∀ d ∈ bs, isBreak d = true ∧ isPrintable d = true := fun d hd => hbs d (List.mem_cons_of_mem _ hd)
  have hzero : (m.past (line ++ [b])).column = 0 := by
    rw [Mark.past_append, Mark.past, if_pos hb]
    rfl
  have hmark : m.past (line ++ b :: (bs ++ [' ', ' '])) = (m.past (line ++ [b])).past (bs ++ [' ', ' ']) := by
    simp [← Mark.past_append]
  rw [hmark]
  have hbreaks (f : Nat) (hf : (bs ++ ' ' :: ' ' :: c :: rest).length < f) :
      breaks since 2 f [] 0 ⟨bs ++ ' ' :: ' ' :: c :: rest, m.past (line ++ [b])⟩ =
        .ok (([] ++ bs, max 0 2), ⟨c :: rest, (m.past (line ++ [b])).past (bs ++ [' ', ' '])⟩) :=
    breaks_more hmore hc hpc (.inl rfl) hzero (by simp only [List.length_append] at hf; omega) _
  refine ⟨?_, lines_line since hline hb hp l hm hbreaks fuel⟩
  have hspaces : ∀ d ∈ [' ', ' '], isBreak d = false := by simp [isBreak]
  rw [Mark.past_append, (Mark.past_line hspaces _).2, Mark.column_breaks (fun d hd => (hmore d hd).1) hzero]
  rfl

/-- The lines of a block to its end, from the first character of one of them. -/
theorem lines_reads (fuel : Nat) (cs : List Char) (hcs : Fits cs) (hne : cs ≠ []) (hfront : cs.head?.all (!isBreak ·))
    (hf : cs.length < fuel) (l : Lines) {m : Mark} (hm : m.column = 2) {tail : List Char} (ht : Stops tail) :
    ∃ l', lines true since 2 fuel l ⟨indented 2 false cs ++ (close cs ++ tail), m⟩ =
        .ok (l', ⟨tail, m.past (indented 2 false cs ++ close cs)⟩) ∧ l'.chomp (ending cs) = cs.reverse ++ l.all := by
  -- each round reads one line with the breaks behind it
  induction fuel generalizing cs l m with
  | zero => exact absurd hf (Nat.not_lt_zero _)
  | succ fuel ih =>
    obtain ⟨line, bs, rest, rfl, hline₀, hline, hbs, hrest, hlast, hfits⟩ := hcs.split hne hfront
    cases bs with
    | nil =>
      -- the last line has no break of its own
      obtain rfl := hlast rfl
      have hfeed : ∀ c ∈ ['\n'], isBreak c = true ∧ isPrintable c = true := by simp [isBreak, isPrintable]
      obtain ⟨i, hlines⟩ := lines_last since hline hfeed l hm ht fuel
      simp only [List.append_nil, indented_alone hline, close_line hline₀ hline, ending_line hline₀ hline]
      exact ⟨_, hlines, rfl⟩
    | cons b bs =>
      have hbreak : ∀ c ∈ b :: bs, isBreak c = true := fun c hc => (hbs c hc).1
      cases rest with
      | nil =>
        -- the text ends with these breaks
        obtain ⟨i, hlines⟩ := lines_last since hline hbs l hm ht fuel
        refine ⟨⟨line.reverse ++ l.all, some b, bs, i⟩, ?_, ?_⟩
        · rw [List.append_nil, indented_closed hline (by simp) hbreak, close_breaks line (by simp) hbreak, List.append_nil,
            List.nil_append, List.append_assoc]
          exact hlines
        · rw [List.append_nil]
          exact chomp_ending hline₀ hline hbreak _ i
      | cons c rest =>
        -- another line follows
        have hc : isBreak c = false := by simpa using hrest
        have hfit := hfits (by simp)
        have hlength : (c :: rest).length < fuel := by
          simp only [List.length_append, List.length_cons] at hf ⊢
          omega
        have hhead : indented 2 false (c :: rest) = c :: indented 2 false rest := by simp [indented, hc]
        obtain ⟨hcolumn, i, hlines⟩ := lines_more since hline hbs hc (hfit.printable c (by simp)) l hm
          (indented 2 false rest ++ (close (c :: rest) ++ tail)) fuel
        obtain ⟨l', hrest', hchomp⟩ := ih (c :: rest) hfit (by simp) (by simp [hc]) hlength
          ⟨line.reverse ++ l.all, some b, bs, i⟩ hcolumn
        refine ⟨l', ?_, ?_⟩
        · have hclose : close (line ++ (b :: bs ++ c :: rest)) = close (c :: rest) := by
            rw [← List.append_assoc, close_append]
          rw [hhead] at hrest'
          rw [indented_more hline (by simp) hbreak hc, hclose]
          simp only [List.append_assoc, List.cons_append] at hlines hrest' ⊢
          rw [hlines, hrest']
          simp [← Mark.past_append]
        · rw [← List.append_assoc, ending_append _ (by simp) (by simp [hc]), hchomp]
          simp [Lines.all]

end Lines

/-- Whether a text hides how far it is indented. -/
def hides (cs : List Char) : Bool := cs.head?.any fun c => isSpace c || isBreak c

def Chomping.mark : Chomping → String
  | .strip => "-"
  | .clip => ""
  | .keep => "+"

theorem literalHints_eq (cs : List Char) :
    literalHints cs = (if hides cs then "2" else "") ++ (ending cs).mark := by
  unfold literalHints ending
  dsimp only
  congr 1
  · cases cs <;> rfl
  · cases cs.reverse with
    | nil => rfl
    | cons c rev =>
      cases rev with
      | nil => cases hc : isBreak c <;> simp [hc, Chomping.mark]
      | cons d rev => cases hc : isBreak c <;> cases hd : isBreak d <;> simp [hc, hd, Chomping.mark]

theorem header_reads (cs : List Char) (since m : Mark) (rest : List Char) :
    header since ⟨(literalHints cs).toList ++ '\n' :: rest, m⟩ =
      .ok (⟨ending cs, if hides cs then 2 else 0⟩, ⟨'\n' :: rest, m.past (literalHints cs).toList⟩) := by
  rw [literalHints_eq]
  cases hides cs <;> cases ending cs <;> rfl

/-- The end of the first line. -/
theorem endLine_reads (since m : Mark) (rest : List Char) :
    Cursor.endLine ⟨'\n' :: rest, m⟩ scanning since = .ok ⟨rest, m.nextLine 1⟩ := by
  rfl

/-- The breaks at the front of a text, and what follows them. -/
theorem Fits.front {cs : List Char} (h : Fits cs) :
    ∃ bs rest, cs = bs ++ rest ∧ (∀ c ∈ bs, isBreak c = true ∧ isPrintable c = true) ∧
      rest.head?.all (!isBreak ·) ∧ (rest ≠ [] → Fits rest) := by
  obtain ⟨bs, rest, rfl, hbs, hrest⟩ := run_split isBreak cs
  exact ⟨bs, rest, rfl, fun c hc => ⟨hbs c hc, h.printable c (by simp [hc])⟩, hrest, h.behind⟩

theorem bind_ok {ε α β : Type} {x : Except ε α} {f : α → Except ε β} {a : α} (h : x = .ok a) : (x >>= f) = f a := by
  rw [h]
  rfl

/-- How far the first line tells that the lines are indented. -/
def told (cs : List Char) : Nat := if hides cs then 2 else 0

/-- What is read behind the first line. -/
theorem read_of {cs rest blank : List Char} {m : Mark} {k k' : Cursor} {deepest : Nat} {l : Lines}
    (hbreaks : ∀ fuel, rest.length < fuel →
      breaks m (told cs) fuel [] 0 ⟨rest, m.past ('|' :: ((literalHints cs).toList ++ ['\n']))⟩ = .ok ((blank, deepest), k))
    (hdeep : told cs = 0 → deepest = 2)
    (hlines : lines true m 2 k.reach ⟨[], none, blank, false⟩ k = .ok (l, k')) :
    read true 1 ⟨'|' :: ((literalHints cs).toList ++ '\n' :: rest), m⟩ =
      .ok (String.ofList (l.chomp (ending cs)).reverse, k') := by
  have hheader := header_reads cs m m.next rest
  have hgiven : (if (if hides cs then 2 else 0) == 0 then 0 else 1 - 1 + (if hides cs then 2 else 0)) = told cs := by
    rw [told]
    cases hides cs <;> rfl
  have hmark : (m.next.past (literalHints cs).toList).nextLine 1 = m.past ('|' :: ((literalHints cs).toList ++ ['\n'])) := by
    rw [Mark.past, if_neg (by decide), Mark.past_append]
    rfl
  have hindent : (if told cs == 0 then max 1 (max deepest 1) else told cs) = 2 := by
    by_cases h : told cs = 0
    · simp [h, hdeep h]
    · rw [if_neg (by simpa using h)]
      unfold told at h ⊢
      split at h
      · rename_i hh
        rw [if_pos hh]
      · exact absurd rfl h
  refine (bind_ok hheader).trans ((bind_ok (endLine_reads m _ rest)).trans ?_)
  dsimp only
  rw [hmark, hgiven]
  refine (bind_ok (hbreaks _ (by simp [Cursor.reach]))).trans ?_
  dsimp only
  rw [hindent]
  exact (bind_ok hlines).trans rfl

/-- What stands in a literal block, with its last break. -/
def written (cs : List Char) : List Char := indented 2 true cs ++ close cs

section Read

variable {bs : List Char} (hbs : ∀ c ∈ bs, isBreak c = true ∧ isPrintable c = true)

include hbs

theorem written_breaks (hne : bs ≠ []) : written bs = bs := by
  have hbreak : ∀ c ∈ bs, isBreak c = true := fun c hc => (hbs c hc).1
  have hclose : close bs = [] := by
    obtain ⟨init, c, rfl⟩ := (List.eq_nil_or_concat bs).resolve_left hne
    simp [close, List.concat_eq_append, hbreak c (by simp)]
  have hindented := indented_breaks hne hbreak 2 true []
  rw [List.append_nil] at hindented
  rw [written, hclose, hindented]
  simp [indented]

theorem ending_only (hne : bs ≠ []) : ending bs = .keep := by
  have hbreak : ∀ c ∈ bs, isBreak c = true := fun c hc => (hbs c hc).1
  cases bs with
  | nil => exact absurd rfl hne
  | cons b bs =>
    cases bs with
    | nil => simp [ending, hbreak b (by simp)]
    | cons c bs => exact ending_breaks [] hbreak

theorem written_lines {c : Char} (hc : isBreak c = false) (rest : List Char) :
    written (bs ++ c :: rest) = bs ++ ' ' :: ' ' :: (indented 2 false (c :: rest) ++ close (c :: rest)) := by
  have hclose : close (bs ++ c :: rest) = close (c :: rest) := by simp [close, List.getLast?_append, List.getLast?_cons]
  rw [written, hclose]
  cases bs with
  | nil => simp [indented, hc, List.replicate]
  | cons b bs =>
    rw [indented_breaks (by simp) fun c hc => (hbs c hc).1]
    simp [indented, hc, List.replicate]

theorem told_lines {c : Char} (rest : List Char) :
    told (bs ++ c :: rest) = 2 ∨ told (bs ++ c :: rest) = 0 ∧ c ≠ ' ' := by
  cases bs with
  | nil =>
    by_cases hc : isSpace c = true ∨ isBreak c = true
    · exact .inl (by simp [told, hides, hc])
    · refine .inr ⟨by simp [told, hides, hc], ?_⟩
      rintro rfl
      exact hc (.inl rfl)
  | cons b bs => exact .inl (by simp [told, hides, (hbs b (by simp)).1])

end Read

theorem past_header (cs rest : List Char) (m : Mark) :
    m.past ('|' :: ((literalHints cs).toList ++ '\n' :: rest)) =
      (m.past ('|' :: ((literalHints cs).toList ++ ['\n']))).past rest := by
  simp [← Mark.past_append]

theorem column_header (cs : List Char) (m : Mark) : (m.past ('|' :: ((literalHints cs).toList ++ ['\n']))).column = 0 := by
  rw [← List.cons_append, Mark.past_append]
  rfl

section Reads

variable {bs : List Char} (hbs : ∀ c ∈ bs, isBreak c = true ∧ isPrintable c = true) (m : Mark) {tail : List Char}
  (ht : Stops tail)

include hbs ht

/-- A block that holds only breaks. -/
theorem read_breaks (hne : bs ≠ []) :
    read true 1 ⟨'|' :: ((literalHints bs).toList ++ '\n' :: (written bs ++ tail)), m⟩ =
      .ok (String.ofList bs, ⟨tail, m.past ('|' :: ((literalHints bs).toList ++ '\n' :: written bs))⟩) := by
  have hbreak : ∀ c ∈ bs, isBreak c = true := fun c hc => (hbs c hc).1
  have htold : told bs ≠ 0 := by
    obtain ⟨b, bs, rfl⟩ := List.exists_cons_of_ne_nil hne
    simp [told, hides, hbreak b (by simp)]
  have hzero := column_header bs m
  rw [past_header, written_breaks hbs hne]
  refine (read_of (fun fuel hf => breaks_end hbs ht hzero ?_) (fun h => absurd h htold)
    (lines_stops m (Mark.column_breaks hbreak hzero) _ _ tail)).trans ?_
  · simp only [List.length_append] at hf
    omega
  · rw [ending_only hbs hne]
    simp [Lines.chomp]

/-- A block with lines behind the first breaks. -/
theorem read_lines {c : Char} {rest : List Char} (hc : isBreak c = false) (h : Fits (c :: rest)) :
    read true 1 ⟨'|' :: ((literalHints (bs ++ c :: rest)).toList ++ '\n' :: (written (bs ++ c :: rest) ++ tail)), m⟩ =
      .ok (String.ofList (bs ++ c :: rest),
        ⟨tail, m.past ('|' :: ((literalHints (bs ++ c :: rest)).toList ++ '\n' :: written (bs ++ c :: rest)))⟩) := by
  have hzero := column_header (bs ++ c :: rest) m
  have hcolumn : ((m.past ('|' :: ((literalHints (bs ++ c :: rest)).toList ++ ['\n']))).past (bs ++ [' ', ' '])).column = 2 := by
    have hspaces : ∀ d ∈ [' ', ' '], isBreak d = false := by simp [isBreak]
    rw [Mark.past_append, (Mark.past_line hspaces _).2, Mark.column_breaks (fun c hc => (hbs c hc).1) hzero]
    rfl
  have hhead : indented 2 false (c :: rest) = c :: indented 2 false rest := by simp [indented, hc]
  have hlength := length_le_indented 2 false (c :: rest)
  obtain ⟨l, hlines, hchomp⟩ := lines_reads m
    (Cursor.mk (indented 2 false (c :: rest) ++ (close (c :: rest) ++ tail)) m).reach (c :: rest) h (by simp)
    (by simp [hc]) (by simp only [Cursor.reach, List.length_append]; omega) ⟨[], none, bs, false⟩ hcolumn ht
  rw [past_header, written_lines hbs hc]
  refine (read_of (l := l) (fun fuel hf => ?_) (fun _ => rfl) hlines).trans ?_
  · have hfew : bs.length < fuel := by
      simp only [List.length_append] at hf
      omega
    simp only [hhead, List.append_assoc, List.cons_append]
    exact breaks_more hbs hc (h.printable c (by simp)) (told_lines hbs rest) hzero hfew _
  · rw [ending_append _ (by simp) (by simp [hc]), hchomp]
    simp [Lines.all, ← Mark.past_append]

end Reads

/-- A text in a literal block is read back, whatever stands behind it. -/
theorem read_written {cs : List Char} (h : Fits cs) (hne : cs ≠ []) (m : Mark) {tail : List Char} (ht : Stops tail) :
    read true 1 ⟨'|' :: ((literalHints cs).toList ++ '\n' :: (written cs ++ tail)), m⟩ =
      .ok (String.ofList cs, ⟨tail, m.past ('|' :: ((literalHints cs).toList ++ '\n' :: written cs))⟩) := by
  obtain ⟨bs, rest, rfl, hbs, hrest, hfits⟩ := h.front
  cases rest with
  | nil =>
    rw [List.append_nil] at hne ⊢
    exact read_breaks hbs m ht hne
  | cons c rest => exact read_lines hbs m ht (by simpa using hrest) (hfits (by simp))

theorem literalHints_allowed (cs : List Char) : ∀ c ∈ (literalHints cs).toList, isAllowed c = true := by
  rw [literalHints_eq]
  refine List.all_eq_true.mp ?_
  cases hides cs <;> cases ending cs <;> decide

theorem written_allowed {cs : List Char} (h : Fits cs) : ∀ c ∈ written cs, isAllowed c = true := by
  intro c hc
  rcases List.mem_append.mp hc with hc | hc
  · rcases Quoted.mem_indented hc with rfl | hc
    · rfl
    · exact isAllowed_of_printable (h.printable c hc)
  · unfold close at hc
    split at hc
    · cases hc
    · exact List.mem_singleton.mp hc ▸ rfl

/-- What the printer writes as a literal block can stand so. -/
theorem fits_of_allowed {cs : List Char} (h : (allowed cs).literal = true) : Fits cs ∧ cs ≠ [] := by
  cases cs with
  | nil => exact absurd h (by decide)
  | cons c rest =>
    simp only [allowed, Bool.and_eq_true, Bool.not_eq_true', Bool.or_eq_false_iff, Bool.not_eq_false'] at h
    obtain ⟨hlast, hprint, hspace⟩ := h
    refine ⟨⟨fun d hd => List.all_eq_true.mp hprint d hd, hspace, fun hback => ?_⟩, by simp⟩
    simp [hback, isSpace] at hlast

end Block
end ApiStencil.Yaml
