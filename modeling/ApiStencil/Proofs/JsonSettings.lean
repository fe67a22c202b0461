import ApiStencil.Config.JsonText
import ApiStencil.Proofs.Settings
import Mathlib.Data.List.TakeDrop
/-!
The object that a configuration is written as in JSON is read back as that configuration. A cursor counts lines
and columns for its faults; what a reader gives depends only on the text that is left.
-/
set_option autoImplicit false

namespace ApiStencil.Json

/-- A step gives a value and leaves a text. -/
def Gives {α : Type} (x : Step α) (a : α) (tail : List Char) : Prop := ∃ k, x = .ok (a, k) ∧ k.rest = tail

theorem Gives.map {α β : Type} {x : Step α} {a : α} {tail : List Char} (h : Gives x a tail) (f : α → β) :
    Gives (x.map fun p => (f p.1, p.2)) (f a) tail := by
  obtain ⟨k, rfl, hk⟩ := h
  exact ⟨k, rfl, hk⟩

namespace Cursor

@[simp] theorem past_rest (k : Cursor) (c : Char) (rest : List Char) : (k.past c rest).rest = rest := by
  rw [past]
  split <;> rfl

@[simp] theorem drop_rest (n : Nat) (k : Cursor) : (k.drop n).rest = k.rest.drop n := by
  induction n generalizing k with
  | zero => rfl
  | succ n ih =>
    rw [drop]
    split
    next h => rw [h, List.drop_nil]
    next h => rw [ih, past_rest, h, List.drop_succ_cons]

theorem skipSpaceFrom_rest (cs : List Char) (line column : Nat) :
    (skipSpaceFrom line column cs).rest = cs.dropWhile isSpace := by
  induction cs generalizing line column with
  | nil => rfl
  | cons c cs ih =>
    rw [skipSpaceFrom]
    split
    next h =>
      obtain rfl := beq_iff_eq.mp h
      rw [ih, List.dropWhile_cons_of_pos (by decide)]
    next =>
      split
      next h => rw [ih, List.dropWhile_cons_of_pos h]
      next h => rw [List.dropWhile_cons_of_neg h]

@[simp] theorem skipSpace_rest (k : Cursor) : k.skipSpace.rest = k.rest.dropWhile isSpace :=
  skipSpaceFrom_rest _ _ _

end Cursor

namespace Reader

theorem ident_gives (w tail : List Char) (k : Cursor) (h : k.rest = w ++ tail) : Gives (ident k w) () tail := by
  induction w generalizing k with
  | nil => exact ⟨k, rfl, h⟩
  | cons c w ih =>
    rw [ident, h]
    simp only [List.cons_append, beq_self_eq_true, if_true]
    exact ih _ (Cursor.past_rest _ _ _)

/-! Strings. -/

theorem hex4_ofBase? : ∀ n < 32, Decimal.ofBase? 16 (hex4 n) = some n := by decide

theorem unicodeEscape_hex4 {n : Nat} (hn : n < 32) {tail : List Char} {k : Cursor} (h : k.rest = hex4 n ++ tail) :
    Gives (unicodeEscape k) (Char.ofNat n) tail := by
  have hunit : hexUnit k = .ok (n, k.drop 4) := by
    have hval := hex4_ofBase? n hn
    rw [hex4] at h hval
    simp only [hexUnit, h, List.cons_append, hval]
  refine ⟨k.drop 4, ?_, by rw [Cursor.drop_rest, h]; rfl⟩
  simp only [unicodeEscape, hunit]
  rw [if_neg (by simp; omega), if_pos (by simp; omega)]

/-- What is written for a character is read as the character. -/
theorem characters_char (c : Char) (fuel : Nat) (acc tail : List Char) (k : Cursor)
    (h : k.rest = escapeChar c ++ tail) :
    ∃ k', k'.rest = tail ∧ characters (fuel + 1) acc k = characters fuel (c :: acc) k' := by
  have esc : ∀ cs, k.rest = '\\' :: cs → (∀ k', k'.rest = cs → Gives (escape k') c tail) →
      ∃ k', k'.rest = tail ∧ characters (fuel + 1) acc k = characters fuel (c :: acc) k' := by
    intro cs hcs he
    obtain ⟨k', hk', hrest⟩ := he (k.past '\\' cs) (Cursor.past_rest _ _ _)
    refine ⟨k', hrest, ?_⟩
    rw [characters, hcs]
    simp only
    rw [if_neg (by decide), if_pos (by decide), hk']
  have short : ∀ d, k.rest = '\\' :: d :: tail → (∀ k', k'.rest = d :: tail → escape k' = .ok (c, k'.past d tail)) →
      ∃ k', k'.rest = tail ∧ characters (fuel + 1) acc k = characters fuel (c :: acc) k' :=
    fun d hd he => esc _ hd fun k' hk' => ⟨_, he k' hk', Cursor.past_rest _ _ _⟩
  unfold escapeChar at h
  iterate 7
    split at h
    next hc =>
      refine short _ h fun k' hk' => ?_
      rw [escape, hk', beq_iff_eq.mp hc]
      rfl
  split at h
  next hc =>
    refine esc _ h fun k' hk' => ?_
    have := unicodeEscape_hex4 hc (k := k'.past 'u' (hex4 c.toNat ++ tail)) (Cursor.past_rest _ _ _)
    rw [Char.ofNat_toNat] at this
    rw [escape, hk']
    exact this
  next hquote hslash _ _ _ _ _ hcontrol =>
    refine ⟨k.past c tail, Cursor.past_rest _ _ _, ?_⟩
    rw [characters, h]
    simp only [List.cons_append, List.nil_append]
    rw [if_neg hquote, if_neg hslash, if_neg hcontrol]

theorem characters_gives (cs tail : List Char) (fuel : Nat) (acc : List Char) (k : Cursor)
    (h : k.rest = cs.flatMap escapeChar ++ '"' :: tail) (hf : cs.length < fuel) :
    Gives (characters fuel acc k) (String.ofList (acc.reverse ++ cs)) tail := by
  induction cs generalizing fuel acc k with
  | nil =>
    obtain ⟨fuel, rfl⟩ := Nat.exists_eq_add_of_lt hf
    refine ⟨k.past '"' tail, ?_, Cursor.past_rest _ _ _⟩
    rw [characters, h]
    simp
  | cons c cs ih =>
    obtain ⟨fuel, rfl⟩ := Nat.exists_eq_add_of_lt (Nat.zero_lt_of_lt hf)
    rw [List.flatMap_cons, List.append_assoc] at h
    obtain ⟨k', hk', hstep⟩ := characters_char c (0 + fuel) acc _ k h
    have := ih (0 + fuel) (c :: acc) k' hk' (by simp only [List.length_cons] at hf; omega)
    rw [hstep]
    simpa using this

theorem length_le_escaped (cs : List Char) : cs.length ≤ (cs.flatMap escapeChar).length := by
  induction cs with
  | nil => exact Nat.le_refl 0
  | cons c cs ih =>
    have : 1 ≤ (escapeChar c).length := by
      unfold escapeChar
      repeat' split
      all_goals simp
    simp only [List.flatMap_cons, List.length_append, List.length_cons]
    omega

theorem quote_eq (s : String) : (quote s).toList = '"' :: (s.toList.flatMap escapeChar ++ ['"']) := by
  rw [quote, String.toList_ofList]
  rfl

/-- A string, with the cursor at its opening quote. -/
theorem key_gives (s : String) (tail : List Char) (k : Cursor) (h : k.rest = (quote s).toList ++ tail) :
    Gives (key k) s tail := by
  have hrest : (k.drop 1).rest = s.toList.flatMap escapeChar ++ '"' :: tail := by
    rw [Cursor.drop_rest, h, quote_eq]
    simp
  have hlength := length_le_escaped s.toList
  have := characters_gives s.toList tail ((k.drop 1).rest.length + 1) [] (k.drop 1) hrest
    (by rw [hrest, List.length_append]; omega)
  rwa [List.reverse_nil, List.nil_append, String.ofList_toList] at this

/-! Numbers. -/

/-- What stands behind a value is no part of a number. -/
def Ends (tail : List Char) : Prop := tail.head? = some ',' ∨ tail.head? = some '\n'

theorem Ends.cons {tail : List Char} (h : Ends tail) : ∃ c rest, tail = c :: rest ∧ (c = ',' ∨ c = '\n') := by
  cases tail with
  | nil => simp [Ends] at h
  | cons c rest => exact ⟨c, rest, rfl, by simpa [Ends] using h⟩

theorem spanDigits_append {ds tail : List Char} (hd : ∀ c ∈ ds, c.isDigit = true) (ht : Ends tail) :
    Decimal.spanDigits (ds ++ tail) = (ds, tail) := by
  obtain ⟨c, rest, rfl, hc⟩ := ht.cons
  have hc : c.isDigit = false := by rcases hc with rfl | rfl <;> rfl
  rw [Decimal.spanDigits, List.span_eq_takeWhile_dropWhile, List.takeWhile_append_of_pos hd,
    List.dropWhile_append_of_pos hd, List.takeWhile_cons_of_neg (by simp [hc]),
    List.dropWhile_cons_of_neg (by simp [hc]), List.append_nil]

theorem digits_gives {ds tail : List Char} (hd : ∀ c ∈ ds, c.isDigit = true) (ht : Ends tail) (k : Cursor)
    (h : k.rest = ds ++ tail) : ∃ k', digits k = (ds, k') ∧ k'.rest = tail := by
  refine ⟨k.drop ds.length, ?_, by rw [Cursor.drop_rest, h, List.drop_left]⟩
  rw [digits, h, spanDigits_append hd ht]

theorem number_gives {n : Nat} (hn : (n : Int) ≤ Number.maxNat) {tail : List Char} (ht : Ends tail) (k : Cursor)
    (h : k.rest = Nat.toDigits 10 n ++ tail) : Gives (number false k) (.int n) tail := by
  obtain ⟨c, cs, hcs, hc⟩ := Decimal.toDigits_cons n
  -- a zero stands alone, and every other number is one run of digits
  have hdigits : ∃ k', (if c == '0' then (['0'], k.past c (cs ++ tail)) else digits k) = (Nat.toDigits 10 n, k') ∧
      k'.rest = tail := by
    split
    next h0 =>
      obtain rfl := beq_iff_eq.mp h0
      rcases Decimal.toDigits_front n with hz | ⟨d, ds, hds, hne⟩
      · rw [hz] at hcs ⊢
        obtain rfl : [] = cs := (List.cons.inj hcs).2
        exact ⟨_, rfl, Cursor.past_rest _ _ _⟩
      · exact absurd (List.cons.inj (hcs.symm.trans hds)).1.symm hne
    next => exact digits_gives (fun d hd => Decimal.isDigit_of_mem_toDigits hd) ht k h
  obtain ⟨k', hk', hrest⟩ := hdigits
  obtain ⟨d, rest, htail, hd⟩ := ht.cons
  refine ⟨k', ?_, hrest⟩
  rw [hcs, List.cons_append] at h
  rw [number, h]
  simp only [hc, Bool.not_true, Bool.false_eq_true, if_false]
  rw [hk']
  simp only [hrest, htail]
  have hwhole : whole false (Nat.toDigits 10 n) k' = .ok (.int n, k') := by
    simp only [whole, Decimal.naturalOf_toDigits, Bool.false_eq_true, if_false]
    rw [if_pos hn]
  rcases hd with rfl | rfl <;> exact hwhole

/-! What stands between values. -/

theorem dropWhile_newline (depth : Nat) {c : Char} (hc : Cursor.isSpace c = false) (rest : List Char) :
    ((newline depth).toList ++ c :: rest).dropWhile Cursor.isSpace = c :: rest := by
  have hnl : (newline depth).toList = '\n' :: List.replicate (2 * depth) ' ' := by simp [newline]
  have hsp : ∀ d ∈ (newline depth).toList, Cursor.isSpace d = true := by
    intro d hd
    rw [hnl] at hd
    rcases List.mem_cons.mp hd with rfl | hd
    · rfl
    · rw [List.eq_of_mem_replicate hd]
      rfl
  rw [List.dropWhile_append_of_pos hsp, List.dropWhile_cons_of_neg (by simp [hc])]

theorem skipSpace_newline {depth : Nat} {c : Char} (hc : Cursor.isSpace c = false) {rest : List Char} {k : Cursor}
    (h : k.rest = (newline depth).toList ++ c :: rest) : k.skipSpace.rest = c :: rest := by
  rw [Cursor.skipSpace_rest, h, dropWhile_newline depth hc]

theorem skipSpace_none {c : Char} (hc : Cursor.isSpace c = false) {rest : List Char} {k : Cursor}
    (h : k.rest = c :: rest) : k.skipSpace.rest = c :: rest := by
  rw [Cursor.skipSpace_rest, h, List.dropWhile_cons_of_neg (by simp [hc])]

theorem skipSpace_past (depth : Nat) {c : Char} (hc : Cursor.isSpace c = false) (rest : List Char) (k : Cursor) :
    ((k.past ',' ((newline depth).toList ++ c :: rest)).skipSpace).rest = c :: rest :=
  skipSpace_newline hc (Cursor.past_rest _ _ _)

section Next
variable {depth : Nat} {s : String} {rest : List Char} {k : Cursor}

theorem nextItem_first (h : k.rest = (newline depth).toList ++ ((quote s).toList ++ rest)) :
    Gives (nextItem true k) true ((quote s).toList ++ rest) := by
  rw [quote_eq, List.cons_append] at h ⊢
  have hrest := skipSpace_newline rfl h
  refine ⟨_, ?_, hrest⟩
  simp only [nextItem, hrest]
  rfl

theorem nextItem_more (h : k.rest = ',' :: ((newline depth).toList ++ ((quote s).toList ++ rest))) :
    Gives (nextItem false k) true ((quote s).toList ++ rest) := by
  rw [quote_eq, List.cons_append] at h ⊢
  have hcomma := skipSpace_none rfl h
  refine ⟨_, ?_, skipSpace_past depth rfl _ k.skipSpace⟩
  simp [nextItem, hcomma, skipSpace_past, Cursor.isSpace, -Cursor.skipSpace_rest]

theorem nextItem_end (first : Bool) (h : k.rest = (newline depth).toList ++ ']' :: rest) :
    Gives (nextItem first k) false (']' :: rest) := by
  have hrest := skipSpace_newline rfl h
  refine ⟨_, ?_, hrest⟩
  simp only [nextItem, hrest]

theorem nextField_first (h : k.rest = (newline depth).toList ++ ((quote s).toList ++ rest)) :
    Gives (nextField true k) true ((quote s).toList ++ rest) := by
  rw [quote_eq, List.cons_append] at h ⊢
  have hrest := skipSpace_newline rfl h
  refine ⟨_, ?_, hrest⟩
  simp only [nextField, hrest]
  rfl

theorem nextField_more (h : k.rest = ',' :: ((newline depth).toList ++ ((quote s).toList ++ rest))) :
    Gives (nextField false k) true ((quote s).toList ++ rest) := by
  rw [quote_eq, List.cons_append] at h ⊢
  have hcomma := skipSpace_none rfl h
  refine ⟨_, ?_, skipSpace_past depth rfl _ k.skipSpace⟩
  simp [nextField, hcomma, skipSpace_past, Cursor.isSpace, -Cursor.skipSpace_rest]

theorem nextField_end (first : Bool) (h : k.rest = (newline depth).toList ++ '\x7d' :: rest) :
    Gives (nextField first k) false ('\x7d' :: rest) := by
  have hrest := skipSpace_newline rfl h
  refine ⟨_, ?_, hrest⟩
  simp only [nextField, hrest]
  rfl

end Next

end Reader
end ApiStencil.Json

namespace ApiStencil.Config.JsonText
open Json Json.Reader

theorem text_gives {s : String} {tail : List Char} {k : Cursor} (h : k.rest = (quote s).toList ++ tail) :
    Gives (text k) s tail := by
  have hkey := key_gives s tail k h
  rw [quote_eq] at h
  simp only [text, h, List.cons_append]
  exact hkey

theorem flag_gives {b : Bool} {tail : List Char} {k : Cursor}
    (h : k.rest = (if b then ['t', 'r', 'u', 'e'] else ['f', 'a', 'l', 's', 'e']) ++ tail) : Gives (flag k) b tail := by
  cases b
  · simp only [Bool.false_eq_true, if_false, List.cons_append] at h
    simp only [flag, h]
    exact (ident_gives ['a', 'l', 's', 'e'] tail _ (Cursor.past_rest _ _ _)).map fun _ => false
  · simp only [if_true, List.cons_append] at h
    simp only [flag, h]
    exact (ident_gives ['r', 'u', 'e'] tail _ (Cursor.past_rest _ _ _)).map fun _ => true

theorem value_digits {n : Nat} (hn : (n : Int) ≤ Number.maxNat) {tail : List Char} (ht : Ends tail) {k : Cursor}
    (h : k.rest = Nat.toDigits 10 n ++ tail) : Gives (value 1 0 k) (.number (.int n)) tail := by
  obtain ⟨c, cs, hcs, hc⟩ := Decimal.toDigits_cons n
  have hne : ∀ d, d.isDigit = false → c ≠ d := fun d => Decimal.ne_of_isDigit hc
  have hsp : Cursor.isSpace c = false := by
    simp [Cursor.isSpace, hne ' ' rfl, hne '\n' rfl, hne '\t' rfl, hne '\r' rfl]
  have hskip : k.skipSpace.rest = Nat.toDigits 10 n ++ tail := by
    rw [hcs, List.cons_append] at h ⊢
    exact skipSpace_none hsp h
  have hnumber := (number_gives hn ht _ hskip).map Json.number
  rw [value]
  simp only [hskip, hcs, List.cons_append]
  split <;> simp_all

theorem natural_gives {n : Nat} (hn : (n : Int) ≤ Number.maxNat) {tail : List Char} (ht : Ends tail) {k : Cursor}
    (h : k.rest = Nat.toDigits 10 n ++ tail) : Gives (natural k) n tail := by
  have hstart : startsNumber k = true := by
    obtain ⟨c, cs, hcs, hc⟩ := Decimal.toDigits_cons n
    simp [startsNumber, h, hcs, hc]
  obtain ⟨k', hk', hrest⟩ := value_digits hn ht h
  refine ⟨k', ?_, hrest⟩
  simp [natural, hstart, hk']

theorem pretty_ofNat (n depth : Nat) : ((Json.ofNat n).pretty depth).toList = Nat.toDigits 10 n := by
  rw [Json.ofNat, pretty, Number.text]
  show (Nat.repr n).toList = _
  rw [Nat.repr, String.toList_ofList]

theorem count_gives {n : Option Nat} (hn : ∀ m ∈ n, (m : Int) ≤ Number.maxNat) {tail : List Char} (ht : Ends tail)
    {k : Cursor} (h : k.rest = ((Setting.count n).json.pretty 1).toList ++ tail) : Gives (count k) n tail := by
  cases n with
  | none =>
    have htext : ((Setting.count none).json.pretty 1).toList = ['n', 'u', 'l', 'l'] := by decide
    rw [htext] at h
    simp only [List.cons_append] at h
    simp only [count, h]
    exact (ident_gives ['u', 'l', 'l'] tail _ (Cursor.past_rest _ _ _)).map fun _ => none
  | some n =>
    rw [Setting.json, pretty_ofNat] at h
    have hnat := (natural_gives (hn n rfl) ht h).map some
    obtain ⟨c, cs, hcs, hc⟩ := Decimal.toDigits_cons n
    have hne : c ≠ 'n' := Decimal.ne_of_isDigit hc rfl
    unfold count
    split
    next heq =>
      rw [h, hcs, List.cons_append] at heq
      exact absurd (List.cons.inj heq).1 hne
    next => exact hnat

/-- Items behind the first one, each behind a comma. -/
def moreItems (xs : List String) : List Char :=
  xs.flatMap fun s => ',' :: ((newline 2).toList ++ (quote s).toList)

theorem textItems_more (xs : List String) (tail : List Char) (fuel : Nat) (acc : List String) (k : Cursor)
    (h : k.rest = moreItems xs ++ ((newline 1).toList ++ ']' :: tail)) (hf : xs.length < fuel) :
    Gives (textItems fuel false acc k) (acc.reverse ++ xs) tail := by
  induction xs generalizing fuel acc k with
  | nil =>
    obtain ⟨fuel, rfl⟩ := Nat.exists_eq_add_of_lt hf
    obtain ⟨k', hk', hrest⟩ := nextItem_end false h
    refine ⟨k'.drop 1, ?_, by rw [Cursor.drop_rest, hrest]; rfl⟩
    simp only [textItems, hk', List.append_nil]
  | cons s xs ih =>
    obtain ⟨fuel, rfl⟩ := Nat.exists_eq_add_of_lt (Nat.zero_lt_of_lt hf)
    simp only [moreItems, List.flatMap_cons, List.cons_append, List.append_assoc] at h
    obtain ⟨k', hk', hrest⟩ := nextItem_more h
    obtain ⟨k'', hk'', hrest'⟩ := text_gives hrest
    have := ih (0 + fuel) (s :: acc) k'' hrest' (by simp only [List.length_cons] at hf; omega)
    simp only [textItems, hk', hk'']
    simpa using this

theorem prettyItems_strings (s : String) (xs : List String) :
    (prettyItems 2 ((s :: xs).map Json.string)).toList = (newline 2).toList ++ (quote s).toList ++ moreItems xs := by
  induction xs generalizing s with
  | nil => simp [prettyItems, pretty, moreItems]
  | cons t xs ih =>
    have := ih t
    rw [List.map_cons] at this
    rw [List.map_cons, List.map_cons, prettyItems]
    · simp [this, moreItems, pretty]
    · simp

theorem length_le_moreItems (xs : List String) : xs.length ≤ (moreItems xs).length := by
  induction xs with
  | nil => exact Nat.le_refl 0
  | cons s xs ih =>
    simp only [moreItems, List.flatMap_cons, List.length_append, List.length_cons] at ih ⊢
    omega

theorem texts_gives {xs : List String} {tail : List Char} {k : Cursor}
    (h : k.rest = ((strings xs).pretty 1).toList ++ tail) : Gives (texts k) xs tail := by
  cases xs with
  | nil =>
    have htext : ((strings []).pretty 1).toList = ['[', ']'] := by decide
    rw [htext] at h
    simp only [List.cons_append, List.nil_append] at h
    have hrest : ((k.past '[' (']' :: tail)).skipSpace).rest = ']' :: tail :=
      skipSpace_none rfl (Cursor.past_rest _ _ _)
    refine ⟨(k.past '[' (']' :: tail)).skipSpace.drop 1, ?_, by rw [Cursor.drop_rest, hrest]; rfl⟩
    simp only [texts, h, textItems, nextItem, hrest, List.reverse_nil]
  | cons s xs =>
    have hitems := prettyItems_strings s xs
    rw [List.map_cons] at hitems
    have htext : ((strings (s :: xs)).pretty 1).toList ++ tail =
        '[' :: ((newline 2).toList ++ ((quote s).toList ++ (moreItems xs ++ ((newline 1).toList ++ ']' :: tail)))) := by
      rw [strings, List.map_cons, pretty]
      · simp [hitems]
      · simp
    rw [htext] at h
    -- the first text has no comma before it
    obtain ⟨k₁, hk₁, hrest₁⟩ := @nextItem_first 2 s _ (k.past '[' _) (Cursor.past_rest _ _ _)
    obtain ⟨k₂, hk₂, hrest₂⟩ := text_gives hrest₁
    have hlength := length_le_moreItems xs
    have := textItems_more xs tail k.rest.length [s] k₂ hrest₂ (by
      rw [h]
      simp only [List.length_cons, List.length_append]
      omega)
    have hstep : ∀ rest, k.rest = '[' :: rest → texts k = textItems (k.rest.length + 1) true [] (k.past '[' rest) := by
      intro rest h
      simp only [texts, h]
    rw [hstep _ h, textItems, hk₁]
    simp only [hk₂]
    exact this

theorem pretty_front (s : Setting) :
    ∃ c cs, (s.json.pretty 1).toList = c :: cs ∧ Cursor.isSpace c = false := by
  match s with
  | .text s => exact ⟨_, _, by rw [Setting.json, pretty, quote_eq], rfl⟩
  | .flag true => exact ⟨'t', ['r', 'u', 'e'], by decide, rfl⟩
  | .flag false => exact ⟨'f', ['a', 'l', 's', 'e'], by decide, rfl⟩
  | .texts [] => exact ⟨'[', [']'], by decide, rfl⟩
  | .texts (x :: xs) => exact ⟨'[', _, by rw [Setting.json, strings, List.map_cons, pretty] <;> simp; rfl, rfl⟩
  | .count none => exact ⟨'n', ['u', 'l', 'l'], by decide, rfl⟩
  | .count (some n) =>
    obtain ⟨c, cs, hcs, hc⟩ := Decimal.toDigits_cons n
    have hne : ∀ d, d.isDigit = false → c ≠ d := fun d => Decimal.ne_of_isDigit hc
    refine ⟨c, cs, by rw [Setting.json, pretty_ofNat, hcs], ?_⟩
    simp [Cursor.isSpace, hne ' ' rfl, hne '\n' rfl, hne '\t' rfl, hne '\r' rfl]

theorem setting_gives {s : Setting} (hs : s.Within maxCount) {tail : List Char} (ht : Ends tail) {k : Cursor}
    (h : k.rest = ' ' :: ((s.json.pretty 1).toList ++ tail)) : Gives (setting s.kind k) s tail := by
  have hskip : k.skipSpace.rest = (s.json.pretty 1).toList ++ tail := by
    obtain ⟨c, cs, hcs, hc⟩ := pretty_front s
    rw [Cursor.skipSpace_rest, h, List.dropWhile_cons_of_pos (by decide), hcs, List.cons_append,
      List.dropWhile_cons_of_neg (by simp [hc])]
  cases s with
  | text s =>
    rw [Setting.json, pretty] at hskip
    exact (text_gives hskip).map Setting.text
  | flag b =>
    refine (flag_gives (b := b) (hskip.trans ?_)).map Setting.flag
    cases b <;> rfl
  | texts xs => exact (texts_gives hskip).map Setting.texts
  | count n =>
    refine (count_gives (fun m hm => ?_) ht hskip).map Setting.count
    obtain rfl := hm
    have : m ≤ maxCount := hs
    rw [maxCount] at this
    rw [Number.maxNat]
    omega

/-- The fields behind the first one, each behind a comma. -/
def moreFields (ss : Settings) : List Char :=
  ss.flatMap fun e => ',' :: ((newline 1).toList ++ ((quote e.1.name).toList ++
    ':' :: ' ' :: (e.2.json.pretty 1).toList))

theorem colon_gives {tail : List Char} {k : Cursor} (h : k.rest = ':' :: tail) : Gives (colon k) () tail := by
  have hrest := skipSpace_none rfl h
  refine ⟨k.skipSpace.past ':' tail, ?_, Cursor.past_rest _ _ _⟩
  simp only [colon, hrest]

theorem field_gives {key : Key} {s : Setting} (hkind : s.kind = key.kind) (hs : s.Within maxCount)
    {acc : Settings} (hacc : ∀ e ∈ acc, e.1 ≠ key) {tail : List Char} (ht : Ends tail) {k : Cursor}
    (h : k.rest = ':' :: ' ' :: ((s.json.pretty 1).toList ++ tail)) :
    Gives (field key.name acc k) ((key, s) :: acc) tail := by
  have hlookup : acc.lookup key = none :=
    List.lookup_eq_none_iff.mpr fun e he => by simpa using (hacc e he).symm
  obtain ⟨k₁, hk₁, hrest₁⟩ := colon_gives h
  obtain ⟨k₂, hk₂, hrest₂⟩ := setting_gives hs ht hrest₁
  refine ⟨k₂, ?_, hrest₂⟩
  rw [hkind] at hk₂
  simp [field, Key.ofName?_name, hlookup, hk₁, hk₂, Except.map]

theorem length_le_moreFields (ss : Settings) : ss.length ≤ (moreFields ss).length := by
  induction ss with
  | nil => exact Nat.le_refl 0
  | cons e ss ih =>
    simp only [moreFields, List.flatMap_cons, List.length_append, List.length_cons] at ih ⊢
    omega

theorem moreFields_ends (ss : Settings) (tail : List Char) :
    Ends (moreFields ss ++ ((newline 0).toList ++ '\x7d' :: tail)) := by
  cases ss with
  | nil => exact .inr rfl
  | cons e ss => exact .inl rfl

/-- One field, once it is clear that there is one. -/
theorem objectFields_field {key : Key} {s : Setting} (hkind : s.kind = key.kind) (hs : s.Within maxCount)
    {acc : Settings} (hacc : ∀ e ∈ acc, e.1 ≠ key) {tail : List Char} (ht : Ends tail) {first : Bool} {k : Cursor}
    (h : Gives (nextField first k) true
      ((quote key.name).toList ++ ':' :: ' ' :: ((s.json.pretty 1).toList ++ tail))) (fuel : Nat) :
    ∃ k', k'.rest = tail ∧ objectFields (fuel + 1) first acc k = objectFields fuel false ((key, s) :: acc) k' := by
  obtain ⟨k₁, hk₁, hrest₁⟩ := h
  obtain ⟨k₂, hk₂, hrest₂⟩ := key_gives key.name _ k₁ hrest₁
  obtain ⟨k₃, hk₃, hrest₃⟩ := field_gives hkind hs hacc ht hrest₂
  exact ⟨k₃, hrest₃, by simp only [objectFields, hk₁, hk₂, hk₃]⟩

theorem objectFields_more (ss : Settings) (hkind : ∀ e ∈ ss, e.2.kind = e.1.kind)
    (hs : ∀ e ∈ ss, e.2.Within maxCount) (hnodup : (ss.map (·.1)).Nodup) (acc : Settings)
    (hacc : ∀ e ∈ acc, ∀ p ∈ ss, e.1 ≠ p.1) (tail : List Char) (fuel : Nat) (k : Cursor)
    (h : k.rest = moreFields ss ++ ((newline 0).toList ++ '\x7d' :: tail)) (hf : ss.length < fuel) :
    Gives (objectFields fuel false acc k) (ss.reverse ++ acc) tail := by
  induction ss generalizing acc fuel k with
  | nil =>
    obtain ⟨fuel, rfl⟩ := Nat.exists_eq_add_of_lt hf
    obtain ⟨k', hk', hrest⟩ := nextField_end false h
    refine ⟨k'.drop 1, ?_, by rw [Cursor.drop_rest, hrest]; rfl⟩
    simp only [objectFields, hk', List.reverse_nil, List.nil_append]
  | cons p ss ih =>
    obtain ⟨key, s⟩ := p
    obtain ⟨fuel, rfl⟩ := Nat.exists_eq_add_of_lt (Nat.zero_lt_of_lt hf)
    have hnodup := List.nodup_cons.mp hnodup
    simp only [moreFields, List.flatMap_cons, List.cons_append, List.append_assoc] at h
    obtain ⟨k', hrest, hstep⟩ := objectFields_field (hkind _ (List.mem_cons_self ..)) (hs _ (List.mem_cons_self ..))
      (fun e he => hacc e he _ (List.mem_cons_self ..)) (moreFields_ends ss tail) (nextField_more h) (0 + fuel)
    have hacc' : ∀ e ∈ (key, s) :: acc, ∀ p ∈ ss, e.1 ≠ p.1 := by
      intro e he p hp heq
      rcases List.mem_cons.mp he with rfl | he
      · exact hnodup.1 (List.mem_map.mpr ⟨p, hp, heq.symm⟩)
      · exact hacc e he p (List.mem_cons_of_mem _ hp) heq
    have := ih (fun e he => hkind e (List.mem_cons_of_mem _ he)) (fun e he => hs e (List.mem_cons_of_mem _ he))
      hnodup.2 _ hacc' (0 + fuel) k' hrest (by simp only [List.length_cons] at hf; omega)
    rw [hstep]
    simpa using this

theorem prettyFields_settings (e : Key × Setting) (ss : Settings) :
    (prettyFields 1 ((e :: ss).map fun (k, s) => (k.name, s.json))).toList =
      (newline 1).toList ++ ((quote e.1.name).toList ++ ':' :: ' ' :: ((e.2.json.pretty 1).toList ++ moreFields ss)) := by
  induction ss generalizing e with
  | nil => simp [prettyFields, moreFields]
  | cons p ss ih =>
    have := ih p
    rw [List.map_cons] at this
    rw [List.map_cons, List.map_cons, prettyFields]
    · simp [this, moreFields]
    · simp

theorem pretty_settings (e : Key × Setting) (ss : Settings) :
    ((Json.object ((e :: ss).map fun (k, s) => (k.name, s.json))).pretty 0).toList =
      '\x7b' :: ((newline 1).toList ++ ((quote e.1.name).toList ++ ':' :: ' ' :: ((e.2.json.pretty 1).toList ++
        (moreFields ss ++ ((newline 0).toList ++ ['\x7d']))))) := by
  have hfields := prettyFields_settings e ss
  rw [List.map_cons] at hfields ⊢
  rw [pretty]
  · simp [hfields]
  · simp

/-- An object with a field for each of some settings gives these, the last one in front. -/
theorem settings_gives (ss : Settings) (hne : ss ≠ []) (hkind : ∀ p ∈ ss, p.2.kind = p.1.kind)
    (hs : ∀ p ∈ ss, p.2.Within maxCount) (hnodup : (ss.map (·.1)).Nodup) (k : Cursor)
    (h : k.rest = ((Json.object (ss.map fun (k, s) => (k.name, s.json))).pretty 0).toList) :
    Gives (settings k) ss.reverse [] := by
  obtain ⟨⟨key, s⟩, ss, rfl⟩ := List.exists_cons_of_ne_nil hne
  rw [pretty_settings] at h
  have hnodup := List.nodup_cons.mp hnodup
  have hskip := skipSpace_none rfl h
  have hnone : ∀ e ∈ ([] : Settings), e.1 ≠ key := by simp
  obtain ⟨k', hrest, hstep⟩ := objectFields_field (hkind _ (List.mem_cons_self ..)) (hs _ (List.mem_cons_self ..))
    hnone (moreFields_ends ss []) (@nextField_first 1 key.name _ _ (Cursor.past_rest k.skipSpace '\x7b' _))
    k.skipSpace.rest.length
  have hlength : ss.length < k.skipSpace.rest.length := by
    have := length_le_moreFields ss
    rw [hskip]
    simp only [List.length_cons, List.length_append]
    omega
  have hacc : ∀ e ∈ [(key, s)], ∀ p ∈ ss, e.1 ≠ p.1 := by
    intro e he p hp heq
    rw [List.mem_singleton.mp he] at heq
    exact hnodup.1 (List.mem_map.mpr ⟨p, hp, heq.symm⟩)
  have hmore := objectFields_more ss (fun e he => hkind e (List.mem_cons_of_mem _ he))
    (fun e he => hs e (List.mem_cons_of_mem _ he)) hnodup.2 _ hacc [] _ k' hrest hlength
  rw [← List.reverse_cons, ← hstep] at hmore
  have hobject : ∀ rest, k.skipSpace.rest = '\x7b' :: rest →
      settings k = objectFields (k.skipSpace.rest.length + 1) true [] (k.skipSpace.past '\x7b' rest) := by
    intro rest h
    simp only [settings, h]
  rwa [hobject _ hskip]

/-- The text of a configuration is read as the configuration. -/
theorem parse_render {c : Config} (h : ∀ n ∈ c.scriptTimeoutMs, n ≤ maxCount) : parse (render c) = .ok c := by
  have htext : (Cursor.ofString (render c)).rest =
      ((Json.object (c.settings.map fun (k, s) => (k.name, s.json))).pretty 0).toList := by
    rw [Cursor.ofString, render, fields]
  obtain ⟨k, hk, hrest⟩ := settings_gives c.settings (by simp [Config.settings]) settings_kind
    (settings_within h) keys_nodup _ htext
  simp [parse, hk, ofSettings_reverse, finish, hrest]

end ApiStencil.Config.JsonText
