import ApiStencil.Config.TomlText
import ApiStencil.Proofs.Settings
import ApiStencil.Proofs.TomlTexts
/-!
The lines of a configuration in TOML are read back as the settings that they were written for. A timeout that
is not set has no line, and its default says the same.
-/
set_option autoImplicit false

namespace ApiStencil.Toml
namespace Reader

theorem bind_ok {α β : Type} {x : Reader α} {f : α → Reader β} {cs rest : List Char} {a : α}
    (h : x cs = .ok (a, rest)) : (x >>= f) cs = f a rest := by
  show Except.bind (x cs) (fun p => f p.1 p.2) = _
  rw [h]
  rfl

theorem get_bind {β : Type} (f : List Char → Reader β) (cs : List Char) : (get >>= f) cs = f cs cs := rfl

theorem peek_bind {β : Type} (f : Option Char → Reader β) (cs : List Char) : (peek >>= f) cs = f cs.head? cs := rfl

theorem map_ok {α β : Type} {x : Reader α} (f : α → β) {cs rest : List Char} {a : α}
    (h : x cs = .ok (a, rest)) : (f <$> x) cs = .ok (f a, rest) := by
  show Except.bind (x cs) (fun p => .ok (f p.1, p.2)) = _
  rw [h]
  rfl

end Reader

/-- What may stand behind a value. -/
def Ends (tail : List Char) : Prop :=
  tail.head? = some '\n' ∨ tail.head? = some ',' ∨ tail.head? = some ']'

/-- A value is read back behind its text, whatever ends it. -/
def Reads (levels : Nat) (text : List Char) (v : Value) : Prop :=
  ∀ tail, Ends tail → Reader.value levels (text ++ tail) = .ok (v, tail)

theorem renderText_front (s : String) : ∃ c cs, (c = '"' ∨ c = '\'') ∧ (renderText s).toList = c :: cs := by
  obtain ⟨rest, hm⟩ : ∃ rest, (Quote.ofText s.toList).marks = (Quote.ofText s.toList).mark :: rest := by
    rw [Quote.marks]
    split <;> exact ⟨_, rfl⟩
  refine ⟨(Quote.ofText s.toList).mark, _, ?_, by
    rw [renderText, String.toList_ofList, hm, List.cons_append, List.cons_append, List.cons_append]⟩
  rcases ofText_cases s.toList with ⟨m, hq⟩ | ⟨m, hq, -⟩ <;> simp [hq]

theorem value_quote {c : Char} (hc : c = '"' ∨ c = '\'') (levels : Nat) (cs : List Char) :
    Reader.value levels (c :: cs) = (Value.text <$> Reader.text) (c :: cs) := by
  rcases hc with rfl | rfl <;> cases levels <;> rfl

theorem reads_text (levels : Nat) (s : String) : Reads levels (renderText s).toList (.text s) := by
  intro tail ht
  have h : Reader.text ((renderText s).toList ++ tail) = .ok (s, tail) := by
    refine text_renderText s ?_ ?_ <;> rcases ht with ht | ht | ht <;> simp [StartsOff, ht]
  obtain ⟨c, cs, hc, hcs⟩ := renderText_front s
  rw [hcs] at h ⊢
  rw [List.cons_append] at h ⊢
  rw [value_quote hc]
  exact Reader.map_ok _ h

/-! Words: truth values and integers. -/

theorem Ends.not_wordPart {tail : List Char} (ht : Ends tail) : tail.takeWhile Reader.isWordPart = [] := by
  cases tail with
  | nil => rfl
  | cons c tail =>
    simp only [Ends, List.head?_cons, Option.some.injEq] at ht
    rcases ht with rfl | rfl | rfl <;> rfl

theorem word_append {w : List Char} (hw : ∀ c ∈ w, Reader.isWordPart c = true) {tail : List Char} (ht : Ends tail) :
    Reader.word (w ++ tail) = w := by
  have hfront : (w ++ tail).takeWhile Reader.isWordPart = w := by
    rw [List.takeWhile_append_of_pos hw, ht.not_wordPart, List.append_nil]
  rw [Reader.word, hfront, List.drop_left]
  cases tail with
  | nil => rfl
  | cons c tail =>
    simp only [Ends, List.head?_cons, Option.some.injEq] at ht
    rcases ht with rfl | rfl | rfl <;> rfl

theorem value_word {c : Char} (hc : Reader.isWordPart c = true) (levels : Nat) (cs : List Char) :
    Reader.value levels (c :: cs) = Reader.wordValue (c :: cs) := by
  have hne : ∀ d, Reader.isWordPart d = false → c ≠ d := fun d hd heq => by simp [heq, hd] at hc
  have h₁ : c ≠ '[' := hne _ rfl
  have h₂ : c ≠ '\x7b' := hne _ rfl
  have h₃ : c ≠ '"' := hne _ rfl
  have h₄ : c ≠ '\'' := hne _ rfl
  clear hne
  cases levels with
  | zero =>
    rw [Reader.value, Reader.peek_bind]
    refine congrFun ?_ (c :: cs)
    split <;> simp_all
  | succ levels =>
    rw [Reader.value, Reader.get_bind]
    refine congrFun ?_ (c :: cs)
    split <;> simp_all

theorem reads_word {w : List Char} {v : Value} (hne : w ≠ []) (hw : ∀ c ∈ w, Reader.isWordPart c = true)
    (hv : Reader.wordValue? w = some v) (levels : Nat) : Reads levels w v := by
  intro tail ht
  have h : Reader.wordValue (w ++ tail) = .ok (v, tail) := by
    rw [Reader.wordValue]
    simp only [word_append hw ht, hv, List.drop_left]
  obtain ⟨c, w, rfl⟩ := List.exists_cons_of_ne_nil hne
  rw [← h, List.cons_append]
  exact value_word (hw c (by simp)) levels _

theorem mark?_digits {c : Char} (hc : c.isDigit = false) {cs : List Char} (h : ∀ d ∈ cs, d.isDigit = true) :
    Moment.mark? c cs = none := by
  cases cs with
  | nil => rfl
  | cons d cs =>
    have hd : d ≠ c := fun heq => by simp [← heq, h d (by simp)] at hc
    rw [Moment.mark?, if_neg (by simpa using hd)]

/-- A field of a date or a time leaves digits behind it, where there were only digits. -/
theorem field?_mark? (n lo hi : Nat) {c : Char} (hc : c.isDigit = false) {cs : List Char}
    (h : ∀ d ∈ cs, d.isDigit = true) :
    ((Moment.field? n lo hi cs).bind fun p => Moment.mark? c p.2) = none := by
  have hdrop : Moment.mark? c (cs.drop n) = none := mark?_digits hc fun d hd => h d (List.mem_of_mem_drop hd)
  simp only [Moment.field?]
  split
  next =>
    split
    next => exact hdrop
    next => rfl
  next => rfl

theorem not_moment {cs : List Char} (h : ∀ c ∈ cs, c.isDigit = true) : Moment.isValid cs = false := by
  have hdate : Moment.date? cs = none := by
    have := field?_mark? 4 0 9999 (c := '-') rfl h
    rw [Moment.date?]
    cases hf : Moment.field? 4 0 9999 cs with
    | none => rfl
    | some p =>
      rw [hf, Option.bind_some] at this
      simp [this]
  have htime : Moment.time? cs = none := by
    have := field?_mark? 2 0 23 (c := ':') rfl h
    rw [Moment.time?]
    cases hf : Moment.field? 2 0 23 cs with
    | none => rfl
    | some p =>
      rw [hf, Option.bind_some] at this
      simp [this]
  rw [Moment.isValid, hdate]
  simp [htime]

theorem grouped?_digits {cs : List Char} (hne : cs ≠ []) (h : ∀ c ∈ cs, c.isDigit = true) : grouped10? cs = some cs := by
  induction cs with
  | nil => exact absurd rfl hne
  | cons c cs ih =>
    have hc := h c (by simp)
    cases cs with
    | nil => simp [grouped10?, grouped?, hc]
    | cons d cs =>
      have hd : d ≠ '_' := fun heq => by simpa [heq] using h d (by simp)
      have := ih (by simp) fun e he => h e (List.mem_cons_of_mem _ he)
      rw [grouped10?] at this ⊢
      rw [grouped?, if_pos hc, this]
      · rfl
      · simp
      · simp [hd]

theorem whole?_toDigits (n : Nat) : whole? (Nat.toDigits 10 n) = some (Nat.toDigits 10 n) := by
  have := grouped?_digits (Decimal.toDigits_ne_nil n) fun c => Decimal.isDigit_of_mem_toDigits
  unfold whole?
  split
  next heq =>
    rcases Decimal.toDigits_front n with h0 | ⟨c, cs, hcs, hne⟩
    · simp [h0] at heq
    · exact absurd (List.cons.inj (hcs.symm.trans heq)).1 hne
  next => exact this

theorem toDigits_ne {n : Nat} {cs : List Char} (h : ∃ c ∈ cs, c.isDigit = false) : Nat.toDigits 10 n ≠ cs := by
  rintro rfl
  obtain ⟨c, hc, hn⟩ := h
  simp [Decimal.isDigit_of_mem_toDigits hc] at hn

theorem signed_toDigits (n : Nat) : signed (Nat.toDigits 10 n) = (false, Nat.toDigits 10 n) := by
  unfold signed
  split
  next heq => exact absurd heq (toDigits_ne ⟨'-', by simp, rfl⟩)
  next heq => exact absurd heq (toDigits_ne ⟨'+', by simp, rfl⟩)
  next => rfl

theorem integer?_toDigits {n : Nat} (hn : n ≤ maxInteger) : integer? (Nat.toDigits 10 n) = some (n : Int) := by
  unfold integer?
  split
  next heq => exact absurd heq (toDigits_ne ⟨'x', by simp, rfl⟩)
  next heq => exact absurd heq (toDigits_ne ⟨'o', by simp, rfl⟩)
  next heq => exact absurd heq (toDigits_ne ⟨'b', by simp, rfl⟩)
  next => simp [signed_toDigits, whole?_toDigits, Decimal.naturalOf_toDigits, hn]

theorem wordValue?_toDigits {n : Nat} (hn : n ≤ maxInteger) :
    Reader.wordValue? (Nat.toDigits 10 n) = some (.integer n) := by
  have hne : ∀ s : String, (∃ c ∈ s.toList, c.isDigit = false) → String.ofList (Nat.toDigits 10 n) ≠ s := by
    intro s hs heq
    have := congrArg String.toList heq
    rw [String.toList_ofList] at this
    exact toDigits_ne hs this
  unfold Reader.wordValue?
  split
  next heq => exact absurd heq (hne _ ⟨'t', by simp, rfl⟩)
  next heq => exact absurd heq (hne _ ⟨'f', by simp, rfl⟩)
  next => simp [not_moment fun c => Decimal.isDigit_of_mem_toDigits, integer?_toDigits hn]

theorem reads_integer {n : Nat} (hn : n ≤ maxInteger) (levels : Nat) :
    Reads levels (Nat.toDigits 10 n) (.integer n) := by
  refine reads_word (Decimal.toDigits_ne_nil n) (fun c hc => ?_) (wordValue?_toDigits hn) levels
  have := Decimal.isDigit_of_mem_toDigits hc
  simp [Reader.isWordPart, Reader.isBare, Char.isAlphanum, this]

theorem reads_bool (b : Bool) (levels : Nat) : Reads levels (toString b).toList (.bool b) := by
  cases b <;> exact reads_word (by decide) (List.all_eq_true.mp (by decide)) rfl levels

/-! Arrays of texts. -/

theorem space_bind {β : Type} (f : Unit → Reader β) (cs : List Char) :
    (Reader.space >>= f) cs = f () (skipSpace false cs) := rfl

theorem skipSpace_text (s : String) (tail : List Char) :
    skipSpace false ((renderText s).toList ++ tail) = (renderText s).toList ++ tail := by
  obtain ⟨c, cs, hc, hcs⟩ := renderText_front s
  rw [hcs]
  rcases hc with rfl | rfl <;> rfl

/-- An item, with a comma behind it or the end of the array. -/
theorem items_text (levels fuel : Nat) (s : String) {tail : List Char} (ht : Ends tail) :
    Reader.items (Reader.value levels) (fuel + 1) ((renderText s).toList ++ tail) =
      (do
        Reader.space
        match ← get with
        | ',' :: rest =>
          set rest
          return .text s :: (← Reader.items (Reader.value levels) fuel)
        | _ =>
          Reader.char ']'
          return [.text s] : Reader (List Value)) tail := by
  rw [Reader.items, space_bind, skipSpace_text, Reader.get_bind]
  have hvalue := reads_text levels s tail ht
  obtain ⟨c, cs, hc, hcs⟩ := renderText_front s
  rw [hcs] at hvalue ⊢
  rcases hc with rfl | rfl <;> exact Reader.bind_ok hvalue

/-- An item on a line of its own, with a comma behind it. -/
def itemLine (s : String) : List Char :=
  ' ' :: ' ' :: ' ' :: ' ' :: ((renderText s).toList ++ [',', '\n'])

theorem length_le_lines (xs : List String) : xs.length ≤ (xs.flatMap itemLine).length := by
  induction xs with
  | nil => exact Nat.le_refl 0
  | cons s xs ih =>
    simp only [List.flatMap_cons, List.length_append, List.length_cons, itemLine]
    omega

theorem items_lines (levels : Nat) (xs : List String) (tail : List Char) (fuel : Nat) (hf : xs.length < fuel) :
    Reader.items (Reader.value levels) fuel ('\n' :: (xs.flatMap itemLine ++ ']' :: tail)) =
      .ok (xs.map Value.text, tail) := by
  induction xs generalizing fuel with
  | nil =>
    obtain ⟨fuel, rfl⟩ := Nat.exists_eq_add_of_lt hf
    rfl
  | cons s xs ih =>
    obtain ⟨fuel, rfl⟩ := Nat.exists_eq_add_of_lt (Nat.zero_lt_of_lt hf)
    have hrest := ih (0 + fuel) (by simp only [List.length_cons] at hf; omega)
    have hskip : ∀ rest, Reader.items (Reader.value levels) (0 + fuel + 1)
        ('\n' :: ' ' :: ' ' :: ' ' :: ' ' :: rest) = Reader.items (Reader.value levels) (0 + fuel + 1) rest := by
      intro rest
      rw [Reader.items, space_bind, space_bind]
      rfl
    have hends : Ends (',' :: '\n' :: (xs.flatMap itemLine ++ ']' :: tail)) := .inr (.inl rfl)
    simp only [List.flatMap_cons, itemLine, List.append_assoc, List.cons_append, List.nil_append]
    rw [hskip, items_text levels _ s hends]
    exact Reader.map_ok _ hrest

theorem renderTexts_several (s t : String) (xs : List String) :
    (renderTexts (s :: t :: xs)).toList = '[' :: '\n' :: ((s :: t :: xs).flatMap itemLine ++ [']']) := by
  have hline : ∀ s, (s!"    {renderText s},\n").toList = itemLine s := fun s => by simp [itemLine, toString]
  simp only [renderTexts, String.toList_append, String.toList_join, List.flatMap_map, hline]
  simp

theorem value_array (levels : Nat) (cs : List Char) {vs : List Value} {rest : List Char}
    (h : Reader.items (Reader.value levels) (cs.length + 1) cs = .ok (vs, rest)) :
    Reader.value (levels + 1) ('[' :: cs) = .ok (.array vs, rest) :=
  Reader.map_ok _ h

theorem reads_texts (levels : Nat) (xs : List String) :
    Reads (levels + 1) (renderTexts xs).toList (.array (xs.map Value.text)) := by
  intro tail ht
  match xs with
  | [] =>
    have : (renderTexts []).toList = ['[', ']'] := by simp [renderTexts]
    rw [this]
    exact value_array levels (']' :: tail) rfl
  | [s] =>
    have : (renderTexts [s]).toList = '[' :: ((renderText s).toList ++ [']']) := by simp [renderTexts]
    rw [this, List.cons_append, List.append_assoc]
    refine value_array levels _ ?_
    rw [items_text levels _ s (.inr (.inr rfl))]
    rfl
  | s :: t :: xs =>
    rw [renderTexts_several, List.cons_append]
    refine value_array levels _ ?_
    rw [List.cons_append, List.append_assoc]
    refine items_lines levels _ tail _ ?_
    have := length_le_lines (s :: t :: xs)
    simp only [List.length_cons, List.length_append] at this ⊢
    omega

/-! Statements. -/

theorem blanks_bind {β : Type} (f : Unit → Reader β) (cs : List Char) :
    (Reader.blanks >>= f) cs = f () (cs.dropWhile isBlank) := rfl

/-- A name that a key may have without quotes. -/
structure IsName (name : List Char) : Prop where
  ne_nil : name ≠ []
  bare : ∀ c ∈ name, Reader.isBare c = true

theorem IsName.ne {name : List Char} (h : IsName name) {c : Char} (hc : Reader.isBare c = false) : c ∉ name :=
  fun hmem => by simp [h.bare c hmem] at hc

theorem IsName.dropWhile {name : List Char} (h : IsName name) (tail : List Char) :
    (name ++ tail).dropWhile isBlank = name ++ tail := by
  obtain ⟨c, cs, rfl⟩ := List.exists_cons_of_ne_nil h.ne_nil
  have hs := h.ne (c := ' ') rfl
  have ht := h.ne (c := '\t') rfl
  simp only [List.mem_cons, not_or] at hs ht
  rw [List.cons_append, List.dropWhile_cons_of_neg]
  simp [isBlank, Ne.symm hs.1, Ne.symm ht.1]

theorem simpleKey_reads {name : List Char} (h : IsName name) (tail : List Char) :
    Reader.simpleKey (name ++ ' ' :: tail) = .ok (String.ofList name, ' ' :: tail) := by
  have hbare : Reader.bareKey (name ++ ' ' :: tail) = .ok (String.ofList name, ' ' :: tail) := by
    have htake : (name ++ ' ' :: tail).takeWhile Reader.isBare = name := by
      rw [List.takeWhile_append_of_pos h.bare, List.takeWhile_cons_of_neg (by decide), List.append_nil]
    have hempty : name.isEmpty = false := List.isEmpty_eq_false_iff.mpr h.ne_nil
    simp only [Reader.bareKey, htake, hempty, List.drop_left, Bool.false_eq_true, if_false]
  rw [← hbare, Reader.simpleKey, Reader.peek_bind]
  obtain ⟨c, cs, rfl⟩ := List.exists_cons_of_ne_nil h.ne_nil
  have hd := h.ne (c := '"') rfl
  have hs := h.ne (c := '\'') rfl
  refine congrFun ?_ _
  split <;> simp_all

theorem key_reads {name : List Char} (h : IsName name) (tail : List Char) :
    Reader.key (name ++ ' ' :: '=' :: tail) = .ok (([], String.ofList name), '=' :: tail) := by
  have hkeys : Reader.keys Reader.maxDepth (name ++ ' ' :: '=' :: tail) =
      .ok ([String.ofList name], '=' :: tail) := by
    rw [Reader.maxDepth, Reader.keys, blanks_bind, h.dropWhile, Reader.bind_ok (simpleKey_reads h _)]
    rfl
  rw [Reader.key, Reader.bind_ok hkeys]
  rfl

theorem put_new {es : Entries} {k : String} (h : ∀ e ∈ es, e.1 ≠ k) (v : Value) :
    Entries.put k v es = es ++ [(k, v)] := by
  induction es with
  | nil => rfl
  | cons e es ih =>
    have hne : ¬(e.1 == k) = true := by simpa using h e (by simp)
    rw [Entries.put, if_neg hne, ih fun e he => h e (List.mem_cons_of_mem _ he), List.cons_append]

theorem change_new {es : Entries} {k : String} (h : ∀ e ∈ es, e.1 ≠ k) (v : Value) (cs : List Char) :
    Reader.change (Entries.under false (Entries.add [] k v) []) .header es cs = .ok (es ++ [(k, v)], cs) := by
  have hl : es.lookup k = none := List.lookup_eq_none_iff.mpr fun e he => by simpa using (h e he).symm
  have hadd : Entries.under false (Entries.add [] k v) [] .header es = .ok (es ++ [(k, v)]) := by
    rw [Entries.under, Entries.add, Entries.under, hl, put_new h]
    rfl
  rw [Reader.change, hadd]
  rfl

/-- What stands between the name and the end of the line. -/
structure IsValue (text : List Char) (v : Value) : Prop where
  reads : Reads Reader.maxDepth text v
  front : text.head?.all (!isBlank ·)
  ne_nil : text ≠ []

theorem IsValue.dropWhile {text : List Char} {v : Value} (h : IsValue text v) (tail : List Char) :
    (' ' :: (text ++ tail)).dropWhile isBlank = text ++ tail := by
  obtain ⟨c, cs, rfl⟩ := List.exists_cons_of_ne_nil h.ne_nil
  have hc := h.front
  rw [List.dropWhile_cons_of_pos (by decide), List.cons_append, List.dropWhile_cons_of_neg]
  simpa using hc

theorem pair_reads {name text : List Char} (hn : IsName name) {v : Value} (hv : IsValue text v) {es : Entries}
    (hes : ∀ e ∈ es, e.1 ≠ String.ofList name) (tail : List Char) :
    Reader.pair (Reader.value Reader.maxDepth) [] .header es
        (name ++ ' ' :: '=' :: ' ' :: (text ++ '\n' :: tail)) =
      .ok (es ++ [(String.ofList name, v)], '\n' :: tail) := by
  have heq : Reader.char '=' ('=' :: ' ' :: (text ++ '\n' :: tail)) = .ok ((), ' ' :: (text ++ '\n' :: tail)) := rfl
  rw [Reader.pair, Reader.bind_ok (key_reads hn _)]
  dsimp only
  rw [Reader.bind_ok heq, blanks_bind, hv.dropWhile, Reader.bind_ok (hv.reads _ (.inl rfl)), blanks_bind]
  exact change_new hes v _

theorem IsName.skipSpace {name : List Char} (h : IsName name) (tail : List Char) :
    skipSpace false (name ++ tail) = name ++ tail := by
  obtain ⟨c, cs, rfl⟩ := List.exists_cons_of_ne_nil h.ne_nil
  have hc : ∀ d, Reader.isBare d = false → c ≠ d := fun d hd heq => h.ne hd (by simp [heq])
  have h₁ : c ≠ ' ' := hc _ rfl
  have h₂ : c ≠ '\t' := hc _ rfl
  have h₃ : c ≠ '\n' := hc _ rfl
  have h₄ : c ≠ '#' := hc _ rfl
  have h₅ : c ≠ '\r' := hc _ rfl
  rw [List.cons_append, Toml.skipSpace]
  simp [isBlank, h₁, h₂, h₃, h₄, h₅]

/-- A line with a key that is not there yet adds an entry at the end. -/
theorem statements_line {name text : List Char} (hn : IsName name) {v : Value} (hv : IsValue text v) {es : Entries}
    (hes : ∀ e ∈ es, e.1 ≠ String.ofList name) (fuel : Nat) (tail : List Char) :
    Reader.statements (fuel + 1) [] es (name ++ ' ' :: '=' :: ' ' :: (text ++ '\n' :: tail)) =
      Reader.statements fuel [] (es ++ [(String.ofList name, v)]) tail := by
  have hstep : Reader.statements (fuel + 1) [] es (name ++ ' ' :: '=' :: ' ' :: (text ++ '\n' :: tail)) =
      (Reader.pair (Reader.value Reader.maxDepth) [] .header es >>= fun es => do
        Reader.lineEnd
        Reader.statements fuel [] es) (name ++ ' ' :: '=' :: ' ' :: (text ++ '\n' :: tail)) := by
    rw [Reader.statements, space_bind, hn.skipSpace, Reader.peek_bind]
    obtain ⟨c, cs, rfl⟩ := List.exists_cons_of_ne_nil hn.ne_nil
    have hc : c ≠ '[' := fun heq => hn.ne (c := '[') rfl (by simp [heq])
    refine congrFun ?_ _
    split <;> simp_all
  have hend : Reader.lineEnd ('\n' :: tail) = .ok ((), tail) := rfl
  rw [hstep, Reader.bind_ok (pair_reads hn hv hes tail), Reader.bind_ok hend]

theorem statements_end (fuel : Nat) (es : Entries) : Reader.statements (fuel + 1) [] es [] = .ok (es, []) := rfl

end ApiStencil.Toml

namespace ApiStencil.Config.TomlText
open Toml (Value IsName IsValue Reads)

/-- What a setting is in TOML, if it is set. -/
def valueOf? : Setting → Option Value
  | .text s => some (.text s)
  | .flag b => some (.bool b)
  | .texts xs => some (.array (xs.map .text))
  | .count n => n.map fun n => .integer n

theorem isName (key : Key) : IsName key.name.toList := by
  cases key <;> exact ⟨by decide, List.all_eq_true.mp (by decide)⟩

theorem isValue_text (s : String) : IsValue (Toml.renderText s).toList (.text s) := by
  obtain ⟨c, cs, hc, hcs⟩ := Toml.renderText_front s
  refine ⟨Toml.reads_text _ s, ?_, by simp [hcs]⟩
  rcases hc with rfl | rfl <;> simp [hcs, Toml.isBlank]

theorem isValue_texts (xs : List String) : IsValue (Toml.renderTexts xs).toList (.array (xs.map .text)) := by
  obtain ⟨rest, hrest⟩ : ∃ rest, (Toml.renderTexts xs).toList = '[' :: rest := by
    match xs with
    | [] | [_] => exact ⟨_, by simp [Toml.renderTexts]; rfl⟩
    | s :: t :: xs => exact ⟨_, Toml.renderTexts_several s t xs⟩
  exact ⟨Toml.reads_texts _ xs, by simp [hrest, Toml.isBlank], by simp [hrest]⟩

theorem isValue_flag (b : Bool) : IsValue (toString b).toList (.bool b) :=
  ⟨Toml.reads_bool b _, by cases b <;> decide, by cases b <;> decide⟩

theorem isValue_count {n : Nat} (hn : n ≤ Toml.maxInteger) : IsValue (toString n).toList (.integer n) := by
  have htext : (toString n).toList = Nat.toDigits 10 n := by
    rw [Nat.toString_eq_ofList_toDigits, String.toList_ofList]
  rw [htext]
  refine ⟨Toml.reads_integer hn _, ?_, Decimal.toDigits_ne_nil n⟩
  obtain ⟨c, cs, hcs, hc⟩ := Decimal.toDigits_cons n
  simp [hcs, Toml.isBlank, Decimal.ne_of_isDigit hc (d := ' ') rfl, Decimal.ne_of_isDigit hc (d := '\t') rfl]

theorem line?_none (key : Key) {s : Setting} (h : valueOf? s = none) : line? (key, s) = none := by
  cases s with
  | text | flag | texts => cases h
  | count n =>
    cases n with
    | none => rfl
    | some n => cases h

/-- The line of a setting holds its name and its value. -/
theorem line?_some (key : Key) {s : Setting} {v : Value} (h : valueOf? s = some v) (hs : s.Within Toml.maxInteger) :
    ∃ line text, line? (key, s) = some line ∧ IsValue text v ∧
      line.toList = key.name.toList ++ ' ' :: '=' :: ' ' :: (text ++ ['\n']) := by
  have hstr : ∀ s : String, toString s = s := fun _ => rfl
  cases s with
  | text s =>
    cases h
    exact ⟨_, _, rfl, isValue_text s, by simp [hstr]⟩
  | flag b =>
    cases h
    exact ⟨_, _, rfl, isValue_flag b, by simp [hstr]⟩
  | texts xs =>
    cases h
    exact ⟨_, _, rfl, isValue_texts xs, by simp [hstr]⟩
  | count n =>
    cases n with
    | none => cases h
    | some n =>
      cases h
      exact ⟨_, _, rfl, isValue_count hs, by simp [hstr]⟩

/-- The entries of some settings. -/
def entriesOf (ss : Settings) : Toml.Entries :=
  ss.filterMap fun e => (valueOf? e.2).map fun v => (e.1.name, v)

/-- The lines of some settings add their entries, in their order. -/
theorem statements_settings (ss : Settings) (hs : ∀ e ∈ ss, e.2.Within Toml.maxInteger) (hnodup : (ss.map (·.1)).Nodup)
    (es : Toml.Entries) (hes : ∀ e ∈ es, ∀ p ∈ ss, e.1 ≠ p.1.name) (fuel : Nat) (hf : ss.length < fuel) :
    Toml.Reader.statements fuel [] es (String.join (ss.filterMap line?)).toList = .ok (es ++ entriesOf ss, []) := by
  -- no setting to come has the name of an entry that stands already
  induction ss generalizing es fuel with
  | nil =>
    obtain ⟨fuel, rfl⟩ := Nat.exists_eq_add_of_lt hf
    simpa [entriesOf] using Toml.statements_end (0 + fuel) es
  | cons p ss ih =>
    obtain ⟨key, s⟩ := p
    have hs' : ∀ e ∈ ss, e.2.Within Toml.maxInteger := fun e he => hs e (List.mem_cons_of_mem _ he)
    have hes' : ∀ e ∈ es, ∀ p ∈ ss, e.1 ≠ p.1.name := fun e he p hp => hes e he p (List.mem_cons_of_mem _ hp)
    have hnodup := List.nodup_cons.mp hnodup
    cases h : valueOf? s with
    | none =>
      have hentries : entriesOf ((key, s) :: ss) = entriesOf ss := List.filterMap_cons_none (by simp [h])
      rw [List.filterMap_cons_none (line?_none key h), hentries]
      exact ih hs' hnodup.2 es hes' fuel (Nat.lt_of_succ_lt hf)
    | some v =>
      obtain ⟨line, text, hline, hv, htext⟩ := line?_some key h (hs (key, s) (by simp))
      have hentries : entriesOf ((key, s) :: ss) = (key.name, v) :: entriesOf ss :=
        List.filterMap_cons_some (by simp [h])
      obtain ⟨fuel, rfl⟩ := Nat.exists_eq_add_of_lt (Nat.zero_lt_of_lt hf)
      have hnew : ∀ e ∈ es, e.1 ≠ String.ofList key.name.toList := fun e he => by
        rw [String.ofList_toList]
        exact hes e he (key, s) (by simp)
      have hes'' : ∀ e ∈ es ++ [(key.name, v)], ∀ p ∈ ss, e.1 ≠ p.1.name := by
        intro e he p hp heq
        rcases List.mem_append.mp he with he | he
        · exact hes' e he p hp heq
        · rw [List.mem_singleton.mp he] at heq
          exact hnodup.1 (List.mem_map.mpr ⟨p, hp, (Key.name_inj heq).symm⟩)
      have hstep := Toml.statements_line (isName key) hv hnew (0 + fuel) (String.join (ss.filterMap line?)).toList
      rw [String.ofList_toList] at hstep
      have hrest := ih hs' hnodup.2 _ hes'' (0 + fuel) (by simp only [List.length_cons] at hf; omega)
      rw [List.filterMap_cons_some hline, String.join_cons, String.toList_append, htext, hentries]
      simp only [List.append_assoc, List.cons_append, List.nil_append] at hstep hrest ⊢
      rw [hstep, hrest]

theorem mapM_textItem? (xs : List String) : (xs.map Value.text).mapM textItem? = some xs := by
  induction xs with
  | nil => rfl
  | cons x xs ih => simp [textItem?, ih]

/-- A setting is found under its own name. -/
theorem settings_cons {es : Toml.Entries} {key : Key} {rest : List Key} {v : Value} {s : Setting}
    (hl : es.lookup key.name = some v) (hs : setting? key.kind v = some s) {found : Settings}
    (hrest : settings es rest = .ok found) : settings es (key :: rest) = .ok ((key, s) :: found) := by
  rw [settings, hl]
  simp only [hs, hrest]
  rfl

theorem settings_skip {es : Toml.Entries} {key : Key} {rest : List Key} (hl : es.lookup key.name = none) :
    settings es (key :: rest) = settings es rest := by
  rw [settings, hl]

theorem setting?_texts (xs : List String) : setting? .texts (.array (xs.map .text)) = some (.texts xs) :=
  congrArg (Option.map Setting.texts) (mapM_textItem? xs)

/-- The settings that have a line. -/
def written (c : Config) : Settings := c.settings.filter fun e => (valueOf? e.2).isSome

theorem settings_entries (c : Config) : settings (entriesOf c.settings) Key.all = .ok (written c) := by
  obtain ⟨document, templates, output, verify, extension, scripts, timeout⟩ := c
  cases timeout with
  | none =>
    iterate 5 refine settings_cons rfl rfl ?_
    refine settings_cons rfl ?_ (settings_skip rfl)
    exact setting?_texts scripts
  | some n =>
    iterate 5 refine settings_cons rfl rfl ?_
    refine settings_cons rfl ?_ (settings_cons rfl rfl rfl)
    exact setting?_texts scripts

/-- The default of the timeout is that there is none. -/
theorem ofSettings_written (c : Config) : ofSettings (written c) = .ok c := by
  obtain ⟨document, templates, output, verify, extension, scripts, timeout⟩ := c
  cases timeout <;> rfl

theorem fits_within {c : Config} (h : fits c = true) : ∀ e ∈ c.settings, e.2.Within Toml.maxInteger :=
  settings_within fun n hn => by simpa [fits, Option.mem_def.mp hn] using h

/-- The text begins with the name of the first setting. -/
theorem lines_front (c : Config) :
    ∃ rest, (String.join (c.settings.filterMap line?)).toList =
      'o' :: 'p' :: 'e' :: 'n' :: 'a' :: 'p' :: 'i' :: rest := by
  obtain ⟨line, text, hline, -, htext⟩ := line?_some .documentPath (s := .text c.documentPath) rfl trivial
  have hname : Key.documentPath.name.toList =
      'o' :: 'p' :: 'e' :: 'n' :: 'a' :: 'p' :: 'i' :: "_schema_path".toList := by decide
  rw [Config.settings, List.filterMap_cons_some hline, String.join_cons, String.toList_append, htext, hname]
  exact ⟨_, rfl⟩

/-- The text of a configuration is read as the configuration. -/
theorem parse_render {c : Config} {s : String} (h : render? c = some s) : parse s = .ok c := by
  rw [render?] at h
  split at h
  next hfits =>
    obtain rfl := Option.some.inj h
    have hlines := statements_settings c.settings (fits_within hfits) keys_nodup [] (by simp)
    have hentries : Toml.parse (String.join (c.settings.filterMap line?)) = .ok (entriesOf c.settings) := by
      obtain ⟨rest, hrest⟩ := lines_front c
      have hlength : c.settings.length < (String.join (c.settings.filterMap line?)).toList.length + 1 := by
        rw [hrest]
        exact Nat.lt_of_lt_of_le (by show 7 < 8; decide) (Nat.le_add_left 8 rest.length)
      have hbody := hlines _ hlength
      rw [hrest] at hbody
      rw [Toml.parse, hrest]
      simp only [List.head?_cons, Option.some_beq_some, beq_iff_eq]
      rw [if_neg (by decide), hbody]
      rfl
    simp only [parse, hentries, settings_entries, ofSettings_written, bind, Except.bind, pure, Except.pure]
  next => cases h

/-- Nothing is written exactly where the timeout is no integer of the format. -/
theorem render?_none (c : Config) : render? c = none ↔ ∃ n, c.scriptTimeoutMs = some n ∧ Toml.maxInteger < n := by
  rw [render?, fits]
  cases c.scriptTimeoutMs <;> simp

end ApiStencil.Config.TomlText
