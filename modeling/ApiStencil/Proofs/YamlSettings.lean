import ApiStencil.Config.YamlText
import ApiStencil.Proofs.Settings
import ApiStencil.Proofs.YamlEvents
import ApiStencil.Proofs.YamlTokens
import Mathlib.Data.List.Nodup
/-!
The mapping that a configuration is written as in YAML is read back as that configuration: the text is a line for
each setting, each line is found as the tokens of one entry, and the node of the entry stands for the setting.
-/
set_option autoImplicit false

namespace ApiStencil.Yaml

/-! Words, which stand for themselves. -/

theorem isPrintable_of_alphanum {c : Char} (h : c.isAlphanum = true) : isPrintable c = true := by
  have hrange : 48 ≤ c.toNat ∧ c.toNat ≤ 122 := by
    have hcases : (decide ('A'.val ≤ c.val ∧ c.val ≤ 'Z'.val) || 'a'.val ≤ c.val && c.val ≤ 'z'.val ||
      '0'.val ≤ c.val && c.val ≤ '9'.val) = true := h
    simp only [Bool.or_eq_true, Bool.and_eq_true, decide_eq_true_eq, UInt32.le_iff_toNat_le] at hcases
    have hbounds : 'A'.val.toNat = 65 ∧ 'Z'.val.toNat = 90 ∧ 'a'.val.toNat = 97 ∧ 'z'.val.toNat = 122 ∧
      '0'.val.toNat = 48 ∧ '9'.val.toNat = 57 := ⟨rfl, rfl, rfl, rfl, rfl, rfl⟩
    have hval : c.val.toNat = c.toNat := rfl
    omega
  simp only [isPrintable, Bool.or_eq_true, Bool.and_eq_true, decide_eq_true_eq]
  omega

theorem ne_of_alphanum {c d : Char} (h : c.isAlphanum = true) (hd : d.isAlphanum = false) : c ≠ d :=
  fun heq => by simp [heq, hd] at h

theorem holdsIndicator_word {cs : List Char} (h : ∀ c ∈ cs, c.isAlphanum = true) (before : Bool) :
    holdsIndicator before cs = false := by
  induction cs generalizing before with
  | nil => rfl
  | cons c cs ih =>
    have hc := h c (by simp)
    simp [holdsIndicator, ne_of_alphanum hc (d := ':') rfl, ne_of_alphanum hc (d := '#') rfl,
      ih fun d hd => h d (List.mem_cons_of_mem _ hd)]

theorem isBreak_of_alphanum {c : Char} (h : c.isAlphanum = true) : isBreak c = false := by
  simp [isBreak, ne_of_alphanum h (d := '\n') rfl, ne_of_alphanum h (d := '\r') rfl,
    ne_of_alphanum h (d := '\u0085') rfl, ne_of_alphanum h (d := '\u2028') rfl, ne_of_alphanum h (d := '\u2029') rfl]

theorem fits_word {cs : List Char} (h : ∀ c ∈ cs, c.isAlphanum = true) : Plain.Fits cs where
  printable c hc := isPrintable_of_alphanum (h c hc)
  line c hc := isBreak_of_alphanum (h c hc)
  front heq := absurd (h ' ' (List.mem_of_mem_head? heq)) (by decide)
  back heq := absurd (h ' ' (List.mem_of_mem_getLast? heq)) (by decide)
  inner := holdsIndicator_word h true

theorem startsWithIndicator_word {cs : List Char} (h : ∀ c ∈ cs, c.isAlphanum = true) : startsWithIndicator cs = false := by
  cases cs with
  | nil => rfl
  | cons c cs =>
    have hc := h c (by simp)
    have hnone : ("#,[]\x7b\x7d&*!|>'\"%@`".toList.all (!·.isAlphanum)) = true := by decide
    have hout : "#,[]\x7b\x7d&*!|>'\"%@`".toList.contains c = false := Bool.eq_false_iff.mpr fun hmem => by
      have hout := List.all_eq_true.mp hnone c (List.contains_iff_mem.mp hmem)
      simp [hc] at hout
    have hdash : ('-' == c) = false := beq_eq_false_iff_ne.mpr (ne_of_alphanum hc rfl).symm
    have hdot : ('.' == c) = false := beq_eq_false_iff_ne.mpr (ne_of_alphanum hc rfl).symm
    have hdash' : (c == '-') = false := beq_eq_false_iff_ne.mpr (ne_of_alphanum hc rfl)
    have hask : (c == '?') = false := beq_eq_false_iff_ne.mpr (ne_of_alphanum hc rfl)
    have hcolon : (c == ':') = false := beq_eq_false_iff_ne.mpr (ne_of_alphanum hc rfl)
    have hrule : Text.dropText? "---".toList (c :: cs) = none := by
      show (if '-' == c then _ else none) = none
      rw [hdash]
      rfl
    have hdots : Text.dropText? "...".toList (c :: cs) = none := by
      show (if '.' == c then _ else none) = none
      rw [hdot]
      rfl
    simp only [startsWithIndicator, hout, hask, hcolon, hdash', hrule, hdots, Bool.or_self, Bool.false_and,
      Option.isSome_none]

namespace Lexer

theorem scans_word {cs : List Char} (hne : cs ≠ []) (h : ∀ c ∈ cs, c.isAlphanum = true) :
    Scans (cs ++ ['\n']) (String.ofList cs) .plain :=
  scans_plain (fits_word h) hne (startsWithIndicator_word h)

open Grammar (Content entryTokens entryEvents StandsEntry)

/-! Entries with their texts. -/

/-- What stands in a text between the colon of a key and the next line. -/
structure Lines (cs : List Char) (c : Content) : Prop where
  endsWord : Cursor.endsWord cs = true
  allowed : ∀ d ∈ cs, isAllowed d = true
  few : c.events.length ≤ cs.length
  finds {l : Lexer} {tail : List Char} {ks : List Token.Kind} (h : AtValue l (cs ++ tail) ks) (ht : Solid tail) :
    ∃ l', Relation.ReflTransGen Finds l l' ∧ AtLine l' tail [0] (ks ++ c.tokens)

theorem lines_scalar {cs : List Char} {s : String} {f : Form} (h : Scans cs s f) : Lines (' ' :: cs) (.scalar s f) where
  endsWord := rfl
  allowed d hd := by
    rcases List.mem_cons.mp hd with rfl | hd
    · rfl
    · exact h.allowed d hd
  few := by simp [Content.events]
  finds hl ht := finds_value hl h ht

theorem lines_brackets : Lines " []\n".toList (.sequence []) where
  endsWord := rfl
  allowed := List.all_eq_true.mp (by decide)
  few := by decide
  finds hl ht := finds_brackets hl ht

/-- The lines of a sequence in the column of its key. -/
def itemText (s : String) : List Char := '-' :: ' ' :: scalarLine s

theorem finds_items (items : List (String × Form)) (h : ∀ x ∈ items, Scans (scalarLine x.1) x.1 x.2) {l : Lexer}
    {tail : List Char} {ks : List Token.Kind} (hl : AtLine l ((items.map (·.1)).flatMap itemText ++ tail) [0] ks)
    (ht : Solid tail) :
    ∃ l', Relation.ReflTransGen Finds l l' ∧ AtLine l' tail [0] (ks ++ Grammar.itemTokens items) := by
  induction items generalizing l ks with
  | nil => exact ⟨l, .refl, by simpa [Grammar.itemTokens] using hl⟩
  | cons x items ih =>
    have hsolid : Solid ((items.map (·.1)).flatMap itemText ++ tail) := by
      cases items with
      | nil => exact ht
      | cons y items => rfl
    rw [List.map_cons, List.flatMap_cons, List.append_assoc] at hl
    obtain ⟨l₁, hlead, h₁⟩ := finds_item hl (h x (by simp)) hsolid
    obtain ⟨l', hrest, h'⟩ := ih (fun y hy => h y (List.mem_cons_of_mem _ hy)) h₁
    exact ⟨l', hlead.trans hrest, by simpa [Grammar.itemTokens] using h'⟩

theorem lines_items {x : String × Form} {items : List (String × Form)}
    (h : ∀ y ∈ x :: items, Scans (scalarLine y.1) y.1 y.2) :
    Lines ('\n' :: ((x :: items).map (·.1)).flatMap itemText) (.sequence (x :: items)) where
  endsWord := rfl
  allowed d hd := by
    rcases List.mem_cons.mp hd with rfl | hd
    · rfl
    · obtain ⟨s, hs, hd⟩ := List.mem_flatMap.mp hd
      obtain ⟨y, hy, rfl⟩ := List.mem_map.mp hs
      simp only [itemText, List.mem_cons] at hd
      rcases hd with rfl | rfl | hd
      · rfl
      · rfl
      · exact (h y hy).allowed d hd
  few := by
    have hlength (items : List (String × Form)) : 2 * items.length ≤ ((items.map (·.1)).flatMap itemText).length := by
      induction items with
      | nil => exact Nat.zero_le _
      | cons y items ih =>
        simp only [List.map_cons, List.flatMap_cons, List.length_append, List.length_cons, itemText]
        omega
    have := hlength (x :: items)
    simp only [Content.events, Grammar.itemEvents, List.length_cons, List.length_append, List.length_map, List.length_nil] at this ⊢
    omega
  finds {l tail ks} hl ht := by
    obtain ⟨m, q, -, rfl, rfl⟩ := hl
    exact finds_items (x :: items) h (atLine_feed (by rfl) (by simp)) ht

/-- An entry of a mapping with its text. -/
structure Member where
  name : String
  /-- What stands behind the colon, with the end of the last line. -/
  text : List Char
  content : Content
  isKey : IsKey name.toList
  lines : Lines text content

namespace Member

def all (e : Member) : List Char := e.name.toList ++ ':' :: e.text

def pair (e : Member) : String × Content := (e.name, e.content)

theorem solid (e : Member) : Solid e.all := by
  obtain ⟨hne, -, hlower⟩ := e.isKey
  obtain ⟨c, cs, hname⟩ := List.exists_cons_of_ne_nil hne
  obtain ⟨hblank, hmark, -⟩ := key_char (hlower c (by simp [hname]))
  have hhash : c ≠ '#' := fun heq => hmark (heq ▸ by decide)
  have hzero : c ≠ '\ufeff' := by
    rintro rfl
    exact absurd (hlower '\ufeff' (by simp [hname])) (by decide)
  simp [all, hname, Solid, hblank, hhash, hzero]

theorem allowed (e : Member) : ∀ d ∈ e.all, isAllowed d = true := by
  intro d hd
  simp only [all, List.mem_append, List.mem_cons] at hd
  rcases hd with hd | rfl | hd
  · rcases e.isKey.2.2 d hd with h | rfl
    · exact isAllowed_of_printable (isPrintable_of_alphanum (show (d.isUpper || d.isLower || d.isDigit) = true by simp [h]))
    · rfl
  · rfl
  · exact e.lines.allowed d hd

theorem few (e : Member) : (entryEvents e.pair).length ≤ e.all.length := by
  have := e.lines.few
  simp only [entryEvents, pair, all, List.length_cons, List.length_append]
  omega

theorem finds (e : Member) {l : Lexer} {tail : List Char} {i : List Nat} {ks : List Token.Kind}
    (h : AtLine l (e.all ++ tail) i ks) (hi : Flat i) (ht : Solid tail) :
    ∃ l', Relation.ReflTransGen Finds l l' ∧
      AtLine l' tail [0] (ks ++ ((if i = [] then [Token.Kind.blockMapping] else []) ++ entryTokens e.pair)) := by
  have hword : Cursor.endsWord (e.text ++ tail) = true := by
    have hends := e.lines.endsWord
    cases htext : e.text with
    | nil =>
      have hpos : 0 < e.content.events.length := by cases e.content <;> simp [Content.events]
      have hfew := e.lines.few
      rw [htext] at hfew
      exact absurd hfew (Nat.not_le.mpr hpos)
    | cons c cs => rwa [htext] at hends
  rw [all, List.append_assoc] at h
  obtain ⟨l₁, hkey, h₁⟩ := finds_key h hi e.isKey hword
  obtain ⟨l', hvalue, h'⟩ := e.lines.finds h₁ ht
  refine ⟨l', hkey.trans hvalue, ?_⟩
  simpa [entryTokens, pair] using h'

end Member

theorem solid_members (es : List Member) : Solid (es.flatMap Member.all) := by
  cases es with
  | nil => rfl
  | cons e es =>
    have hne : e.all ≠ [] := by simp [Member.all]
    exact e.solid.append hne _

theorem finds_members (es : List Member) {l : Lexer} {ks : List Token.Kind} (h : AtLine l (es.flatMap Member.all) [0] ks) :
    ∃ l', Relation.ReflTransGen Finds l l' ∧ AtLine l' [] [0] (ks ++ (es.map Member.pair).flatMap entryTokens) := by
  induction es generalizing l ks with
  | nil => exact ⟨l, .refl, by simpa using h⟩
  | cons e es ih =>
    obtain ⟨l₁, hentry, h₁⟩ := e.finds h (.inr rfl) (solid_members es)
    obtain ⟨l', hrest, h'⟩ := ih h₁
    exact ⟨l', hentry.trans hrest, by simpa using h'⟩

theorem firstControl?_allowed {cs : List Char} (h : ∀ c ∈ cs, isAllowed c = true) (n : Nat) : firstControl? n cs = none := by
  induction cs generalizing n with
  | nil => rfl
  | cons c cs ih =>
    rw [firstControl?, if_pos (h c (by simp))]
    exact ih (fun d hd => h d (List.mem_cons_of_mem _ hd)) _

/-- The text of a mapping is the document of that mapping. -/
theorem ofString_text {s : String} {e : Member} {es : List Member} (hs : s.toList = (e :: es).flatMap Member.all) :
    ∃ ps m, (Document.ofString s).root = .mapping none ps m ∧
      List.Forall₂ StandsEntry ((e :: es).map Member.pair) ps ∧ (Document.ofString s).fault = none ∧
      (Document.ofString s).followed = false := by
  have hallowed : firstControl? 0 s.toList = none := by
    refine firstControl?_allowed (fun c hc => ?_) 0
    rw [hs] at hc
    obtain ⟨x, -, hc⟩ := List.mem_flatMap.mp hc
    exact x.allowed c hc
  have hstart : AtLine (.ofString s) (e.all ++ es.flatMap Member.all) [] [] := by
    have := atLine_start (s := s) (hs ▸ solid_members (e :: es))
    rwa [hs] at this
  obtain ⟨l₁, hfirst, h₁⟩ := e.finds hstart (.inl rfl) (solid_members es)
  obtain ⟨l', hrest, h'⟩ := finds_members es h₁
  have hshows := shows_of_lines (hfirst.trans hrest) h'
  have hfew (es : List Member) : ((es.map Member.pair).flatMap entryEvents).length ≤ (es.flatMap Member.all).length := by
    induction es with
    | nil => exact Nat.le_refl _
    | cons e es ih =>
      have := e.few
      simp only [List.map_cons, List.flatMap_cons, List.length_append]
      omega
  have hlength : (e :: es).flatMap Member.all = s.toList := hs.symm
  refine Document.ofString_entries hallowed e.pair (es.map Member.pair) (by simpa using hshows) ?_
  have := hfew (e :: es)
  rw [hlength, String.length_toList] at this
  simp only [List.map_cons, maxEvents] at this ⊢
  omega

end Lexer

end ApiStencil.Yaml

namespace ApiStencil.Config.YamlText
open Yaml Yaml.Reading Yaml.Lexer Yaml.Grammar

/-! Nodes that stand for settings. -/

theorem run_bind {α β : Type} {x : Reading α} {f : α → Reading β} {d : Document} {n n' : Nat} {a : α}
    (h : (x.run d).run n = .ok (a, n')) : ((x >>= f).run d).run n = ((f a).run d).run n' := by
  show ((x.run d).run n >>= fun p => ((f p.1).run d).run p.2) = _
  rw [h]
  rfl

/-- What stands behind a key is read as a setting, wherever it stands. -/
def Means (c : Content) (s : Setting) : Prop :=
  ∀ (n : Node), c.Stands n → ∀ (p : Place) (outer : Mark) (d : Document) (count : Nat),
    (((setting s.kind n p outer).run d).run count) = .ok (s, count)

theorem text_said {n : Node} {s : String} {f : Form} (h : n.Says s f) (wanted : String) (p : Place) (d : Document)
    (count : Nat) : ((Reading.text n wanted p).run d).run count = .ok (s, count) := by
  obtain ⟨m, rfl⟩ := h
  rfl

theorem means_text (s : String) (f : Form) : Means (.scalar s f) (.text s) := by
  rintro n ⟨m, rfl⟩ p outer d count
  rfl

theorem means_flag (b : Bool) : Means (.scalar (if b then "true" else "false") .plain) (.flag b) := by
  rintro n ⟨m, rfl⟩ p outer d count
  cases b <;> rfl

theorem means_none : Means (.scalar "null" .plain) (.count none) := by
  rintro n ⟨m, rfl⟩ p outer d count
  rfl

theorem mapM_said {items : List (String × Form)} {ns : List Node} (h : List.Forall₂ (fun x n => Node.Says n x.1 x.2) items ns)
    (p : Place) (i : Nat) (d : Document) (count : Nat) :
    (((ns.zipIdx i).mapM fun x => Reading.text x.1 "a string" (.item p x.2)).run d).run count =
      .ok (items.map (·.1), count) := by
  induction h generalizing i with
  | nil => rfl
  | cons hsays _ ih =>
    rw [List.zipIdx_cons, List.mapM_cons]
    exact (run_bind (text_said hsays ..)).trans ((run_bind (ih (i + 1))).trans rfl)

theorem means_texts (items : List (String × Form)) : Means (.sequence items) (.texts (items.map (·.1))) := by
  rintro n ⟨ns, m, rfl, h⟩ p outer d count
  have htexts : (((texts (.sequence none ns m) p).run d).run count) = .ok (items.map (·.1), count) := mapM_said h p 0 d count
  exact (run_bind htexts).trans rfl

/-- The digits of a number stand for the number. -/
theorem int?_digits {n : Nat} (hn : n ≤ maxCount) : int? (Nat.toDigits 10 n) = some (n : Int) := by
  have hbound : n < Nat.pow 2 128 := Nat.lt_of_le_of_lt hn (by decide)
  have hdigits : ∀ c ∈ Nat.toDigits 10 n, c.isDigit = true := fun c => Decimal.isDigit_of_mem_toDigits
  obtain ⟨c, cs, hcs, hc⟩ := Decimal.toDigits_cons n
  have hbase := Decimal.ofBase?_ten n
  have hfront := Decimal.toDigits_front n
  rw [hcs] at hdigits hbase hfront ⊢
  have hminus : c ≠ '-' := Decimal.ne_of_isDigit hc rfl
  have hplus : c ≠ '+' := Decimal.ne_of_isDigit hc rfl
  have hunsigned : unsigned (c :: cs) = (false, c :: cs) := by
    unfold unsigned
    split <;> simp_all
  have hnumber : digitsButNoNumber (c :: cs) = false := by
    rcases hfront with h | ⟨d, ds, h, hd⟩
    · rw [h]
      rfl
    · obtain ⟨rfl, rfl⟩ := List.cons.inj h
      unfold digitsButNoNumber
      simp only
      split <;> simp_all
  have hmagnitude : magnitude? (c :: cs) = some n := by
    have hletter (d : Char) (hd : d.isDigit = false) (rest : List Char) : cs ≠ d :: rest := fun h => by
      simp [hdigits d (by simp [h])] at hd
    unfold magnitude?
    split
    next rest h => exact absurd (List.cons.inj h).2 (hletter 'x' rfl rest)
    next rest h => exact absurd (List.cons.inj h).2 (hletter 'o' rfl rest)
    next rest h => exact absurd (List.cons.inj h).2 (hletter 'b' rfl rest)
    next => exact hbase
  simp only [int?, hunsigned, hnumber, hmagnitude, Bool.false_eq_true, if_false, Option.bind_some, if_pos hbound]

def digitText (n : Nat) : String := String.ofList (Nat.toDigits 10 n)

theorem resolve_digits {n : Nat} (hn : n ≤ maxCount) : resolve (digitText n) = .int n := by
  obtain ⟨c, cs, hcs, hc⟩ := Decimal.toDigits_cons n
  have hlist : (digitText n).toList = c :: cs := by rw [digitText, String.toList_ofList, hcs]
  have hempty : (digitText n).isEmpty = false := by
    refine Bool.eq_false_iff.mpr fun h => ?_
    have : digitText n = "" := String.isEmpty_iff.mp h
    simp [this] at hlist
  have hout (ts : List String) (ht : ∀ t ∈ ts, t.toList.head?.all (!·.isDigit)) : ts.contains (digitText n) = false := by
    refine Bool.eq_false_iff.mpr fun h => ?_
    have := ht _ (List.contains_iff_mem.mp h)
    simp [hlist, hc] at this
  have hint : int? (digitText n).toList = some (n : Int) := by
    rw [digitText, String.toList_ofList]
    exact int?_digits hn
  rw [resolve, hempty, hout _ (by decide), hout _ (by decide), hout _ (by decide), hint]
  rfl

theorem natural?_digits {n : Nat} (hn : n ≤ maxCount) : natural? (digitText n) = some n := by
  obtain ⟨c, cs, hcs, hc⟩ := Decimal.toDigits_cons n
  have hminus : c ≠ '-' := Decimal.ne_of_isDigit hc rfl
  have hint := int?_digits hn
  have hle : (n : Int) ≤ Number.maxNat := Int.ofNat_le.mpr hn
  rw [natural?, digitText, String.toList_ofList, hint, hcs]
  split
  next heq => exact absurd (List.cons.inj heq).1 hminus
  next m heq _ =>
    obtain rfl := Option.some.inj heq
    simp [hle]
  next heq _ => cases heq

theorem means_some {n : Nat} (hn : n ≤ maxCount) : Means (.scalar (digitText n) .plain) (.count (some n)) := by
  rintro _ ⟨m, rfl⟩ p outer d count
  have hnothing : ((isNothing ⟨digitText n, .plain, none⟩ outer).run d).run count = .ok (false, count) := by
    simp only [isNothing, resolve_digits hn]
    rfl
  have hcount : (((YamlText.count (.scalar ⟨digitText n, .plain, none⟩ m) p outer).run d).run count) = .ok (some n, count) := by
    refine (run_bind (a := Node.scalar ⟨digitText n, .plain, none⟩ m) rfl).trans ?_
    refine (run_bind hnothing).trans ?_
    simp only [natural?_digits hn]
    rfl
  exact (run_bind hcount).trans rfl

/-! Lines of settings. -/

theorem toList_closeLine_append {a b : String} (h : b.toList ≠ [] ∨ a.toList.getLast?.any isBreak = false) :
    (closeLine (a ++ b)).toList = a.toList ++ (closeLine b).toList := by
  rw [toList_closeLine, toList_closeLine, String.toList_append, List.getLast?_append]
  cases hb : b.toList.getLast? with
  | none =>
    have hnil : b.toList = [] := List.getLast?_eq_none_iff.mp hb
    have ha : a.toList.getLast?.any isBreak = false := h.resolve_left (absurd hnil)
    simp [hnil, ha]
  | some c =>
    cases hc : isBreak c <;> simp [hc]

/-- What is written of a setting behind the colon of its key. -/
def valueText : Setting → List Char
  | .text s => ' ' :: scalarLine s
  | .flag b => ' ' :: ((if b then "true" else "false").toList ++ ['\n'])
  | .texts [] => " []\n".toList
  | .texts (x :: xs) => '\n' :: (x :: xs).flatMap itemText
  | .count none => " null\n".toList
  | .count (some n) => ' ' :: (Nat.toDigits 10 n ++ ['\n'])

theorem blockItems_ne_nil (x : String) (xs : List String) : (blockItems 0 ((x :: xs).map .string)).toList ≠ [] := by
  cases xs with
  | nil =>
    have : blockItems 0 ([x].map .string) = "- " ++ scalarText 2 false x := rfl
    rw [this, String.toList_append]
    simp
  | cons y xs =>
    have : blockItems 0 ((x :: y :: xs).map .string) =
        closeLine ("- " ++ scalarText 2 false x) ++ "" ++ blockItems 0 ((y :: xs).map .string) := rfl
    rw [this, String.toList_append, String.toList_append, toList_closeLine_append (.inr rfl)]
    simp

theorem toList_blockItems (x : String) (xs : List String) :
    (closeLine (blockItems 0 ((x :: xs).map .string))).toList = (x :: xs).flatMap itemText := by
  induction xs generalizing x with
  | nil =>
    have : blockItems 0 ([x].map .string) = "- " ++ scalarText 2 false x := rfl
    rw [this, toList_closeLine_append (.inr rfl)]
    simp [itemText, scalarLine]
  | cons y xs ih =>
    have hblock : blockItems 0 ((x :: y :: xs).map .string) =
        closeLine ("- " ++ scalarText 2 false x) ++ "" ++ blockItems 0 ((y :: xs).map .string) := rfl
    rw [hblock, String.append_empty, toList_closeLine_append (.inl (blockItems_ne_nil y xs)), ih, toList_closeLine_append (.inr rfl)]
    simp [itemText, scalarLine]

/-- A key with its value, as it is written but for the end of the line. -/
def fieldText (name : String) (v : Json) : String :=
  let inner := match v with
    | .array _ => 0
    | _ => 2
  name ++ ":" ++ (if isBlock v then "\n" ++ spaces inner else " ") ++ block inner v

/-- What is written for a number, or for none. -/
def countText : Option Nat → String
  | none => "null"
  | some n => toString (n : Int)

theorem toList_countSome (n : Nat) : (countText (some n)).toList = Nat.toDigits 10 n := by
  show (Nat.repr n).toList = _
  rw [Nat.repr, String.toList_ofList]

theorem countText_word (n : Option Nat) :
    (countText n).toList ≠ [] ∧ ∀ c ∈ (countText n).toList, c.isAlphanum = true := by
  cases n with
  | none => exact ⟨by decide, List.all_eq_true.mp (by decide)⟩
  | some n =>
    rw [toList_countSome]
    exact ⟨Decimal.toDigits_ne_nil n, fun c hc => by simp [Char.isAlphanum, Decimal.isDigit_of_mem_toDigits hc]⟩

theorem last_word {cs : List Char} (h : ∀ c ∈ cs, c.isAlphanum = true) : cs.getLast?.any isBreak = false := by
  cases hlast : cs.getLast? with
  | none => rfl
  | some c => exact isBreak_of_alphanum (h c (List.mem_of_mem_getLast? hlast))

theorem toList_fieldText (name : String) (s : Setting) :
    (closeLine (fieldText name s.json)).toList = name.toList ++ ':' :: valueText s := by
  have hline (v : String) : (closeLine (name ++ ":" ++ " " ++ v)).toList = name.toList ++ ':' :: ' ' :: (closeLine v).toList := by
    rw [toList_closeLine_append (.inr (by simp [isBreak]))]
    simp
  cases s with
  | text x => exact hline _
  | flag b => cases b <;> exact hline _
  | texts xs =>
    cases xs with
    | nil => exact hline _
    | cons x xs =>
      have hblock : fieldText name (Setting.texts (x :: xs)).json =
          name ++ ":" ++ ("\n" ++ spaces 0) ++ blockItems 0 ((x :: xs).map .string) := rfl
      rw [hblock, toList_closeLine_append (.inl (blockItems_ne_nil x xs)), toList_blockItems]
      simp [valueText, spaces]
  | count n =>
    have hclose : (closeLine (countText n)).toList = (countText n).toList ++ ['\n'] := by
      rw [toList_closeLine, last_word (countText_word n).2]
      rfl
    cases n with
    | none => exact hline _
    | some n =>
      refine (hline (countText (some n))).trans ?_
      rw [hclose, toList_countSome]
      rfl

/-- The line of the last setting needs no closing. -/
theorem toList_lastField (name : String) (n : Option Nat) :
    (fieldText name (Setting.count n).json ++ "\n").toList = name.toList ++ ':' :: valueText (.count n) := by
  rw [← toList_fieldText, toList_closeLine]
  have hfield : fieldText name (Setting.count n).json = name ++ ":" ++ " " ++ countText n := by cases n <;> rfl
  have hlast : (fieldText name (Setting.count n).json).toList.getLast?.any isBreak = false := by
    obtain ⟨hne, hword⟩ := countText_word n
    obtain ⟨init, c, hcs⟩ := (List.eq_nil_or_concat _).resolve_left hne
    have hc := isBreak_of_alphanum (hword c (by simp [hcs]))
    rw [hfield, String.toList_append, hcs, List.concat_eq_append, ← List.append_assoc, List.getLast?_concat]
    exact hc
  rw [hlast]
  simp

/-- Names of settings are written as they are, and read as keys. -/
theorem key_written (k : Key) : isSimpleKey k.name = true ∧ scalarText 2 true k.name = k.name ∧ IsKey k.name.toList := by
  cases k <;> decide

section Fields

variable {name : String} (hsimple : isSimpleKey name = true) (htext : scalarText 2 true name = name) (v : Json)

include hsimple htext

theorem field_eq : (if isSimpleKey name then scalarText 2 true name ++ ":"
      else closeLine ("? " ++ scalarText 2 false name) ++ spaces 0 ++ ":") ++
    (if isSimpleKey name && isBlock v then
        "\n" ++ spaces (if isSimpleKey name then (match v with | .array _ => 0 | _ => 2) else 2) else " ") ++
    block (if isSimpleKey name then (match v with | .array _ => 0 | _ => 2) else 2) v = fieldText name v := by
  simp only [hsimple, htext, if_true, Bool.true_and]
  rfl

theorem blockFields_cons (f : String × Json) (rest : List (String × Json)) :
    blockFields 0 ((name, v) :: f :: rest) = closeLine (fieldText name v) ++ blockFields 0 (f :: rest) := by
  have hspaces (s : String) : s ++ spaces 0 = s := String.append_empty
  rw [← field_eq hsimple htext v, ← hspaces (closeLine _)]
  cases v <;> rfl

theorem blockFields_last : blockFields 0 [(name, v)] = fieldText name v := by
  rw [← field_eq hsimple htext v]
  cases v <;> rfl

end Fields

/-- The line or lines of a setting. -/
def settingText (e : Key × Setting) : List Char := e.1.name.toList ++ ':' :: valueText e.2

def fieldOf (e : Key × Setting) : String × Json := (e.1.name, e.2.json)

theorem toList_blockFields (es : Settings) (k : Key) (n : Option Nat) :
    (blockFields 0 ((es ++ [(k, Setting.count n)]).map fieldOf) ++ "\n").toList = (es ++ [(k, Setting.count n)]).flatMap settingText := by
  induction es with
  | nil =>
    obtain ⟨hsimple, htext, -⟩ := key_written k
    show (blockFields 0 [(k.name, (Setting.count n).json)] ++ "\n").toList = _
    rw [blockFields_last hsimple htext, toList_lastField]
    simp [settingText]
  | cons e es ih =>
    obtain ⟨hsimple, htext, -⟩ := key_written e.1
    obtain ⟨f, rest, hrest⟩ : ∃ f rest, (es ++ [(k, Setting.count n)]).map fieldOf = f :: rest :=
      List.exists_cons_of_ne_nil (by simp)
    rw [hrest] at ih
    rw [List.cons_append, List.map_cons, hrest]
    show (blockFields 0 ((e.1.name, e.2.json) :: f :: rest) ++ "\n").toList = _
    rw [blockFields_cons hsimple htext, String.append_assoc, String.toList_append, toList_fieldText, ih]
    rfl

theorem toList_render (c : Config) : (render c).toList = c.settings.flatMap settingText := by
  have hfields : c.fields = c.settings.map fieldOf := rfl
  have hsettings : c.settings = [(.documentPath, .text c.documentPath), (.templateDir, .text c.templateDir),
      (.outputDir, .text c.outputDir), (.verify, .flag c.verify), (.templateExtension, .text c.templateExtension),
      (.scriptExtensions, .texts c.scriptExtensions)] ++ [(.scriptTimeoutMs, Setting.count c.scriptTimeoutMs)] := rfl
  rw [render, hfields, hsettings]
  exact toList_blockFields _ _ _

/-- An entry is that of a setting. -/
def IsMember (e : Member) (x : Key × Setting) : Prop := e.all = settingText x ∧ e.name = x.1.name ∧ Means e.content x.2

theorem exists_forms (xs : List String) :
    ∃ items : List (String × Form), items.map (·.1) = xs ∧ ∀ y ∈ items, Scans (scalarLine y.1) y.1 y.2 := by
  induction xs with
  | nil => exact ⟨[], rfl, nofun⟩
  | cons x xs ih =>
    obtain ⟨items, rfl, hitems⟩ := ih
    obtain ⟨f, hf⟩ := scans_line x
    exact ⟨(x, f) :: items, rfl, List.forall_mem_cons.mpr ⟨hf, hitems⟩⟩

theorem exists_content (s : Setting) (h : s.Within maxCount) : ∃ c, Lines (valueText s) c ∧ Means c s := by
  cases s with
  | text x =>
    obtain ⟨f, hf⟩ := scans_line x
    exact ⟨_, lines_scalar hf, means_text x f⟩
  | flag b =>
    have hword : ∀ c ∈ (if b then "true" else "false").toList, c.isAlphanum = true := by
      cases b <;> exact List.all_eq_true.mp (by decide)
    have hscan := scans_word (by cases b <;> decide) hword
    rw [String.ofList_toList] at hscan
    exact ⟨_, lines_scalar hscan, means_flag b⟩
  | texts xs =>
    cases xs with
    | nil => exact ⟨_, lines_brackets, means_texts []⟩
    | cons x xs =>
      obtain ⟨items, hitems, hscan⟩ := exists_forms (x :: xs)
      cases items with
      | nil => cases hitems
      | cons y items =>
        have hlines := lines_items hscan
        have hmeans := means_texts (y :: items)
        rw [hitems] at hlines hmeans
        exact ⟨_, hlines, hmeans⟩
  | count n =>
    have hscan := scans_word (countText_word n).1 (countText_word n).2
    rw [String.ofList_toList] at hscan
    cases n with
    | none => exact ⟨_, lines_scalar hscan, means_none⟩
    | some n =>
      have htext : countText (some n) = digitText n := by rw [digitText, ← toList_countSome, String.ofList_toList]
      rw [htext, digitText, String.toList_ofList] at hscan
      exact ⟨_, lines_scalar hscan, means_some h⟩

theorem exists_members {ss : Settings} (h : ∀ x ∈ ss, x.2.Within maxCount) : ∃ es, List.Forall₂ IsMember es ss := by
  induction ss with
  | nil => exact ⟨[], .nil⟩
  | cons x ss ih =>
    obtain ⟨c, hlines, hmeans⟩ := exists_content x.2 (h x (by simp))
    obtain ⟨es, hes⟩ := ih fun y hy => h y (List.mem_cons_of_mem _ hy)
    exact ⟨⟨x.1.name, valueText x.2, c, (key_written x.1).2.2, hlines⟩ :: es, .cons ⟨rfl, rfl, hmeans⟩ hes⟩

theorem flatMap_members {es : List Member} {ss : Settings} (h : List.Forall₂ IsMember es ss) :
    es.flatMap Member.all = ss.flatMap settingText := by
  induction h with
  | nil => rfl
  | cons hx _ ih => rw [List.flatMap_cons, List.flatMap_cons, hx.1, ih]

/-- Entries are read one after another, each as its setting. -/
theorem entries_read (outer : Mark) (d : Document) (n : Nat) {es : List Member} {ss : Settings}
    (h : List.Forall₂ IsMember es ss) {ps : List (Node × Node)} (hps : List.Forall₂ StandsEntry (es.map Member.pair) ps)
    (hkind : ∀ x ∈ ss, x.2.kind = x.1.kind) (acc : Settings) (hnodup : ((ss.reverse ++ acc).map (·.1)).Nodup) :
    ((entries outer acc ps).run d).run n = .ok (ss.reverse ++ acc, n) := by
  induction h generalizing acc ps with
  | nil =>
    cases hps
    rfl
  | @cons e x es ss hx _ ih =>
    obtain ⟨-, hname, hmeans⟩ := hx
    cases hps with
    | @cons _ p _ ps hp hps =>
      obtain ⟨k, v⟩ := p
      have hkey : Key.ofName? e.pair.1 = some x.1 := (congrArg Key.ofName? hname).trans (Key.ofName?_name x.1)
      have hlookup : acc.lookup x.1 = none := by
        have hsuffix : x :: acc <:+ (x :: ss).reverse ++ acc := ⟨ss.reverse, by simp⟩
        have hfresh := List.nodup_cons.mp (hnodup.sublist (hsuffix.map (·.1)).sublist)
        refine List.lookup_eq_none_iff.mpr fun y hy => bne_iff_ne.mpr fun heq => ?_
        exact hfresh.1 (List.mem_map.mpr ⟨y, hy, heq.symm⟩)
      have hset := hmeans v hp.2 (under .root k) outer d n
      rw [hkind x (by simp)] at hset
      rw [entries]
      refine (run_bind (text_said hp.1 _ _ d n)).trans ?_
      simp only [hkey, hlookup, Option.isSome_none, Bool.false_eq_true, if_false]
      refine (run_bind hset).trans ?_
      have := ih hps (fun y hy => hkind y (List.mem_cons_of_mem _ hy)) (x :: acc) (by simpa using hnodup)
      simpa using this

/-- The text of a configuration is read as the configuration, if the timeout is a number of 64 bits. -/
theorem parse_render {c : Config} (h : ∀ n ∈ c.scriptTimeoutMs, n ≤ maxCount) : parse (render c) = .ok c := by
  obtain ⟨es, hes⟩ := exists_members (settings_within h)
  have htext := (toList_render c).trans (flatMap_members hes).symm
  cases es with
  | nil => cases hes
  | cons e es =>
    obtain ⟨ps, m, hroot, hstands, hfault, hfollowed⟩ := ofString_text htext
    have hentries := entries_read m (Document.ofString (render c)) 0 hes hstands settings_kind []
      (by simpa using List.nodup_reverse.mpr (keys_nodup (c := c)))
    rw [List.append_nil] at hentries
    have hconfig : ((config (Document.ofString (render c)).root).run (Document.ofString (render c))).run 0 = .ok (c, 0) := by
      rw [hroot]
      refine (run_bind (a := Node.mapping none ps m) rfl).trans ?_
      refine (run_bind hentries).trans ?_
      rw [finish, ofSettings_reverse]
      rfl
    rw [parse, readWith, hconfig]
    simp only [hfault, hfollowed]
    rfl

end ApiStencil.Config.YamlText
