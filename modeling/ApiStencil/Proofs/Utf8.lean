import ApiStencil.Text.Utf8
/-!
Bytes that read as a text are the bytes of that text, and the bytes of a text read as it. A dot or a slash among
them parts what is read before it from what is read behind it.
-/
set_option autoImplicit false

namespace ApiStencil
namespace Utf8

/-- The bytes of a character, by how many follow the leading one. -/
inductive Item : UInt8 → Bytes → Char → Prop where
  | one (lead : UInt8) : lead < 0x80 → Item lead [] (Char.ofNat lead.toNat)
  | two (lead b : UInt8) : ¬lead < 0x80 → (lead < 0xc2 || 0xf4 < lead) = false → lead < 0xe0 → isTail b = true →
    Item lead [b] (Char.ofNat (lead.toNat % 32 * 64 + low6 b))
  | three (lead b c : UInt8) : ¬lead < 0x80 → (lead < 0xc2 || 0xf4 < lead) = false → ¬lead < 0xe0 →
    ((secondBounds lead).1 ≤ b && b ≤ (secondBounds lead).2) = true → isTail c = true → lead < 0xf0 →
    Item lead [b, c] (Char.ofNat (lead.toNat % 16 * 4096 + low6 b * 64 + low6 c))
  | four (lead b c d : UInt8) : ¬lead < 0x80 → (lead < 0xc2 || 0xf4 < lead) = false → ¬lead < 0xe0 →
    ((secondBounds lead).1 ≤ b && b ≤ (secondBounds lead).2) = true → isTail c = true → ¬lead < 0xf0 →
    isTail d = true →
    Item lead [b, c, d] (Char.ofNat (lead.toNat % 8 * 262144 + low6 b * 4096 + low6 c * 64 + low6 d))

theorem Item.read {lead : UInt8} {tails : Bytes} {c : Char} (h : Item lead tails c) (more : Bytes) :
    item lead (tails ++ more) = (some c, tails.length) := by
  unfold item
  cases h with
  | one hl =>
    rw [if_pos hl]
    rfl
  | two b hl hr ht hb =>
    rw [if_neg hl, if_neg (by simp [hr]), if_pos ht]
    exact if_pos hb
  | three b d hl hr ht hs hd hf =>
    rw [if_neg hl, if_neg (by simp [hr]), if_neg ht]
    simp only [List.cons_append, List.nil_append, hs, hd, hf, Bool.not_true, if_true]
    rfl
  | four b d e hl hr ht hs hd hf he =>
    rw [if_neg hl, if_neg (by simp [hr]), if_neg ht]
    simp only [List.cons_append, List.nil_append, hs, hd, if_neg hf, he, Bool.not_true]
    rfl

/-- What a character of more than two bytes has been read from. -/
theorem item_inv_long {lead : UInt8} {rest : Bytes} {c : Char} {n : Nat} (hl : ¬lead < 0x80)
    (hr : (lead < 0xc2 || 0xf4 < lead) = false) (ht : ¬lead < 0xe0) (h : item lead rest = (some c, n)) :
    Item lead (rest.take n) c ∧ n ≤ rest.length := by
  unfold item at h
  rw [if_neg hl, if_neg (by simp [hr]), if_neg ht] at h
  match rest with
  | [] => simp at h
  | [b] =>
    simp only at h
    split at h <;> simp at h
  | b :: d :: rest =>
    simp only at h
    split at h
    · simp at h
    rename_i hs
    simp only [Bool.not_eq_true, Bool.not_eq_false'] at hs
    split at h
    · simp at h
    rename_i hd
    simp only [Bool.not_eq_true, Bool.not_eq_false'] at hd
    split at h
    · rename_i hf
      cases h
      exact ⟨.three lead b d hl hr ht hs hd hf, by simp⟩
    rename_i hf
    cases rest with
    | nil => simp at h
    | cons e rest =>
      simp only at h
      split at h
      · simp at h
      rename_i he
      simp only [Bool.not_eq_true, Bool.not_eq_false'] at he
      cases h
      exact ⟨.four lead b d e hl hr ht hs hd hf he, by simp⟩

theorem item_inv {lead : UInt8} {rest : Bytes} {c : Char} {n : Nat} (h : item lead rest = (some c, n)) :
    Item lead (rest.take n) c ∧ n ≤ rest.length := by
  by_cases hl : lead < 0x80
  · rw [item.eq_def, if_pos hl] at h
    cases h
    exact ⟨.one lead hl, Nat.zero_le _⟩
  cases hr : (lead < 0xc2 || 0xf4 < lead) with
  | true =>
    rw [item.eq_def, if_neg hl, if_pos hr] at h
    simp at h
  | false =>
    by_cases ht : lead < 0xe0
    · rw [item.eq_def, if_neg hl, if_neg (by simp [hr]), if_pos ht] at h
      cases rest with
      | nil => simp at h
      | cons b rest =>
        simp only at h
        split at h
        · rename_i hb
          cases h
          exact ⟨.two lead b hl hr ht hb, by simp⟩
        · simp at h
    · exact item_inv_long hl hr ht h

theorem toNat_ofNat {n : Nat} (h : n.isValidChar) : (Char.ofNat n).val.toNat = n := by
  rw [Char.ofNat, dif_pos h]
  rfl

theorem eq_ofNat {b : UInt8} {n : Nat} (h : b.toNat = n % 256) : UInt8.ofNat n = b := by
  apply UInt8.toNat_inj.mp
  rw [UInt8.toNat_ofNat', h]

theorem isTail_bounds {b : UInt8} (h : isTail b = true) : 128 ≤ b.toNat ∧ b.toNat ≤ 191 := by
  simpa [isTail, UInt8.le_iff_toNat_le] using h

/-- Bounds of a second byte keep the character out of the shorter forms, the surrogates and beyond the last one. -/
theorem secondBounds_tail {lead b : UInt8} (h : ((secondBounds lead).1 ≤ b && b ≤ (secondBounds lead).2) = true) :
    128 ≤ b.toNat ∧ b.toNat ≤ 191 ∧ (lead.toNat = 0xe0 → 0xa0 ≤ b.toNat) ∧ (lead.toNat = 0xed → b.toNat ≤ 0x9f) ∧
      (lead.toNat = 0xf0 → 0x90 ≤ b.toNat) ∧ (lead.toNat = 0xf4 → b.toNat ≤ 0x8f) := by
  unfold secondBounds at h
  simp only [beq_iff_eq, ← UInt8.toNat_inj] at h
  split at h
  · simp_all [UInt8.le_iff_toNat_le]
    omega
  · split at h
    · simp_all [UInt8.le_iff_toNat_le]
      omega
    · split at h
      · simp_all [UInt8.le_iff_toNat_le]
        omega
      · split at h
        · simp_all [UInt8.le_iff_toNat_le]
          omega
        · simp_all [UInt8.le_iff_toNat_le]

theorem lead_bounds {lead : UInt8} (h : (lead < 0xc2 || 0xf4 < lead) = false) :
    194 ≤ lead.toNat ∧ lead.toNat ≤ 244 := by
  simpa [UInt8.lt_iff_toNat_lt] using h

theorem Item.tails_large {lead : UInt8} {tails : Bytes} {c : Char} (h : Item lead tails c) :
    ∀ b ∈ tails, 128 ≤ b.toNat := by
  cases h with
  | one hl => simp
  | two b hl hr ht hb => simpa using (isTail_bounds hb).1
  | three b d hl hr ht hs hd hf => simpa using ⟨(secondBounds_tail hs).1, (isTail_bounds hd).1⟩
  | four b d e hl hr ht hs hd hf he =>
    simpa using ⟨(secondBounds_tail hs).1, (isTail_bounds hd).1, (isTail_bounds he).1⟩

theorem Item.encode {lead : UInt8} {tails : Bytes} {c : Char} (h : Item lead tails c) :
    String.utf8EncodeChar c = lead :: tails := by
  have hlead := lead.toNat_lt
  cases h with
  | one hl =>
    have hl : lead.toNat < 128 := UInt8.lt_iff_toNat_lt.mp hl
    have hv : lead.toNat.isValidChar := .inl (by omega)
    simp only [String.utf8EncodeChar, toNat_ofNat hv]
    rw [if_pos (by omega), eq_ofNat (b := lead) (by omega)]
  | two b hl hr ht hb =>
    obtain ⟨hr, -⟩ := lead_bounds hr
    obtain ⟨lo, hi⟩ := isTail_bounds hb
    have ht : lead.toNat < 224 := UInt8.lt_iff_toNat_lt.mp ht
    simp only [low6]
    generalize hn : lead.toNat % 32 * 64 + b.toNat % 64 = n
    have hv : n.isValidChar := .inl (by omega)
    simp only [String.utf8EncodeChar, toNat_ofNat hv]
    rw [if_neg (by omega), if_pos (by omega), eq_ofNat (b := lead) (by omega), eq_ofNat (b := b) (by omega)]
  | three b d hl hr ht hs hd hf =>
    obtain ⟨lo, hi, h0, hd', -, -⟩ := secondBounds_tail hs
    obtain ⟨dlo, dhi⟩ := isTail_bounds hd
    have ht : 224 ≤ lead.toNat := by simpa [UInt8.lt_iff_toNat_lt] using ht
    have hf : lead.toNat < 240 := UInt8.lt_iff_toNat_lt.mp hf
    simp only [low6]
    generalize hn : lead.toNat % 16 * 4096 + b.toNat % 64 * 64 + d.toNat % 64 = n
    have hv : n.isValidChar := by
      simp only [Nat.isValidChar]
      omega
    simp only [String.utf8EncodeChar, toNat_ofNat hv]
    rw [if_neg (by omega), if_neg (by omega), if_pos (by omega), eq_ofNat (b := lead) (by omega),
      eq_ofNat (b := b) (by omega), eq_ofNat (b := d) (by omega)]
  | four b d e hl hr ht hs hd hf he =>
    obtain ⟨-, hr⟩ := lead_bounds hr
    obtain ⟨lo, hi, -, -, h0, h4⟩ := secondBounds_tail hs
    obtain ⟨dlo, dhi⟩ := isTail_bounds hd
    obtain ⟨elo, ehi⟩ := isTail_bounds he
    have hf : 240 ≤ lead.toNat := by simpa [UInt8.lt_iff_toNat_lt] using hf
    simp only [low6]
    generalize hn : lead.toNat % 8 * 262144 + b.toNat % 64 * 4096 + d.toNat % 64 * 64 + e.toNat % 64 = n
    have hv : n.isValidChar := by
      simp only [Nat.isValidChar]
      omega
    simp only [String.utf8EncodeChar, toNat_ofNat hv]
    rw [if_neg (by omega), if_neg (by omega), if_neg (by omega), eq_ofNat (b := lead) (by omega),
      eq_ofNat (b := b) (by omega), eq_ofNat (b := d) (by omega), eq_ofNat (b := e) (by omega)]

/-- What the items read so far are the characters of. -/
def texts (items : List (Option Char × Bytes)) : Option (List Char) :=
  items.mapM fun (item : Option Char × Bytes) => item.1

theorem encode_of_go (fuel : Nat) (bs : Bytes) (cs : List Char) (hf : bs.length ≤ fuel)
    (h : texts (scan.go fuel bs) = some cs) : cs.flatMap String.utf8EncodeChar = bs := by
  induction fuel generalizing bs cs with
  | zero =>
    obtain rfl := List.length_eq_zero_iff.mp (Nat.le_zero.mp hf)
    simp only [scan.go, texts, List.mapM_nil, pure, Option.some.injEq] at h
    subst h
    rfl
  | succ fuel ih =>
    cases bs with
    | nil =>
      simp only [scan.go, texts, List.mapM_nil, pure, Option.some.injEq] at h
      subst h
      rfl
    | cons b rest =>
      rcases hi : item b rest with ⟨c, n⟩
      simp only [scan.go, hi, texts, List.mapM_cons, Option.bind_eq_bind, Option.bind_eq_some_iff, pure,
        Option.some.injEq] at h
      obtain ⟨c, rfl, cs, hcs, rfl⟩ := h
      obtain ⟨hitem, hn⟩ := item_inv hi
      rw [List.flatMap_cons, hitem.encode, ih (rest.drop n) cs (by simp at hf ⊢; omega) hcs]
      simp

theorem encode_of_decode? {bs : Bytes} {s : String} (h : decode? bs = some s) : encode s = bs := by
  rw [decode?, Option.map_eq_some_iff] at h
  obtain ⟨cs, hcs, rfl⟩ := h
  rw [encode, String.toList_ofList]
  exact encode_of_go bs.length bs cs (Nat.le_refl _) hcs

theorem map_getD_of_texts {items : List (Option Char × Bytes)} {cs : List Char} (h : texts items = some cs) :
    items.map (fun item => item.1.getD '\ufffd') = cs := by
  induction items generalizing cs with
  | nil =>
    simp only [texts, List.mapM_nil, pure, Option.some.injEq] at h
    subst h
    rfl
  | cons item items ih =>
    simp only [texts, List.mapM_cons, Option.bind_eq_bind, Option.bind_eq_some_iff, pure, Option.some.injEq] at h
    obtain ⟨c, hc, cs, hcs, rfl⟩ := h
    rw [List.map_cons, hc, ih hcs]
    rfl

theorem lossy_of_decode? {bs : Bytes} {s : String} (h : decode? bs = some s) : lossy bs = s := by
  rw [decode?, Option.map_eq_some_iff] at h
  obtain ⟨cs, hcs, rfl⟩ := h
  rw [lossy, map_getD_of_texts hcs]

theorem go_of_le (f g : Nat) (bs : Bytes) (hf : bs.length ≤ f) (hg : bs.length ≤ g) :
    scan.go f bs = scan.go g bs := by
  induction f generalizing g bs with
  | zero =>
    obtain rfl := List.length_eq_zero_iff.mp (Nat.le_zero.mp hf)
    cases g <;> rfl
  | succ f ih =>
    cases bs with
    | nil => cases g <;> rfl
    | cons b rest =>
      cases g with
      | zero => simp at hg
      | succ g =>
        simp only [scan.go]
        rw [ih g (rest.drop (item b rest).2) (by simp at hf ⊢; omega) (by simp at hg ⊢; omega)]

theorem secondBounds_of_tail {lead b : UInt8} (h : 128 ≤ b.toNat ∧ b.toNat ≤ 191)
    (hlead : (lead.toNat = 0xe0 → 0xa0 ≤ b.toNat) ∧ (lead.toNat = 0xed → b.toNat ≤ 0x9f) ∧
      (lead.toNat = 0xf0 → 0x90 ≤ b.toNat) ∧ (lead.toNat = 0xf4 → b.toNat ≤ 0x8f)) :
    ((secondBounds lead).1 ≤ b && b ≤ (secondBounds lead).2) = true := by
  unfold secondBounds
  simp only [beq_iff_eq, ← UInt8.toNat_inj]
  split
  · simp_all [UInt8.le_iff_toNat_le]
  · split
    · simp_all [UInt8.le_iff_toNat_le]
    · split
      · simp_all [UInt8.le_iff_toNat_le]
      · split
        · simp_all [UInt8.le_iff_toNat_le]
        · simp_all [UInt8.le_iff_toNat_le]

theorem toNat_ofNat_lt {n : Nat} (h : n < 256) : (UInt8.ofNat n).toNat = n := by
  rw [UInt8.toNat_ofNat', Nat.mod_eq_of_lt h]

theorem isTail_ofNat (n : Nat) : isTail (.ofNat (128 + n % 64)) = true := by
  have hb : (UInt8.ofNat (128 + n % 64)).toNat = 128 + n % 64 := toNat_ofNat_lt (by omega)
  simp only [isTail, UInt8.le_iff_toNat_le, hb, Bool.and_eq_true, decide_eq_true_eq]
  exact ⟨Nat.le_add_right _ _, Nat.lt_succ_iff.mp (show 128 + n % 64 < 192 by omega)⟩

theorem lt_of {b m : UInt8} {n : Nat} (k : Nat) (h : n < k) (hk : k ≤ m.toNat) (hb : b.toNat = n) : b < m := by
  rw [UInt8.lt_iff_toNat_lt, hb]
  exact Nat.lt_of_lt_of_le h hk

theorem not_lt_of {b m : UInt8} {n : Nat} (k : Nat) (h : k ≤ n) (hk : m.toNat ≤ k) (hb : b.toNat = n) : ¬b < m := by
  rw [UInt8.lt_iff_toNat_lt, hb]
  exact Nat.not_lt.mpr (Nat.le_trans hk h)

theorem lead_of_bounds {lead : UInt8} {n : Nat} (hb : lead.toNat = n) (h : 194 ≤ n ∧ n ≤ 244) :
    (lead < 0xc2 || 0xf4 < lead) = false := by
  simpa [UInt8.lt_iff_toNat_lt, hb] using h

/-- Every character has an item: its number in digits of six bits. -/
theorem item_ofNat {n : Nat} (hv : n.isValidChar) : ∃ lead tails, Item lead tails (Char.ofNat n) := by
  have hmax : n < 1114112 := by
    rcases hv with h | h <;> omega
  have hlow (m : Nat) : low6 (.ofNat (128 + m % 64)) = m % 64 := by
    rw [low6, toNat_ofNat_lt (by omega)]
    omega
  -- one case for each length, by how many digits the number has
  rcases Nat.lt_or_ge n 0x80 with h1 | h1
  · have hlead : (UInt8.ofNat n).toNat = n := toNat_ofNat_lt (by omega)
    have hitem := Item.one (.ofNat n) (by rw [UInt8.lt_iff_toNat_lt, hlead]; exact h1)
    rw [hlead] at hitem
    exact ⟨_, _, hitem⟩
  · rcases Nat.lt_or_ge n 0x800 with h2 | h2
    · have hlead : (UInt8.ofNat (192 + n / 64)).toNat = 192 + n / 64 := toNat_ofNat_lt (by omega)
      have hitem := Item.two (.ofNat (192 + n / 64)) (.ofNat (128 + n % 64)) (not_lt_of 128 (by omega) (by decide) hlead)
        (lead_of_bounds hlead (by omega)) (lt_of 224 (by omega) (by decide) hlead) (isTail_ofNat n)
      rw [hlead, hlow, show (192 + n / 64) % 32 * 64 + n % 64 = n by omega] at hitem
      exact ⟨_, _, hitem⟩
    · have hsecond (m : Nat) : (UInt8.ofNat (128 + m % 64)).toNat = 128 + m % 64 := toNat_ofNat_lt (by omega)
      rcases Nat.lt_or_ge n 0x10000 with h3 | h3
      · have hlead : (UInt8.ofNat (224 + n / 4096)).toNat = 224 + n / 4096 := toNat_ofNat_lt (by omega)
        have hitem := Item.three (.ofNat (224 + n / 4096)) (.ofNat (128 + n / 64 % 64)) (.ofNat (128 + n % 64))
          (not_lt_of 128 (by omega) (by decide) hlead) (lead_of_bounds hlead (by omega))
          (not_lt_of 224 (by omega) (by decide) hlead)
          (secondBounds_of_tail (by rw [hsecond]; omega)
            (by rw [hsecond, hlead]; simp only [Nat.isValidChar] at hv; omega))
          (isTail_ofNat n) (lt_of 240 (by omega) (by decide) hlead)
        rw [hlead, hlow, hlow, show (224 + n / 4096) % 16 * 4096 + n / 64 % 64 * 64 + n % 64 = n by omega] at hitem
        exact ⟨_, _, hitem⟩
      · have hlead : (UInt8.ofNat (240 + n / 262144)).toNat = 240 + n / 262144 := toNat_ofNat_lt (by omega)
        have hitem := Item.four (.ofNat (240 + n / 262144)) (.ofNat (128 + n / 4096 % 64)) (.ofNat (128 + n / 64 % 64))
          (.ofNat (128 + n % 64)) (not_lt_of 128 (by omega) (by decide) hlead) (lead_of_bounds hlead (by omega))
          (not_lt_of 224 (by omega) (by decide) hlead)
          (secondBounds_of_tail (by rw [hsecond]; omega) (by rw [hsecond, hlead]; omega))
          (isTail_ofNat _) (not_lt_of 240 (by omega) (by decide) hlead) (isTail_ofNat n)
        rw [hlead, hlow, hlow, hlow,
          show (240 + n / 262144) % 8 * 262144 + n / 4096 % 64 * 4096 + n / 64 % 64 * 64 + n % 64 = n by omega] at hitem
        exact ⟨_, _, hitem⟩

theorem decode?_encode (s : String) : decode? (encode s) = some s := by
  have hall (cs : List Char) (f : Nat) (hf : (cs.flatMap String.utf8EncodeChar).length ≤ f) :
      texts (scan.go f (cs.flatMap String.utf8EncodeChar)) = some cs := by
    induction cs generalizing f with
    | nil => cases f <;> rfl
    | cons c cs ih =>
      obtain ⟨lead, tails, hitem⟩ := item_ofNat (n := c.toNat) c.valid
      rw [Char.ofNat_toNat] at hitem
      rw [List.flatMap_cons, hitem.encode] at hf ⊢
      cases f with
      | zero => simp at hf
      | succ f =>
        rw [List.cons_append, scan.go, hitem.read]
        simp only [texts, List.mapM_cons, List.drop_left, Option.bind_eq_bind, Option.bind_some]
        rw [← texts.eq_1, ih f (by simp only [List.cons_append, List.length_cons, List.length_append] at hf; omega)]
        rfl
  rw [decode?, Option.map_eq_some_iff]
  exact ⟨s.toList, hall s.toList _ (Nat.le_refl _), String.ofList_toList⟩

theorem encode_inj {s t : String} (h : encode s = encode t) : s = t := by
  have hs := decode?_encode s
  rw [h, decode?_encode] at hs
  exact (Option.some.inj hs).symm

section Mark

-- A byte below 128 is a character of its own wherever it stands.
variable {mark : UInt8} (hmark : mark < 0x80)

include hmark

/-- An item does not reach over the mark. -/
theorem item_mark {lead : UInt8} {before behind : Bytes} {c : Char} {n : Nat}
    (h : item lead (before ++ mark :: behind) = (some c, n)) : n ≤ before.length ∧ item lead before = (some c, n) := by
  obtain ⟨hitem, hn⟩ := item_inv h
  have hle : n ≤ before.length := by
    rcases Nat.lt_or_ge before.length n with hlt | hge
    · have hmem : mark ∈ (before ++ mark :: behind).take n := by
        rw [List.take_append, List.mem_append]
        right
        obtain ⟨k, hk⟩ : ∃ k, n - before.length = k + 1 := ⟨n - before.length - 1, by omega⟩
        simp [hk]
      have hlarge := hitem.tails_large mark hmem
      have hsmall : mark.toNat < 128 := hmark
      omega
    · exact hge
  refine ⟨hle, ?_⟩
  rw [List.take_append_of_le_length hle] at hitem
  have := hitem.read (before.drop n)
  rwa [List.take_append_drop, List.length_take, Nat.min_eq_left hle] at this

theorem texts_mark (f : Nat) (before behind : Bytes) (cs : List Char) (hf : (before ++ mark :: behind).length ≤ f)
    (h : texts (scan.go f (before ++ mark :: behind)) = some cs) :
    ∃ ts us, texts (scan before) = some ts ∧ texts (scan behind) = some us ∧ cs = ts ++ Char.ofNat mark.toNat :: us := by
  induction f generalizing before cs with
  | zero => simp at hf
  | succ f ih =>
    cases before with
    | nil =>
      have hi : item mark behind = (some (Char.ofNat mark.toNat), 0) := (Item.one mark hmark).read behind
      simp only [List.nil_append, scan.go, hi, texts, List.mapM_cons, Option.bind_eq_bind, Option.bind_eq_some_iff,
        pure, Option.some.injEq] at h
      obtain ⟨c, rfl, us, hus, rfl⟩ := h
      refine ⟨[], us, rfl, ?_, rfl⟩
      rw [scan, go_of_le behind.length f behind (Nat.le_refl _) (by simp at hf; omega)]
      exact hus
    | cons b before =>
      rcases hi : item b (before ++ mark :: behind) with ⟨c, n⟩
      simp only [List.cons_append, scan.go, hi, texts, List.mapM_cons, Option.bind_eq_bind, Option.bind_eq_some_iff,
        pure, Option.some.injEq] at h
      obtain ⟨c, rfl, cs, hcs, rfl⟩ := h
      obtain ⟨hn, hi'⟩ := item_mark hmark hi
      rw [List.drop_append_of_le_length hn] at hcs
      obtain ⟨ts, us, hts, hus, rfl⟩ := ih (before.drop n) cs (by simp at hf ⊢; omega) hcs
      refine ⟨c :: ts, us, ?_, hus, rfl⟩
      rw [scan, List.length_cons, scan.go, hi']
      simp only [texts, List.mapM_cons, Option.bind_eq_bind, pure, Option.bind_some]
      rw [go_of_le before.length (before.drop n).length (before.drop n) (by simp) (Nat.le_refl _)]
      have hts' : List.mapM (fun (item : Option Char × Bytes) => item.1) (scan.go (before.drop n).length (before.drop n)) =
          some ts := hts
      rw [hts']
      rfl

/-- Texts are read on both sides of the mark on their own. -/
theorem decode?_mark {before behind : Bytes} {s : String} (h : decode? (before ++ mark :: behind) = some s) :
    ∃ t u, decode? before = some t ∧ decode? behind = some u ∧ s.toList = t.toList ++ Char.ofNat mark.toNat :: u.toList := by
  rw [decode?, Option.map_eq_some_iff] at h
  obtain ⟨cs, hcs, rfl⟩ := h
  obtain ⟨ts, us, hts, hus, rfl⟩ := texts_mark hmark _ before behind cs (Nat.le_refl _) hcs
  refine ⟨String.ofList ts, String.ofList us, ?_, ?_, by simp⟩
  · rw [decode?, Option.map_eq_some_iff]
    exact ⟨ts, hts, rfl⟩
  · rw [decode?, Option.map_eq_some_iff]
    exact ⟨us, hus, rfl⟩

end Mark

end Utf8
end ApiStencil
