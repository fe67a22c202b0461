import ApiStencil.Script.Value
/-!
Places of an array as keys: the text of a number that is a place is read back as that number, and no other
text is.
-/
set_option autoImplicit false

namespace ApiStencil.Script
namespace Units

theorem toList_ofChars (cs : List Char) (h : ∀ c ∈ cs, c.toNat < 0x10000) (u : Units) :
    (cs.foldl (fun u c => pushPoint u c.toNat) u).toList = u.toList ++ cs.map (·.toNat.toUInt16) := by
  induction cs generalizing u with
  | nil => simp
  | cons c cs ih =>
    have hc : c.toNat < 0x10000 := h c (by simp)
    rw [List.foldl_cons, ih (fun d hd => h d (by simp [hd]))]
    simp [pushPoint, hc]

end Units

namespace Key

theorem digit_toNat {c : Char} (h : c.isDigit = true) : 48 ≤ c.toNat ∧ c.toNat ≤ 57 := by
  simp only [Char.isDigit, Bool.and_eq_true, decide_eq_true_eq] at h
  exact ⟨UInt32.le_iff_toNat_le.mp h.1, UInt32.le_iff_toNat_le.mp h.2⟩

/-- The units of the digits of a number. -/
def digitUnits (n : Nat) : List UInt16 := (Nat.toDigits 10 n).map (·.toNat.toUInt16)

theorem toList_ofIndex (n : Nat) : (txt (toString n)).toList = digitUnits n := by
  have h : ∀ c ∈ Nat.toDigits 10 n, c.toNat < 0x10000 := by
    intro c hc
    have := (digit_toNat (Nat.isDigit_of_mem_toDigits (by decide) (by decide) hc)).2
    omega
  have := Units.toList_ofChars (Nat.toDigits 10 n) h #[]
  simpa [txt, Units.ofString, Units.ofChars, digitUnits, Nat.toString_eq_ofList_toDigits] using this

theorem foldl_digits (cs : List Char) (h : ∀ c ∈ cs, c.isDigit = true) (a : Nat) :
    (cs.map (·.toNat.toUInt16)).foldl
        (fun acc u => acc.bind fun n => if 48 ≤ u && u ≤ 57 then some (10 * n + (u.toNat - 48)) else none) (some a) =
      some (Nat.ofDigitChars 10 cs a) := by
  induction cs generalizing a with
  | nil => rfl
  | cons c cs ih =>
    obtain ⟨lo, hi⟩ := digit_toNat (h c (by simp))
    have hu : c.toNat.toUInt16.toNat = c.toNat := by
      simp only [UInt16.toNat_ofNat']
      omega
    have hin : (decide (48 ≤ c.toNat.toUInt16) && decide (c.toNat.toUInt16 ≤ 57)) = true := by
      simp only [Bool.and_eq_true, decide_eq_true_eq, UInt16.le_iff_toNat_le, hu]
      exact ⟨lo, hi⟩
    simp only [List.map_cons, List.foldl_cons, Option.bind_some, hin, if_true, hu]
    rw [ih (fun d hd => h d (by simp [hd])), Nat.ofDigitChars_cons]
    rfl

/-- No number but zero begins with a zero. -/
theorem toDigits_head (n : Nat) (h : 0 < n) : ∃ c cs, Nat.toDigits 10 n = c :: cs ∧ c ≠ '0' := by
  induction n using Nat.strongRecOn with
  | ind n ih =>
    by_cases hn : n < 10
    · have hd : ∀ m < 10, 0 < m → m.digitChar ≠ '0' := by decide
      exact ⟨n.digitChar, [], Nat.toDigits_of_lt_base hn, hd n hn h⟩
    · obtain ⟨c, cs, hc, hne⟩ := ih (n / 10) (by omega) (by omega)
      rw [Nat.toDigits_of_base_le (by decide) (by omega), hc]
      exact ⟨c, _, List.cons_append, hne⟩

theorem digits?_digitUnits (n : Nat) : digits? (digitUnits n) = some n := by
  by_cases hz : n = 0
  · subst hz
    rfl
  · obtain ⟨c, cs, hcs, hne⟩ := toDigits_head n (by omega)
    have hd : ∀ d ∈ Nat.toDigits 10 n, d.isDigit = true :=
      fun d hd => Nat.isDigit_of_mem_toDigits (by decide) (by decide) hd
    obtain ⟨lo, hi⟩ := digit_toNat (hd c (by simp [hcs]))
    have hu : c.toNat.toUInt16 ≠ 48 := by
      intro h
      have h48 : c.toNat = 48 := by
        have := congrArg UInt16.toNat h
        simp only [UInt16.toNat_ofNat'] at this
        have e : (48 : UInt16).toNat = 48 := rfl
        omega
      exact hne (Char.toNat_inj.mp h48)
    have key := foldl_digits (Nat.toDigits 10 n) hd 0
    rw [Nat.ofDigitChars_ten_toDigits] at key
    rw [digitUnits]
    rw [hcs, List.map_cons] at key ⊢
    unfold digits?
    split
    · simp at *
    · simp_all
    · simp_all
    · exact key

theorem index?_ofIndex (n : Nat) (h : n < 4294967295) : (Key.ofIndex n).index? = some n := by
  have hl : (txt (toString n)).size ≤ 10 := by
    rw [← Array.length_toList, toList_ofIndex, digitUnits, List.length_map,
      Nat.length_toDigits_le_iff (by decide) (by decide)]
    omega
  simp only [ofIndex, index?, toList_ofIndex, digits?_digitUnits]
  rw [if_neg (by omega), if_pos h]

theorem foldl_none (us : List UInt16) :
    us.foldl (fun acc u => acc.bind fun n => if 48 ≤ u && u ≤ 57 then some (10 * n + (u.toNat - 48)) else none) none =
      none := by
  induction us with
  | nil => rfl
  | cons u us ih => exact ih

theorem digit_eq {u : UInt16} (h : 48 ≤ u.toNat ∧ u.toNat ≤ 57) :
    digitUnits (u.toNat - 48) = [u] := by
  have hc : (Nat.digitChar (u.toNat - 48)).toNat = u.toNat := by
    rw [Nat.toNat_digitChar_of_lt_ten (by omega)]
    omega
  rw [digitUnits, Nat.toDigits_of_lt_base (by omega), List.map_singleton, hc]
  simp

theorem digitUnits_append {a d : Nat} (ha : 0 < a) (hd : d < 10) :
    digitUnits a ++ digitUnits d = digitUnits (10 * a + d) := by
  rw [digitUnits, digitUnits, digitUnits, ← List.map_append, Nat.toDigits_append_toDigits (by decide) ha hd]

/-- One more digit of a number. -/
theorem digit_of_foldl {u : UInt16} {us : List UInt16} {a n : Nat}
    (h : (u :: us).foldl
      (fun acc u => acc.bind fun n => if 48 ≤ u && u ≤ 57 then some (10 * n + (u.toNat - 48)) else none) (some a) =
        some n) :
    (48 ≤ u.toNat ∧ u.toNat ≤ 57) ∧
      us.foldl (fun acc u => acc.bind fun n => if 48 ≤ u && u ≤ 57 then some (10 * n + (u.toNat - 48)) else none)
        (some (10 * a + (u.toNat - 48))) = some n := by
  rw [List.foldl_cons, Option.bind_some] at h
  split at h
  · rename_i hu
    exact ⟨by simpa [UInt16.le_iff_toNat_le] using hu, h⟩
  · rw [foldl_none] at h
    exact absurd h (by simp)

theorem digitUnits_of_foldl (us : List UInt16) (a n : Nat) (ha : 0 < a)
    (h : us.foldl (fun acc u => acc.bind fun n => if 48 ≤ u && u ≤ 57 then some (10 * n + (u.toNat - 48)) else none)
      (some a) = some n) : digitUnits a ++ us = digitUnits n := by
  induction us generalizing a with
  | nil =>
    obtain rfl : a = n := by simpa using h
    simp
  | cons u us ih =>
    obtain ⟨hu, h⟩ := digit_of_foldl h
    rw [← ih _ (by omega) h, ← digitUnits_append ha (by omega), digit_eq hu, List.append_assoc, List.singleton_append]

/-- Only the text of a number is read as that number. -/
theorem eq_digitUnits {us : List UInt16} {n : Nat} (h : digits? us = some n) : us = digitUnits n := by
  unfold digits? at h
  split at h
  · exact absurd h (by simp)
  · obtain rfl : 0 = n := by simpa using h
    rfl
  · exact absurd h (by simp)
  · rename_i hnil hzero hlead
    cases us with
    | nil => exact (hnil rfl).elim
    | cons u us =>
      obtain ⟨hu, h⟩ := digit_of_foldl h
      have hne : u.toNat ≠ 48 := by
        intro he
        have : u = 48 := UInt16.toNat_inj.mp he
        exact hlead us (by rw [this])
      rw [← digitUnits_of_foldl us _ n (by omega) h, Nat.mul_zero, Nat.zero_add, digit_eq hu, List.singleton_append]

theorem eq_ofIndex {k : Key} {n : Nat} (h : k.index? = some n) : k = .ofIndex n := by
  cases k with
  | symbol id => exact absurd h (by simp [index?])
  | name u =>
    simp only [index?] at h
    split at h
    · exact absurd h (by simp)
    · split at h
      · rename_i m hm
        split at h
        · obtain rfl : m = n := by simpa using h
          rw [ofIndex]
          congr 1
          apply Array.toList_inj.mp
          rw [toList_ofIndex, eq_digitUnits hm]
        · exact absurd h (by simp)
      · exact absurd h (by simp)

theorem index?_lt {k : Key} {n : Nat} (h : k.index? = some n) : n < 4294967295 := by
  cases k with
  | symbol id => exact absurd h (by simp [index?])
  | name u =>
    simp only [index?] at h
    grind

theorem ofIndex_inj {m n : Nat} (h : Key.ofIndex m = .ofIndex n) : m = n := by
  have hu : (txt (toString m)).toList = (txt (toString n)).toList := by
    injection h with h
    rw [h]
  have hd := digits?_digitUnits m
  rw [← toList_ofIndex, hu, toList_ofIndex, digits?_digitUnits] at hd
  exact (Option.some.inj hd).symm

/-- A number that no array has a place for is a name like any other. -/
theorem index?_ofIndex_of_le {n : Nat} (h : 4294967295 ≤ n) : (Key.ofIndex n).index? = none := by
  cases hi : (Key.ofIndex n).index? with
  | none => rfl
  | some m =>
    have := index?_lt hi
    have := ofIndex_inj (eq_ofIndex hi)
    omega

/-- No number is the name of a length. -/
theorem ofIndex_ne_length (n : Nat) : Key.ofIndex n ≠ .ofString "length" := by
  intro he
  have hd := digits?_digitUnits n
  have hu : (txt (toString n)).toList = (txt "length").toList := by
    injection he with he
    rw [he]
  rw [← toList_ofIndex, hu, show digits? (txt "length").toList = none from rfl] at hd
  exact absurd hd (by simp)

end Key
end ApiStencil.Script
