import ApiStencil.Proofs.Utf8
import ApiStencil.Script.Marshal
/-!
Texts as code units and back. A text has no surrogate without its partner, so its characters are found again;
and since only NUL has a unit that is zero, a name is cut where its text is. What has no surrogate without its partner is
the units of some text.
-/
set_option autoImplicit false

namespace ApiStencil.Script
namespace Units

/-- The units of a character. -/
def ofChar (c : Char) : List UInt16 := (pushPoint #[] c.toNat).toList

theorem toList_pushPoint (u : Units) (n : Nat) : (pushPoint u n).toList = u.toList ++ (pushPoint #[] n).toList := by
  unfold pushPoint
  split <;> simp

theorem toList_foldl (cs : List Char) (u : Units) :
    (cs.foldl (fun u c => pushPoint u c.toNat) u).toList = u.toList ++ cs.flatMap ofChar := by
  induction cs generalizing u with
  | nil => simp
  | cons c cs ih =>
    rw [List.foldl_cons, ih, toList_pushPoint, List.flatMap_cons, List.append_assoc]
    rfl

theorem toList_txt (s : String) : (txt s).toList = s.toList.flatMap ofChar := by
  have := toList_foldl s.toList #[]
  simpa [txt, ofString, ofChars] using this

theorem toNat_bounds (c : Char) : c.toNat < 0xd800 ∨ 0xdfff < c.toNat ∧ c.toNat < 0x110000 := c.valid

theorem pointsOf_cons {a : UInt16} (h : isHigh a = false) (us : List UInt16) :
    pointsOf (a :: us) = a.toNat :: pointsOf us := by
  cases us with
  | nil => rfl
  | cons b us => simp [pointsOf, h]

theorem pointsOf_pair {a b : UInt16} (ha : isHigh a = true) (hb : isLow b = true) (us : List UInt16) :
    pointsOf (a :: b :: us) = joined a b :: pointsOf us := by
  simp [pointsOf, ha, hb]

theorem isHigh_iff (u : UInt16) : isHigh u = true ↔ 0xd800 ≤ u.toNat ∧ u.toNat < 0xdc00 := by
  simp [isHigh, UInt16.le_iff_toNat_le, UInt16.lt_iff_toNat_lt]

theorem isLow_iff (u : UInt16) : isLow u = true ↔ 0xdc00 ≤ u.toNat ∧ u.toNat < 0xe000 := by
  simp [isLow, UInt16.le_iff_toNat_le, UInt16.lt_iff_toNat_lt]

theorem pointsOf_ofChar (c : Char) (us : List UInt16) : pointsOf (ofChar c ++ us) = c.toNat :: pointsOf us := by
  have hbounds := toNat_bounds c
  unfold ofChar pushPoint
  split
  · have hn : c.toNat.toUInt16.toNat = c.toNat := by
      simp only [UInt16.toNat_ofNat']
      omega
    have hhigh : isHigh c.toNat.toUInt16 = false := by
      rw [Bool.eq_false_iff, ne_eq, isHigh_iff, hn]
      omega
    simpa [hn] using pointsOf_cons hhigh us
  · -- a pair of surrogates
    have ha : (0xd800 + (c.toNat - 0x10000) / 0x400).toUInt16.toNat = 0xd800 + (c.toNat - 0x10000) / 0x400 := by
      simp only [UInt16.toNat_ofNat']
      omega
    have hb : (0xdc00 + (c.toNat - 0x10000) % 0x400).toUInt16.toNat = 0xdc00 + (c.toNat - 0x10000) % 0x400 := by
      simp only [UInt16.toNat_ofNat']
      omega
    have hhigh : isHigh (0xd800 + (c.toNat - 0x10000) / 0x400).toUInt16 = true := by
      rw [isHigh_iff, ha]
      omega
    have hlow : isLow (0xdc00 + (c.toNat - 0x10000) % 0x400).toUInt16 = true := by
      rw [isLow_iff, hb]
      omega
    dsimp only
    generalize (0xd800 + (c.toNat - 0x10000) / 0x400).toUInt16 = a at ha hhigh ⊢
    generalize (0xdc00 + (c.toNat - 0x10000) % 0x400).toUInt16 = b at hb hlow ⊢
    have hjoined : joined a b = c.toNat := by
      show 0x10000 + (a.toNat - 0xd800) * 0x400 + (b.toNat - 0xdc00) = c.toNat
      omega
    exact hjoined ▸ pointsOf_pair hhigh hlow us

theorem pointsOf_flatMap (cs : List Char) : pointsOf (cs.flatMap ofChar) = cs.map (·.toNat) := by
  induction cs with
  | nil => rfl
  | cons c cs ih => rw [List.flatMap_cons, pointsOf_ofChar, ih, List.map_cons]

theorem charOf_toNat (c : Char) : charOf c.toNat = c := by
  rw [charOf, if_pos (show c.toNat.isValidChar from c.valid), Char.ofNat_toNat]

/-- A text is read back from its units. -/
@[simp]
theorem toText_txt (s : String) : (txt s).toText = s := by
  rw [toText, points, toList_txt, pointsOf_flatMap, List.map_map]
  have hid : charOf ∘ (·.toNat) = id := funext charOf_toNat
  rw [hid, List.map_id, String.ofList_toList]

theorem txt_injective {s s' : String} (h : txt s = txt s') : s = s' := by
  rw [← toText_txt s, h, toText_txt]

/-- A name up to its first NUL. -/
def cut (name : String) : String := String.ofList (name.toList.takeWhile (· != '\x00'))

theorem takeWhile_ofChar {c : Char} (h : c ≠ '\x00') (us : List UInt16) :
    (ofChar c ++ us).takeWhile (· != 0) = ofChar c ++ us.takeWhile (· != 0) := by
  refine List.takeWhile_append_of_pos fun u hu => ?_
  have hbounds := toNat_bounds c
  have hc : c.toNat ≠ 0 := fun h0 => h (Char.toNat_inj.mp h0)
  have hne : u.toNat ≠ 0 := by
    unfold ofChar pushPoint at hu
    split at hu
    · obtain rfl : u = c.toNat.toUInt16 := by simpa using hu
      simp only [UInt16.toNat_ofNat']
      omega
    · have hu : u = (0xd800 + (c.toNat - 0x10000) / 0x400).toUInt16 ∨
          u = (0xdc00 + (c.toNat - 0x10000) % 0x400).toUInt16 := by simpa using hu
      rcases hu with rfl | rfl <;> simp only [UInt16.toNat_ofNat'] <;> omega
  exact bne_iff_ne.mpr fun h0 => hne (by rw [h0]; rfl)

theorem takeWhile_flatMap (cs : List Char) :
    (cs.flatMap ofChar).takeWhile (· != 0) = (cs.takeWhile (· != '\x00')).flatMap ofChar := by
  induction cs with
  | nil => rfl
  | cons c cs ih =>
    by_cases h : c = '\x00'
    · subst h
      rfl
    · rw [List.flatMap_cons, takeWhile_ofChar h, ih, List.takeWhile_cons, if_pos (bne_iff_ne.mpr h), List.flatMap_cons]

theorem fieldName_txt (name : String) : M.fieldName (txt name) = txt (cut name) := by
  rw [M.fieldName, toList_txt, takeWhile_flatMap]
  apply Array.toList_inj.mp
  rw [toList_txt, cut, String.toList_ofList]

theorem cut_of_notMem {name : String} (h : '\x00' ∉ name.toList) : cut name = name := by
  have hall : (name.toList ++ []).takeWhile (· != '\x00') = name.toList ++ [].takeWhile (· != '\x00') :=
    List.takeWhile_append_of_pos fun c hc => bne_iff_ne.mpr fun h0 => h (h0 ▸ hc)
  rw [List.append_nil, List.takeWhile_nil, List.append_nil] at hall
  rw [cut, hall, String.ofList_toList]

theorem notMem_cut (name : String) : '\x00' ∉ (cut name).toList := by
  intro h
  rw [cut, String.toList_ofList] at h
  have hall := List.all_eq_true.mp (List.all_takeWhile (p := (· != '\x00')) (l := name.toList)) _ h
  exact absurd hall (by decide)

theorem cut_cut (name : String) : cut (cut name) = cut name := cut_of_notMem (notMem_cut name)

theorem txt_append (a b : String) : txt (a ++ b) = txt a ++ txt b := by
  apply Array.toList_inj.mp
  simp [toList_txt, List.flatMap_append]

/-- Each surrogate has its partner. -/
def Whole (u : Units) : Prop := ∃ text, u = txt text

theorem whole_txt (text : String) : (txt text).Whole := ⟨text, rfl⟩

theorem Whole.append {u w : Units} (hu : u.Whole) (hw : w.Whole) : Whole (u ++ w) := by
  obtain ⟨a, rfl⟩ := hu
  obtain ⟨b, rfl⟩ := hw
  exact ⟨a ++ b, (txt_append a b).symm⟩

theorem toNat_toUInt16 {n : Nat} (h : n < 0x10000) : n.toUInt16.toNat = n := by
  simp only [UInt16.toNat_ofNat']
  omega

theorem pushPoint_toNat (w : UInt16) : (pushPoint #[] w.toNat).toList = [w] := by
  rw [pushPoint, if_pos w.toNat_lt]
  simp

theorem pushPoint_joined {a b : UInt16} (ha : isHigh a = true) (hb : isLow b = true) :
    (pushPoint #[] (joined a b)).toList = [a, b] := by
  rw [isHigh_iff] at ha
  rw [isLow_iff] at hb
  have hhigh : (0xd800 + (joined a b - 0x10000) / 0x400).toUInt16 = a := by
    rw [← UInt16.toNat_inj, toNat_toUInt16] <;> unfold joined <;> omega
  have hlow : (0xdc00 + (joined a b - 0x10000) % 0x400).toUInt16 = b := by
    rw [← UInt16.toNat_inj, toNat_toUInt16] <;> unfold joined <;> omega
  have hlarge : ¬joined a b < 0x10000 := by
    unfold joined
    omega
  rw [pushPoint, if_neg hlarge]
  simp [hhigh, hlow]

/-- The units are found again from the points, also those of a surrogate without its partner. -/
theorem flatMap_pointsOf (us : List UInt16) : ((pointsOf us).flatMap fun n => (pushPoint #[] n).toList) = us := by
  induction us using pointsOf.induct with
  | case1 => rfl
  | case2 a => simp [pointsOf, pushPoint_toNat]
  | case3 a b rest h ih =>
    obtain ⟨ha, hb⟩ := Bool.and_eq_true_iff.mp h
    rw [pointsOf_pair ha hb, List.flatMap_cons, pushPoint_joined ha hb, ih]
    rfl
  | case4 a b rest h ih =>
    rw [pointsOf, if_neg h, List.flatMap_cons, pushPoint_toNat, ih]
    rfl

theorem toNat_ofNat {n : Nat} (h : n.isValidChar) : (Char.ofNat n).toNat = n := Utf8.toNat_ofNat h

theorem whole_iff (u : Units) : u.Whole ↔ u.points.all Nat.isValidChar = true := by
  rw [List.all_eq_true]
  constructor
  · rintro ⟨text, rfl⟩ n hn
    rw [points, toList_txt, pointsOf_flatMap] at hn
    obtain ⟨c, -, rfl⟩ := List.mem_map.mp hn
    exact decide_eq_true c.valid
  · intro h
    have hchar : ∀ n ∈ u.points, ofChar (charOf n) = (pushPoint #[] n).toList := fun n hn => by
      have hvalid : n.isValidChar := of_decide_eq_true (h n hn)
      rw [ofChar, charOf, if_pos hvalid, toNat_ofNat hvalid]
    refine ⟨u.toText, Array.toList_inj.mp ?_⟩
    calc u.toList = u.points.flatMap fun n => (pushPoint #[] n).toList := (flatMap_pointsOf u.toList).symm
      _ = u.points.flatMap fun n => ofChar (charOf n) := by
          rw [List.flatMap_def, List.flatMap_def, List.map_congr_left hchar]
      _ = (txt u.toText).toList := by rw [toList_txt, toText, String.toList_ofList, List.flatMap_map]

end Units
end ApiStencil.Script
