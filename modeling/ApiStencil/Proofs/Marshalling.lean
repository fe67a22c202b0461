import ApiStencil.Proofs.Handing
import Mathlib.Data.List.Perm.Basic
/-!
The objects that arrays and objects of JSON become: how they are filled element by element and field by field, and
what is read of them.
-/
set_option autoImplicit false

namespace ApiStencil.Script

def arrayProto : Nat := (Intrinsic.proto .array).ref

def objectProto : Nat := (Intrinsic.proto .object).ref

/-- An array that has been given these values one after the other: what it has no place for stands under its name. -/
def laidArray (vs : List Value) : Obj where
  proto := some arrayProto
  extensible := true
  kind := .array (vs.take Store.maxElements).toArray
  slots := (((vs.drop Store.maxElements).zipIdx Store.maxElements).map fun x => (Key.ofIndex x.2, M.shown x.1)).toArray

/-- An object with these fields. -/
def laidObject (fields : List (String × Value)) : Obj where
  proto := some objectProto
  extensible := true
  kind := .plain
  slots := (fields.map fun f => (Key.ofString f.1, M.shown f.2)).toArray

/-- Whether an object has no property of its own under the digits of a number. -/
def Obj.numberless (o : Obj) : Bool :=
  (match o.kind with
    | .plain => true
    | .array items => items.isEmpty
    | _ => false) &&
  o.slots.all fun x => match x.1 with
    | .name u => (Key.digits? u.toList).isNone
    | .symbol _ => true

theorem Obj.slot?_eq_none {o : Obj} {k : Key} (h : ∀ x ∈ o.slots, x.1 ≠ k) : o.slot? k = none := by
  have hnone : o.slots.findIdx? (fun x => x.1 == k) = none :=
    Array.findIdx?_eq_none_iff.mpr fun x hx => beq_eq_false_iff_ne.mpr (h x hx)
  rw [Obj.slot?, hnone]
  rfl

theorem Obj.slot?_of_numberless {o : Obj} (h : o.numberless = true) (n : Nat) : o.slot? (.ofIndex n) = none := by
  refine Obj.slot?_eq_none fun x hx he => ?_
  have hx := Array.all_eq_true_iff_forall_mem.mp (Bool.and_eq_true_iff.mp h).2 x hx
  rw [he, Key.ofIndex] at hx
  simp only [Key.toList_ofIndex, Key.digits?_digitUnits] at hx
  exact absurd hx (by simp)

namespace M

theorem gives_plainSlot?_of_numberless {s : Store} {r : Nat} (h : (s.objects.getD r default).numberless = true)
    (n : Nat) : Gives (plainSlot? r (.ofIndex n)) s none s := by
  have hslot := Obj.slot?_of_numberless h n
  have hne : (Key.ofIndex n == lengthKey) = false := beq_eq_false_iff_ne.mpr (Key.ofIndex_ne_length n)
  have held := gives_heldSlot?_none s r hslot
  unfold plainSlot?
  refine (gives_object s r).bind ?_
  generalize s.objects.getD r default = o at h hslot held
  have hkind := (Bool.and_eq_true_iff.mp h).1
  split at hkind
  · rename_i hk
    simp only [hk]
    exact held
  · rename_i items hk
    simp only [hk, hne]
    cases Key.index? (.ofIndex n) with
    | none => exact held
    | some i =>
      obtain rfl : items = #[] := by simpa using hkind
      exact .pure none s
  · exact absurd hkind (by simp)

end M

/-- A store in which values can be made out of JSON: no time is set, and what arrays inherit has no property under
the digits of a number. -/
structure Store.Ready (s : Store) : Prop where
  timeless : s.deadline = none
  array : ∃ o, s.objects[arrayProto]? = some o ∧ o.numberless = true ∧ o.proto = some objectProto
  object : ∃ o, s.objects[objectProto]? = some o ∧ o.numberless = true ∧ o.proto = none

theorem Obj.plain_of_numberless {o : Obj} (h : o.numberless = true) :
    (∀ t q c d, o.kind ≠ .proxy t q c d) ∧ ∀ t b p l, o.kind ≠ .view t b p l := by
  unfold Obj.numberless at h
  refine ⟨fun _ _ _ _ hk => ?_, fun _ _ _ _ hk => ?_⟩ <;> simp [hk] at h

theorem laidArray_concat (vs : List Value) (v : Value) : laidArray (vs ++ [v]) =
    if vs.length < Store.maxElements then { laidArray vs with kind := .array (vs ++ [v]).toArray }
    else { laidArray vs with slots := (laidArray vs).slots.push (Key.ofIndex vs.length, M.shown v) } := by
  split
  · rename_i h
    have hdrop : (vs ++ [v]).drop Store.maxElements = vs.drop Store.maxElements := by
      rw [List.drop_of_length_le (by simp; omega), List.drop_of_length_le (by omega)]
    have htake : (vs ++ [v]).take Store.maxElements = vs ++ [v] := List.take_of_length_le (by simp; omega)
    simp only [laidArray, hdrop, htake]
  · rename_i h
    have hdrop : (vs ++ [v]).drop Store.maxElements = vs.drop Store.maxElements ++ [v] :=
      List.drop_append_of_le_length (by omega)
    have htake : (vs ++ [v]).take Store.maxElements = vs.take Store.maxElements :=
      List.take_append_of_le_length (by omega)
    have hplace : Store.maxElements + (vs.length - Store.maxElements) = vs.length := by omega
    simp [laidArray, hdrop, htake, List.zipIdx_append, hplace]

/-- An array has no name for what it has yet to be given. -/
theorem slot?_laidArray (vs : List Value) : (laidArray vs).slot? (.ofIndex vs.length) = none := by
  refine Obj.slot?_eq_none fun x hx he => ?_
  obtain ⟨y, hy, rfl⟩ := List.mem_map.mp (List.mem_toArray.mp hx)
  have hlt := List.snd_lt_add_of_mem_zipIdx hy
  have hle := List.le_snd_of_mem_zipIdx hy
  have hy := Key.ofIndex_inj he
  rw [List.length_drop] at hlt
  omega

namespace M

section Lay

variable {s : Store} {r : Nat}

theorem gives_plainSlot?_next {vs : List Value} (ho : s.objects[r]? = some (laidArray vs)) :
    Gives (plainSlot? r (.ofIndex vs.length)) s none s := by
  have hd := Store.getD_some ho
  by_cases hi : vs.length < Store.maxElements
  · have own := gives_plainSlot?_of_array (s := s) (r := r) hi (by rw [hd]; rfl)
    rwa [show (vs.take Store.maxElements).toArray[vs.length]? = none by simp] at own
  · have hne : (Key.ofIndex vs.length == lengthKey) = false := beq_eq_false_iff_ne.mpr (Key.ofIndex_ne_length _)
    have hk : (laidArray vs).kind = .array (vs.take Store.maxElements).toArray := rfl
    unfold plainSlot?
    refine (gives_object s r).bind ?_
    simp only [hd, hk, hne, Key.index?_ofIndex_of_le (Nat.not_lt.mp hi)]
    exact gives_heldSlot?_none s r (slot?_laidArray vs)

/-- What is put behind all elements of an array. -/
theorem gives_putOwn_next {vs : List Value} (ho : s.objects[r]? = some (laidArray vs)) (v : Value) :
    Gives (putOwn (.object r) (.ofIndex vs.length) v) s .done (s.change r fun _ => laidArray (vs ++ [v])) := by
  have hd := Store.getD_some ho
  by_cases hi : vs.length < Store.maxElements
  · refine gives_putOwn_of_array hi ho rfl rfl (by simp; omega) ?_
    rw [laidArray_concat, if_pos hi]
    simp [List.take_of_length_le (Nat.le_of_lt hi)]
  · have hne : (Key.ofIndex vs.length == lengthKey) = false := beq_eq_false_iff_ne.mpr (Key.ofIndex_ne_length _)
    have hk : (laidArray vs).kind = .array (vs.take Store.maxElements).toArray := rfl
    have hp : ∀ t q c d, (s.objects.getD r default).kind ≠ .proxy t q c d := by
      rw [hd]
      intro _ _ _ _ h
      cases h
    unfold putOwn
    refine (gives_ownSlot?_of_plain hp (gives_plainSlot?_next ho)).bind ?_
    refine Gives.bind_pure (a := true) (gives_define_of_plain hp ?_) rfl
    unfold plainDefine
    refine (gives_object s r).bind ?_
    simp only [hd, hk, hne, Key.index?_ofIndex_of_le (Nat.not_lt.mp hi)]
    unfold defineSlot
    refine (gives_object s r).bind ?_
    simp only [hd, slot?_laidArray]
    refine gives_changed ho ?_ _
    rw [laidArray_concat, if_neg hi]
    rfl

/-- What is put behind all elements of an array is up to what the array inherits. -/
theorem gives_putMember_behind {t : Store} {vs : List Value} (ho : s.objects[r]? = some (laidArray vs)) {v : Value}
    (h : ∀ store, Gives (setAt store 999999 arrayProto (.ofIndex vs.length) v (.object r)) s .done t) :
    Gives (putMember (.object r) (.ofIndex vs.length) v) s () t := by
  have hd := Store.getD_some ho
  refine Gives.bind_pure (a := .done) ?_ rfl
  refine gives_setAt_of_plain (n := 999999) (by rw [hd]; intro _ _ _ _ h; cases h)
    (by rw [hd]; intro _ _ _ _ h; cases h) ?_
  refine (gives_plainSlot?_next ho).bind ((gives_object s r).bind ?_)
  rw [hd]
  exact h _

theorem gives_putMember_next (hs : s.Ready) {vs : List Value} (ho : s.objects[r]? = some (laidArray vs)) (v : Value) :
    Gives (putMember (.object r) (.ofIndex vs.length) v) s () (s.change r fun _ => laidArray (vs ++ [v])) := by
  obtain ⟨a, ha, hab, hap⟩ := hs.array
  obtain ⟨o, hoo, hob, hop⟩ := hs.object
  have had := Store.getD_some ha
  have hod := Store.getD_some hoo
  refine gives_putMember_behind ho fun _ => ?_
  refine gives_setAt_of_plain (n := 999998) (by rw [had]; exact (Obj.plain_of_numberless hab).1)
    (by rw [had]; exact (Obj.plain_of_numberless hab).2) ?_
  refine (gives_plainSlot?_of_numberless (by rw [had]; exact hab) _).bind ((gives_object s arrayProto).bind ?_)
  rw [had, hap]
  refine gives_setAt_of_plain (n := 999997) (by rw [hod]; exact (Obj.plain_of_numberless hob).1)
    (by rw [hod]; exact (Obj.plain_of_numberless hob).2) ?_
  refine (gives_plainSlot?_of_numberless (by rw [hod]; exact hob) _).bind ((gives_object s objectProto).bind ?_)
  rw [hod, hop]
  exact gives_putOwn_next ho v

end Lay

end M

theorem Key.ofString_beq (a b : String) : (Key.ofString a == Key.ofString b) = (a == b) := by
  rw [Bool.eq_iff_iff, beq_iff_eq, beq_iff_eq]
  constructor
  · intro h
    injection h with h
    exact Units.txt_injective h
  · rintro rfl
    rfl

theorem slot?_laidObject (fields : List (String × Value)) (name : String) :
    (laidObject fields).slot? (.ofString name) =
      (fields.findIdx? fun f => f.1 == name).bind fun i => fields[i]?.map fun f => (i, M.shown f.2) := by
  have hfind : (laidObject fields).slots.findIdx? (fun x => x.1 == Key.ofString name) =
      fields.findIdx? fun f => f.1 == name := by
    simp only [laidObject, List.findIdx?_toArray, List.findIdx?_map]
    congr 1
    funext f
    exact Key.ofString_beq f.1 name
  have hget (i : Nat) : (laidObject fields).slots[i]? = fields[i]?.map fun f => (Key.ofString f.1, M.shown f.2) := by
    simp [laidObject]
  rw [Obj.slot?, hfind]
  congr 1
  funext i
  rw [hget]
  cases fields[i]? <;> rfl

theorem laidObject_placed (name : String) (v : Value) (fields : List (String × Value)) :
    laidObject (Json.placed name v fields) =
      match fields.findIdx? fun f => f.1 == name with
      | none => { laidObject fields with slots := (laidObject fields).slots.push (.ofString name, M.shown v) }
      | some i =>
        { laidObject fields with slots := (laidObject fields).slots.setIfInBounds i (.ofString name, M.shown v) } := by
  rw [Json.placed_eq]
  cases fields.findIdx? fun f => f.1 == name with
  | none => simp [laidObject]
  | some i => simp [laidObject, List.map_set]

namespace M

theorem gives_define_field {s : Store} {r : Nat} {fields : List (String × Value)}
    (ho : s.objects[r]? = some (laidObject fields)) (name : String) (v : Value) :
    Gives (define r (.ofString name) (.shown v)) s true
      (s.change r fun _ => laidObject (Json.placed name v fields)) := by
  have hd := Store.getD_some ho
  have hslot := slot?_laidObject fields name
  have hplaced := laidObject_placed name v fields
  refine gives_define_of_plain (by rw [hd]; intro _ _ _ _ h; cases h) ?_
  have hk : (laidObject fields).kind = .plain := rfl
  unfold plainDefine
  refine (gives_object s r).bind ?_
  simp only [hd, hk]
  unfold defineSlot
  refine (gives_object s r).bind ?_
  rw [hd]
  cases hi : fields.findIdx? fun f => f.1 == name with
  | none =>
    rw [hi] at hslot hplaced
    simp only [hslot, Option.bind_none]
    refine gives_changed ho ?_ _
    rw [hplaced]
    rfl
  | some i =>
    obtain ⟨hlt, -⟩ := List.findIdx?_eq_some_iff_getElem.mp hi
    rw [hi, Option.bind_some, List.getElem?_eq_getElem hlt, Option.map_some] at hslot
    rw [hi] at hplaced
    simp only [hslot]
    refine (Gives.pure (M.shown fields[i].2) s).bind ?_
    refine gives_changed ho ?_ _
    rw [hplaced]
    rfl

theorem gives_isArray {s : Store} {r : Nat} {o : Obj} (ho : s.objects[r]? = some o)
    (hp : ∀ t q c d, o.kind ≠ .proxy t q c d) :
    Gives (Library.Arrays.isArray (.object r)) s (o.kind matches .array _ | .sparse _ _) s := by
  show Gives (Library.Arrays.isArrayAt (999999 + 1) (.object r)) s _ s
  rw [Library.Arrays.isArrayAt]
  refine (gives_kind? ho).bind ?_
  generalize o.kind = k at hp
  cases k with
  | proxy t q c d => exact absurd rfl (hp t q c d)
  | _ => exact .pure _ s

section Read

variable {s : Store} {r n : Nat}

theorem gives_toJson_array {ps : List (Value × Json)} (ho : s.objects[r]? = some (laidArray (ps.map (·.1))))
    (h : ∀ p ∈ ps, Gives (toJson n p.1) s p.2 s) :
    Gives (toJson (n + 1) (.object r)) s (.array ((ps.map (·.2)).take Store.maxElements)) s := by
  have hd := Store.getD_some ho
  have hk : (laidArray (ps.map (·.1))).kind = .array ((ps.map (·.1)).take Store.maxElements).toArray := rfl
  have hp : ∀ t q c d, (laidArray (ps.map (·.1))).kind ≠ .proxy t q c d := by simp [hk]
  have array : Gives (Library.Arrays.isArray (.object r)) s true s := gives_isArray ho hp
  have length : Gives (lengthOf (.object r)) s (ps.take Store.maxElements).length s := by
    refine (gives_object s r).bind ?_
    simp only [hd, hk, ← List.map_take, List.size_toArray, List.length_map]
    exact .pure _ s
  have items : Gives ((List.range (ps.take Store.maxElements).length).mapM fun i => do
      toJson n (← getMember (.object r) (.ofIndex i))) s
      ((List.range (ps.take Store.maxElements).length).map fun i =>
        ((ps.take Store.maxElements)[i]?.map (·.2)).getD .null) s := by
    refine gives_mapM fun i hi => ?_
    have hlt := List.mem_range.mp hi
    have hmax : i < Store.maxElements := Nat.lt_of_lt_of_le hlt (List.length_take_le ..)
    have own := gives_plainSlot?_of_array (s := s) hmax (by rw [hd, hk])
    have hitem : ((ps.map (·.1)).take Store.maxElements).toArray[i]? = some (ps.take Store.maxElements)[i].1 := by
      rw [← List.map_take, List.getElem?_toArray, List.getElem?_map, List.getElem?_eq_getElem hlt]
      rfl
    rw [hitem] at own
    rw [List.getElem?_eq_getElem hlt]
    exact (gives_getFrom_of_plain (by rw [hd]; exact hp) own).bind (h _ (List.mem_of_mem_take (List.getElem_mem hlt)))
  have hitems : ((List.range (ps.take Store.maxElements).length).map fun i =>
      ((ps.take Store.maxElements)[i]?.map (·.2)).getD .null) = (ps.map (·.2)).take Store.maxElements := by
    rw [← List.map_take]
    generalize ps.take Store.maxElements = qs
    refine List.ext_getElem (by simp) fun i h₁ h₂ => ?_
    simp only [List.length_map] at h₂
    simp [h₂]
  rw [hitems] at items
  unfold toJson
  exact array.bind (length.bind (items.bind (.pure _ s)))

theorem sortKeys_perm {ks : List Key} (h : ∀ k ∈ ks, ∃ u, k = .name u) : (sortKeys ks).Perm ks := by
  have hplaces : (ks.filterMap Key.index?).map Key.ofIndex = ks.filter fun k => k.index?.isSome := by
    clear h
    induction ks with
    | nil => rfl
    | cons k ks ih =>
      cases hi : k.index? with
      | none => rw [List.filterMap_cons_none hi, ih, List.filter_cons_of_neg (by simp [hi])]
      | some n =>
        rw [List.filterMap_cons_some hi, List.map_cons, ih, List.filter_cons_of_pos (by simp [hi]), Key.eq_ofIndex hi]
  have parts (p q : Key → Bool) (hp : ∀ k ∈ ks, p k = !k.index?.isSome) (hq : ∀ k ∈ ks, q k = false) :
      (((ks.filterMap Key.index?).mergeSort (· ≤ ·)).map Key.ofIndex ++ ks.filter p ++ ks.filter q).Perm ks := by
    have hnone : ks.filter q = [] := List.filter_eq_nil_iff.mpr fun k hk => by simp [hq k hk]
    rw [List.filter_congr hp, hnone, List.append_nil]
    refine (((List.mergeSort_perm _ _).map Key.ofIndex).append_right _).trans ?_
    rw [hplaces]
    exact List.filter_append_perm _ ks
  refine parts _ _ (fun k hk => ?_) fun k hk => ?_
  · obtain ⟨u, rfl⟩ := h k hk
    simp
  · obtain ⟨u, rfl⟩ := h k hk
    rfl

theorem gives_plainSlot?_field {fields : List (String × Value)} (ho : s.objects[r]? = some (laidObject fields))
    (hn : (fields.map (·.1)).Nodup) {f : String × Value} (hf : f ∈ fields) :
    Gives (plainSlot? r (.ofString f.1)) s (some (shown f.2)) s := by
  have hslot := slot?_laidObject fields f.1
  have hk : (laidObject fields).kind = .plain := rfl
  cases hi : fields.findIdx? fun g => g.1 == f.1 with
  | none => exact absurd (List.findIdx?_eq_none_iff.mp hi f hf) (by simp)
  | some i =>
    obtain ⟨hlt, heq, -⟩ := List.findIdx?_eq_some_iff_getElem.mp hi
    have hfield : fields[i] = f := List.inj_on_of_nodup_map hn (List.getElem_mem hlt) hf (beq_iff_eq.mp heq)
    rw [hi, Option.bind_some, List.getElem?_eq_getElem hlt, hfield, Option.map_some] at hslot
    unfold plainSlot?
    refine (gives_object s r).bind ?_
    simp only [Store.getD_some ho, hk]
    exact gives_heldSlot?_data s r hslot

theorem exists_map_of_perm {α β : Type} {f : α → β} {bs : List β} {as : List α} (h : bs.Perm (as.map f)) :
    ∃ as' : List α, bs = as'.map f ∧ as'.Perm as :=
  (congrFun (congrFun (List.eq_map_comp_perm f) bs) as).mpr h

/-- The names of an object, in an order of their own. -/
theorem gives_shownNames {fields : List (String × Value)} (ho : s.objects[r]? = some (laidObject fields))
    (hn : (fields.map (·.1)).Nodup) :
    ∃ names : List String, names.Perm (fields.map (·.1)) ∧
      Gives (Library.Objects.shownNames r) s (names.map txt) s := by
  have hd := Store.getD_some ho
  have hk : (laidObject fields).kind = .plain := rfl
  have hp : ∀ t q c d, (s.objects.getD r default).kind ≠ .proxy t q c d := by simp [hd, hk]
  have keys : Gives (ownKeys r) s (sortKeys ((laidObject fields).slots.toList.map (·.1))) s := by
    refine gives_ownKeys_of_plain hp ?_
    unfold plainKeys
    refine (gives_object s r).bind ?_
    simp only [hd, hk]
    -- no key of the object is hidden
    refine (gives_filterM fun x hx => ?_).bind (.pure _ s)
    obtain ⟨f, -, rfl⟩ := List.mem_map.mp hx
    exact .pure true s
  have hperm : (sortKeys ((laidObject fields).slots.toList.map (·.1))).Perm ((fields.map (·.1)).map Key.ofString) := by
    have hkeys : (laidObject fields).slots.toList.map (·.1) = (fields.map (·.1)).map Key.ofString := by simp [laidObject]
    rw [hkeys]
    refine sortKeys_perm fun k hk => ?_
    obtain ⟨name, -, rfl⟩ := List.mem_map.mp hk
    exact ⟨txt name, rfl⟩
  obtain ⟨names, hnames, hsame⟩ := exists_map_of_perm hperm
  rw [hnames] at keys
  refine ⟨names, hsame, keys.bind (gives_filterMapM fun name hname => ?_)⟩
  obtain ⟨f, hf, rfl⟩ := List.mem_map.mp (hsame.subset hname)
  exact (gives_ownSlot?_of_plain hp (gives_plainSlot?_field ho hn hf)).bind (.pure _ s)

/-- What stands in a field: a value that is not passed over, and the JSON that it is handed back as. -/
theorem gives_toJson_object {fields : List (String × Value × Json)}
    (ho : s.objects[r]? = some (laidObject (fields.map (Prod.map id Prod.fst)))) (hn : (fields.map (·.1)).Nodup)
    (hcut : ∀ f ∈ fields, Units.cut f.1 = f.1) (hshown : ∀ f ∈ fields, f.2.1 ≠ .undefined ∧ s.canCall f.2.1 = false)
    (h : ∀ f ∈ fields, Gives (toJson n f.2.1) s f.2.2 s) :
    Gives (toJson (n + 1) (.object r)) s (.ofFields (fields.map (Prod.map id Prod.snd))) s := by
  have hd := Store.getD_some ho
  have hk : (laidObject (fields.map (Prod.map id Prod.fst))).kind = .plain := rfl
  have hp : ∀ t q c d, (laidObject (fields.map (Prod.map id Prod.fst))).kind ≠ .proxy t q c d := by simp [hk]
  have hlaid : ((fields.map (Prod.map id Prod.fst)).map (·.1)).Nodup := by rwa [Json.names_map]
  have array : Gives (Library.Arrays.isArray (.object r)) s false s := gives_isArray ho hp
  have callable : Gives (isCallable (.object r)) s false s := by
    have := gives_isCallable s (.object r)
    rwa [show s.canCall (.object r) = false by simp [Store.canCall, ho, hk, Kind.callable]] at this
  have kind : Gives (kindOf r) s .plain s := by
    have := gives_kindOf s r
    rwa [hd] at this
  -- the names come in an order of their own, which the fields of an object do not keep
  obtain ⟨names, hnames, shown⟩ := gives_shownNames ho hlaid
  rw [Json.names_map] at hnames
  obtain ⟨fields', rfl, hsame⟩ := exists_map_of_perm hnames
  have hnodup : ((fields'.map (Prod.map id Prod.snd)).map (·.1)).Nodup := by
    rw [Json.names_map]
    exact (hsame.map _).nodup_iff.mpr hn
  rw [Json.ofFields_eq, ← Json.gathered_perm (hsame.map _) hnodup]
  rw [List.map_map] at shown
  unfold toJson
  refine array.bind (callable.bind (kind.bind (shown.bind (Gives.bind ?_ (.pure _ s)))))
  refine gives_filterMapM fun f hf => ?_
  have hf := hsame.subset hf
  have own := gives_plainSlot?_field ho hlaid (List.mem_map_of_mem hf)
  refine (gives_getFrom_of_plain (by rw [hd]; exact hp) own).bind ?_
  obtain ⟨hdefined, hpassive⟩ := hshown f hf
  have passive := gives_isCallable s f.2.1
  rw [hpassive] at passive
  have hname : (fieldName (txt f.1)).toText = f.1 := by
    rw [Units.fieldName_txt, hcut f hf, Units.toText_txt]
  have field : Gives (do return some ((fieldName (txt f.1)).toText, ← toJson n f.2.1)) s (some (f.1, f.2.2)) s := by
    rw [hname]
    exact (h f hf).bind (.pure _ s)
  dsimp only
  split
  · rename_i he
    exact absurd he hdefined
  · exact passive.bind field

end Read

end M
end ApiStencil.Script
