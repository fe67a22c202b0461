import ApiStencil.Script.Reading
/-!
The array of commands as registrations reach it: a function is put at the place of its registration, and
the registration is complete once it stands there.
-/
set_option autoImplicit false

namespace ApiStencil.Script

/-- Whether an object has no element of its own at a place, and asks no handler for it. -/
def Obj.lacks (o : Obj) (i : Nat) : Bool :=
  match o.kind with
  | .proxy _ _ _ _ | .view _ _ _ _ => false
  | .array items => items.size ≤ i
  | .text u => u.size ≤ i && (o.slot? (.ofIndex i)).isNone
  | _ => (o.slot? (.ofIndex i)).isNone

/-- An object that lacks an element is neither a proxy nor a view. -/
theorem Obj.plain_of_lacks {o : Obj} {i : Nat} (h : o.lacks i = true) :
    (∀ t q c d, o.kind ≠ .proxy t q c d) ∧ ∀ t b p l, o.kind ≠ .view t b p l := by
  unfold Obj.lacks at h
  refine ⟨fun _ _ _ _ hk => ?_, fun _ _ _ _ hk => ?_⟩ <;> simp [hk] at h

namespace Store

/-- Whether an object inherits no element at a place. -/
def inheritsNone (s : Store) (i : Nat) : Nat → Option Nat → Bool
  | _, none => true
  | 0, some _ => false
  | n + 1, some p => (s.objects.getD p default).lacks i && s.inheritsNone i n (s.objects.getD p default).proto

/-- Whether nothing stands in the way of a function at a place of the array of commands. -/
def fits (s : Store) (slots : Value) (slot : Nat) (f : Value) : Bool :=
  match slots, (s.objects.getD tableRef default).kind with
  | .object r, .array items =>
    r == tableRef && decide (slot < maxElements) && s.canCall f &&
      (decide (slot < items.size) || s.inheritsNone slot (M.reach - 1) (s.objects.getD tableRef default).proto)
  | _, _ => false

/-- The array of commands with a function at a place of it or behind all. -/
def enrolled (s : Store) (slot : Nat) (f : Value) : Store :=
  s.change tableRef fun o =>
    match o.kind with
    | .array items =>
      { o with kind := .array (if slot < items.size then items.setIfInBounds slot f else items.push f) }
    | _ => o

/-- Only what a change makes of the object itself matters. -/
theorem change_congr {s : Store} {r : Nat} {f g : Obj → Obj} {o : Obj} (ho : s.objects[r]? = some o)
    (h : f o = g o) : s.change r f = s.change r g := by
  have hm : s.objects.modify r f = s.objects.modify r g := by
    apply Array.ext_getElem?
    intro i
    rw [Array.getElem?_modify, Array.getElem?_modify]
    split
    · rename_i he
      subst he
      simp [ho, h]
    · rfl
  simp only [change, hm]

end Store

namespace M

theorem gives_plainSlot?_of_lacks {s : Store} {r i : Nat} (hi : i < Store.maxElements)
    (h : (s.objects.getD r default).lacks i = true) : Gives (plainSlot? r (.ofIndex i)) s none s := by
  have hne : (Key.ofIndex i == lengthKey) = false := beq_eq_false_iff_ne.mpr (Key.ofIndex_ne_length i)
  have hidx := Key.index?_ofIndex i hi
  unfold plainSlot?
  refine (gives_object s r).bind ?_
  generalize hO : s.objects.getD r default = o at h
  have own (hs : (o.slot? (.ofIndex i)).isNone = true) : Gives (heldSlot? r o (.ofIndex i)) s none s :=
    gives_heldSlot?_none s r (Option.isNone_iff_eq_none.mp hs)
  unfold Obj.lacks at h
  split at h
  · exact absurd h (by simp)
  · exact absurd h (by simp)
  · rename_i items hk
    have hnone : items[i]? = none := Array.getElem?_eq_none (of_decide_eq_true h)
    simp only [hk, hne, hidx, hnone]
    exact .pure none s
  · rename_i u hk
    rw [Bool.and_eq_true] at h
    have hnone : u[i]? = none := Array.getElem?_eq_none (of_decide_eq_true h.1)
    simp only [hk, hne, hidx, hnone, Option.bind_some]
    exact own h.2
  · rename_i _ hview harray htext
    split
    · rename_i hk
      exact absurd hk (harray _)
    · simp only [hne]
      exact own h
    · rename_i hk
      exact absurd hk (htext _)
    · rename_i hk
      exact absurd hk (hview _ _ _ _)
    · exact own h

theorem gives_setAt_of_plain {s t : Store} {store : StoreElement} {n r i : Nat} {v this : Value} {o : Outcome}
    (hp : ∀ t q c d, (s.objects.getD r default).kind ≠ .proxy t q c d)
    (hv : ∀ t b o l, (s.objects.getD r default).kind ≠ .view t b o l)
    (h : Gives (setPlain (fun p => setAt store n p (.ofIndex i) v this) r (.ofIndex i) v this) s o t) :
    Gives (setAt store (n + 1) r (.ofIndex i) v this) s o t := by
  rw [setAt]
  refine (gives_kindOf s r).bind ?_
  split
  · rename_i hk
    exact absurd hk (hp _ _ _ _)
  · rename_i hk
    exact absurd hk (hv _ _ _ _)
  · exact h

/-- With no element on the way, an assignment comes to the object that was assigned to. -/
theorem gives_setAt_of_inheritsNone {s t : Store} {store : StoreElement} {i : Nat} {v this : Value} {o : Outcome}
    (hi : i < Store.maxElements) (h : Gives (putOwn this (.ofIndex i) v) s o t) (n r : Nat)
    (hc : s.inheritsNone i n (some r) = true) : Gives (setAt store n r (.ofIndex i) v this) s o t := by
  induction n generalizing r with
  | zero => simp [Store.inheritsNone] at hc
  | succ n ih =>
    rw [Store.inheritsNone, Bool.and_eq_true] at hc
    obtain ⟨hl, hr⟩ := hc
    refine gives_setAt_of_plain (Obj.plain_of_lacks hl).1 (Obj.plain_of_lacks hl).2 ?_
    refine (gives_plainSlot?_of_lacks hi hl).bind ((gives_object s r).bind ?_)
    cases hp : (s.objects.getD r default).proto with
    | none => exact h
    | some p =>
      rw [hp] at hr
      exact ih p hr

theorem gives_plainSlot?_of_array {s : Store} {r i : Nat} {items : Array Value} (hi : i < Store.maxElements)
    (hk : (s.objects.getD r default).kind = .array items) :
    Gives (plainSlot? r (.ofIndex i)) s (items[i]?.map shown) s := by
  have hne : (Key.ofIndex i == lengthKey) = false := beq_eq_false_iff_ne.mpr (Key.ofIndex_ne_length i)
  unfold plainSlot?
  refine (gives_object s r).bind ?_
  simp only [hk, hne, Key.index?_ofIndex i hi]
  cases items[i]? with
  | none => exact .pure _ s
  | some v => exact .pure _ s

/-- A change of an object that is known, and nothing after it. -/
theorem gives_changed {α : Type} {s : Store} {r : Nat} {f g : Obj → Obj} {o : Obj} (ho : s.objects[r]? = some o)
    (h : f o = g o) (hf : ∀ o, (f o).kind.callable = o.kind.callable) {b : α} :
    Gives (modifyObject r f hf >>= fun _ => Pure.pure b) s b (s.change r g) := by
  rw [← Store.change_congr ho h]
  exact (gives_modifyObject s r f hf).bind_pure rfl

/-- An element is put into an array in place of one or behind all. -/
theorem gives_putOwn_of_array {s : Store} {r i : Nat} {o : Obj} {items : Array Value} {v : Value} {g : Obj → Obj}
    (hi : i < Store.maxElements) (ho : s.objects[r]? = some o) (hk : o.kind = .array items)
    (he : o.extensible = true) (hs : i ≤ items.size)
    (hg : g o = { o with kind := .array (if i < items.size then items.setIfInBounds i v else items.push v) }) :
    Gives (putOwn (.object r) (.ofIndex i) v) s .done (s.change r g) := by
  have hne : (Key.ofIndex i == lengthKey) = false := beq_eq_false_iff_ne.mpr (Key.ofIndex_ne_length i)
  have hd := Store.getD_some ho
  have hp : ∀ t q c d, (s.objects.getD r default).kind ≠ .proxy t q c d := by simp [hd, hk]
  have own := gives_ownSlot?_of_plain hp (gives_plainSlot?_of_array hi (by rw [hd, hk]))
  unfold putOwn
  refine own.bind ?_
  cases hv : items[i]? with
  | some old =>
    obtain ⟨hlt, -⟩ := Array.getElem?_eq_some_iff.mp hv
    refine Gives.bind_pure (a := true) (gives_define_of_plain hp ?_) rfl
    unfold plainDefine
    refine (gives_object s _).bind ?_
    simp only [hd, hk, hne, Key.index?_ofIndex i hi, hv]
    refine gives_changed ho ?_ _
    simp only [hk, hg, if_pos hlt]
    rfl
  | none =>
    have hge : items.size ≤ i := Array.getElem?_eq_none_iff.mp hv
    have hsize : (i == items.size) = true := beq_iff_eq.mpr (by omega)
    refine Gives.bind_pure (a := true) (gives_define_of_plain hp ?_) rfl
    unfold plainDefine
    refine (gives_object s _).bind ?_
    simp only [hd, hk, hne, Key.index?_ofIndex i hi, hv, he, hsize]
    refine gives_changed ho ?_ _
    simp only [hk, hg, if_neg (Nat.not_lt.mpr hge)]
    rfl

/-- Putting a function where nothing stands in its way, in a store that has not been tampered with. -/
theorem gives_putMember_of_fits {s : Store} {slots f : Value} {slot : Nat} {fs : List Value} (h : s.Holds fs)
    (hf : s.fits slots slot f = true) (hs : slot ≤ fs.length) :
    Gives (putMember slots (.ofIndex slot) f) s () (s.enrolled slot f) := by
  obtain ⟨o, ho, he, hk⟩ := h.table
  have hd := Store.getD_some ho
  simp only [Store.fits, hd, hk] at hf
  split at hf
  · rename_i r items _ hitems
    cases hitems
    simp only [Bool.and_eq_true, Bool.or_eq_true, beq_iff_eq, decide_eq_true_eq] at hf
    obtain ⟨⟨⟨hr, hi⟩, -⟩, hfree⟩ := hf
    subst hr
    have put : Gives (putOwn (.object Store.tableRef) (.ofIndex slot) f) s .done (s.enrolled slot f) :=
      gives_putOwn_of_array hi ho hk he (by simpa using hs) (by simp only [hk])
    have own := gives_plainSlot?_of_array hi (show (s.objects.getD Store.tableRef default).kind = _ by rw [hd, hk])
    refine Gives.bind_pure (a := .done) ?_ rfl
    refine gives_setAt_of_plain (n := 999999) (by simp [hd, hk]) (by simp [hd, hk]) ?_
    refine own.bind ?_
    -- a place behind all elements is up to what the array inherits
    cases hv : fs.toArray[slot]? with
    | some old => exact put
    | none =>
      refine (gives_object s _).bind ?_
      rw [hd]
      cases hp : o.proto with
      | none => exact put
      | some p =>
        refine gives_setAt_of_inheritsNone hi put 999999 p ?_
        rcases hfree with hlt | hfree
        · exact absurd hlt (Nat.not_lt.mpr (Array.getElem?_eq_none_iff.mp hv))
        · rw [hp] at hfree
          exact hfree
  · exact absurd hf (by simp)

end M

namespace Store

/-- The store after a registration that has left `t` behind. -/
def registering (s : Store) (slots : Value) (g : Registration) (t : Store) : Store :=
  { t with
    roll := t.roll.add g
    tampered := s.tampered || !s.fits slots s.roll.names.size g.function }

/-- The store after a call that was to register something and has left `t` behind without doing so. -/
def refusing (t : Store) : Store := { t with roll := t.roll.refuse }

theorem size_names (s : Store) : s.roll.names.size = s.functions.length := by simp [names_eq, functions]

theorem overlaid_enrolled (fs earlier : List Value) (f : Value) :
    (if fs.length < (overlaid fs earlier).toArray.size then (overlaid fs earlier).toArray.setIfInBounds fs.length f
      else (overlaid fs earlier).toArray.push f) = (overlaid (fs ++ [f]) earlier).toArray := by
  cases hd : earlier.drop fs.length with
  | nil =>
    have hl : earlier.length ≤ fs.length := List.drop_eq_nil_iff.mp hd
    simp [overlaid, hd, List.drop_eq_nil_iff.mpr (show earlier.length ≤ fs.length + 1 by omega)]
  | cons e rest =>
    have hr : earlier.drop (fs.length + 1) = rest := by
      rw [← List.drop_drop, hd]
      rfl
    simp [overlaid, hd, hr]

theorem canCall_enrolled (s : Store) (slot : Nat) (f v : Value) :
    (s.enrolled slot f).canCall v = s.canCall v := by
  refine canCall_change s _ _ (fun o => ?_) v
  split
  · rename_i hk
    simp [hk, Kind.callable]
  · rfl

/-- The array holds a function once it has been put at the place of its registration. -/
theorem Holds.enrolled {s : Store} {earlier : List Value} {f : Value} (h : s.Holds (overlaid s.functions earlier))
    (hf : s.canCall f = true) (hlt : s.roll.names.size < maxElements) {t : Store} (ht : t.objects = (s.enrolled s.roll.names.size f).objects)
    (hr : t.functions = s.functions ++ [f]) : t.Holds (overlaid t.functions earlier) := by
  have hsize : s.roll.names.size = s.functions.length := s.size_names
  -- only the array changes, and no object can be called that could not before
  have hobjects (r : Nat) (hne : r ≠ tableRef) : t.objects[r]? = s.objects[r]? := by
    rw [ht]
    exact (Array.getElem?_modify).trans (if_neg (Ne.symm hne))
  have hcall (v : Value) : t.canCall v = s.canCall v := by
    rw [← canCall_enrolled s s.roll.names.size f v]
    exact canCall_of_objects ht v
  obtain ⟨o, ho, he, hk⟩ := h.table
  have hfew : (overlaid t.functions earlier).length ≤ maxElements := by
    have := h.few
    rw [hr]
    simp only [overlaid, List.length_append, List.length_drop, List.length_singleton] at this ⊢
    omega
  refine ⟨hfew, ?_, ⟨{ o with kind := .array (overlaid t.functions earlier).toArray }, ?_, he, rfl⟩, ?_⟩
  · rw [hobjects globalRef (by decide)]
    exact h.led
  · rw [ht, hr, ← overlaid_enrolled, ← hsize]
    refine Array.getElem?_modify.trans ?_
    rw [if_pos rfl, ho]
    simp only [Option.map_some, hk]
  · intro g hg
    rw [hcall]
    rw [hr] at hg
    simp only [overlaid, List.append_assoc, List.mem_append, List.length_append] at hg
    rcases hg with hg | hg | hg
    · exact h.callable g (List.mem_append_left _ hg)
    · rw [List.mem_singleton.mp hg]
      exact hf
    · refine h.callable g (List.mem_append_right _ ?_)
      rw [← List.drop_drop] at hg
      exact List.mem_of_mem_drop hg

theorem canCall_of_fits {s : Store} {slots f : Value} {slot : Nat} (h : s.fits slots slot f = true) :
    s.canCall f = true ∧ slot < maxElements := by
  unfold fits at h
  split at h
  · simp only [Bool.and_eq_true, decide_eq_true_eq] at h
    exact ⟨h.1.2, h.1.1.2⟩
  · exact absurd h (by simp)

end Store

namespace M

theorem follows_registering (slots : Value) (g : Registration) (l : Links) (s t : Store)
    (h : (putMember slots (.ofIndex s.roll.names.size) g.function l).run s = (.ok (), t)) :
    s.Follows (s.registering slots g t) := by
  have hst : s.Follows t := by
    have := (putMember slots (.ofIndex s.roll.names.size) g.function l).follows s
    rwa [h] at this
  refine ⟨?_, ?_, hst.canCall, ?_⟩
  · exact hst.answers.trans (by simp [Store.registering, Roll.add])
  · intro ht
    exact (Bool.or_eq_false_iff.mp ht).1
  · intro earlier hs ht
    obtain ⟨hs0, hfits⟩ := Bool.or_eq_false_iff.mp ht
    simp only [Bool.not_eq_false'] at hfits
    have holds := hs hs0
    have hsize : s.roll.names.size = s.functions.length := s.size_names
    have hle : s.roll.names.size ≤ (Store.overlaid s.functions earlier).length := by
      rw [hsize, Store.overlaid, List.length_append]
      omega
    obtain ⟨m, hrun | ⟨-, hrun⟩⟩ := gives_putMember_of_fits holds hfits hle l s.polls
    · have he : t = (s.enrolled s.roll.names.size g.function).ticked m := by
        have := h.symm.trans hrun
        simpa using this
      obtain ⟨hcall, hlt⟩ := Store.canCall_of_fits hfits
      refine holds.enrolled hcall hlt (by rw [he]; rfl) ?_
      rw [he]
      simp [Store.registering, Store.functions, Store.registered, Roll.add, Store.ticked, Store.enrolled, Store.change]
    · have := h.symm.trans hrun
      simp at this

theorem follows_refusing (t : Store) : t.Follows t.refusing := by
  refine ⟨by simp [Store.refusing, Roll.refuse], id, fun v hv => ?_, fun earlier hs ht => ?_⟩
  · rw [Store.canCall_of_objects rfl]
    exact hv
  · have hf : t.refusing.functions = t.functions := by
      simp [Store.refusing, Store.functions, Store.registered, Roll.refuse]
    rw [hf]
    exact (hs ht).of_objects rfl

theorem sameClock_registering (s : Store) (slots : Value) (g : Registration) (t : Store) :
    t.SameClock (s.registering slots g t) :=
  ⟨rfl, rfl, rfl⟩

theorem sameClock_refusing (t : Store) : t.SameClock t.refusing :=
  ⟨rfl, rfl, rfl⟩

/-- What remains of a call that registers once it knows the array of commands and what to register: the function is
put at the next place, and the registration is taken down. However the call ends, that is noted. -/
def enrol (x : M (Value × Registration)) : M Unit := fun l =>
  { run := fun s =>
      match (x l).run s with
      | (.error e, t) => (.error e, t.refusing)
      | (.ok (slots, g), t) =>
        match (putMember slots (.ofIndex t.roll.names.size) g.function l).run t with
        | (.error e, u) => (.error e, u.refusing)
        | (.ok _, u) => (.ok (), t.registering slots g u)
    follows := fun s => by
      have hx := (x l).follows s
      rcases hs : (x l).run s with ⟨e | ⟨slots, g⟩, t⟩ <;> rw [hs] at hx
      · exact hx.trans (follows_refusing t)
      · have hput := (putMember slots (.ofIndex t.roll.names.size) g.function l).follows t
        dsimp only
        rcases h : (putMember slots (.ofIndex t.roll.names.size) g.function l).run t with ⟨e | _, u⟩
        · rw [h] at hput
          exact hx.trans (hput.trans (follows_refusing u))
        · exact hx.trans (follows_registering slots g l t u h)
    timely := fun s => by
      have hx := (x l).timely s
      rcases hs : (x l).run s with ⟨e | ⟨slots, g⟩, t⟩ <;> rw [hs] at hx
      · exact hx.trans ((sameClock_refusing t).timely _) fun he => by rw [Except.error.inj he]
      · have hput := hx.trans ((putMember slots (.ofIndex t.roll.names.size) g.function l).timely t) nofun
        dsimp only
        rcases h : (putMember slots (.ofIndex t.roll.names.size) g.function l).run t with ⟨e | _, u⟩ <;> rw [h] at hput
        · exact hput.trans ((sameClock_refusing u).timely _) fun he => by rw [Except.error.inj he]
        · exact hput.trans ((sameClock_registering t slots g u).timely _) nofun }

end M
end ApiStencil.Script
