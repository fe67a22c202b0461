import ApiStencil.Script.Convert
import ApiStencil.Script.Place
/-!
Steps of which it is known what they give. They read the store and may spend time; other than that they
do nothing, or change one array.
-/
set_option autoImplicit false

namespace ApiStencil.Script

/-- The same store with its clock at another count. -/
def Store.ticked (s : Store) (n : Nat) : Store := { s with polls := n }

theorem Store.getD_some {s : Store} {r : Nat} {o : Obj} (h : s.objects[r]? = some o) :
    s.objects.getD r default = o := by
  simp [h]

namespace Exec

variable {α β γ : Type}

theorem run_inj {x y : Exec α} (h : x.run = y.run) : x = y := by
  cases x
  cases y
  cases h
  rfl

theorem bind_run (x : Exec α) (f : α → Exec β) (s : Store) :
    (x >>= f).run s =
      match x.run s with
      | (.ok a, t) => (f a).run t
      | (.error e, t) => (.error e, t) := rfl

theorem map_id (x : Exec α) : id <$> x = x := by
  refine run_inj (funext fun s => ?_)
  rw [show id <$> x = x >>= pure from rfl, bind_run]
  rcases x.run s with ⟨e | a, t⟩ <;> rfl

theorem bind_bind (x : Exec α) (f : α → Exec β) (g : β → Exec γ) : x >>= f >>= g = x >>= fun a => f a >>= g := by
  refine run_inj (funext fun s => ?_)
  rw [bind_run, bind_run, bind_run]
  rcases x.run s with ⟨e | a, t⟩ <;> rfl

instance : LawfulMonad Exec := .mk' Exec map_id (fun _ _ => rfl) bind_bind

end Exec

namespace M

variable {α β : Type}

/-- Whatever the clock shows, the step gives `a` and turns `s` into `t`, unless time is up before. -/
def Gives (x : M α) (s : Store) (a : α) (t : Store) : Prop :=
  ∀ (l : Links) (n : Nat), ∃ m,
    (x l).run (s.ticked n) = (.ok a, t.ticked m) ∨
      (s.deadline ≠ none ∧ (x l).run (s.ticked n) = (.error .interrupted, s.ticked m))

theorem bind_run (x : M α) (f : α → M β) (l : Links) (s : Store) :
    ((x >>= f) l).run s =
      match (x l).run s with
      | (.ok a, t) => (f a l).run t
      | (.error e, t) => (.error e, t) := rfl

namespace Gives

theorem pure (a : α) (s : Store) : Gives (Pure.pure a) s a s :=
  fun _ n => ⟨n, .inl rfl⟩

theorem bind {x : M α} {f : α → M β} {s t : Store} {a : α} {b : β} (hx : Gives x s a s)
    (hf : Gives (f a) s b t) : Gives (x >>= f) s b t := by
  intro l n
  obtain ⟨m, h | ⟨hd, h⟩⟩ := hx l n
  · obtain ⟨k, hk⟩ := hf l m
    exact ⟨k, by rw [bind_run, h]; exact hk⟩
  · exact ⟨m, .inr ⟨hd, by rw [bind_run, h]⟩⟩

/-- What comes after a change must not spend any time. -/
theorem bind_pure {x : M α} {f : α → M β} {s t : Store} {a : α} {b : β} (hx : Gives x s a t)
    (hf : f a = Pure.pure b) : Gives (x >>= f) s b t := by
  intro l n
  obtain ⟨m, h | ⟨hd, h⟩⟩ := hx l n
  · refine ⟨m, .inl ?_⟩
    rw [bind_run, h]
    show (f a l).run (t.ticked m) = _
    rw [hf]
    rfl
  · exact ⟨m, .inr ⟨hd, by rw [bind_run, h]⟩⟩

end Gives

theorem gives_object (s : Store) (r : Nat) : Gives (object r) s (s.objects.getD r default) s :=
  fun _ n => ⟨n, .inl rfl⟩

theorem gives_kindOf (s : Store) (r : Nat) : Gives (kindOf r) s (s.objects.getD r default).kind s :=
  fun _ n => ⟨n, .inl rfl⟩

theorem gives_kind? {s : Store} {r : Nat} {o : Obj} (h : s.objects[r]? = some o) :
    Gives (kind? (.object r)) s (some o.kind) s := by
  refine (gives_kindOf s r).bind ?_
  rw [Store.getD_some h]
  exact .pure _ s

theorem gives_isCallable (s : Store) (v : Value) : Gives (isCallable v) s (s.canCall v) s := by
  cases v with
  | object r =>
    have hc : (some (s.objects.getD r default).kind).any Kind.callable = s.canCall (.object r) := by
      rw [Store.canCall, Array.getD_eq_getD_getElem?]
      cases s.objects[r]? <;> rfl
    rw [← hc]
    exact ((gives_kindOf s r).bind (.pure (some _) s)).bind (.pure _ s)
  | _ => exact .pure _ s

theorem gives_spend (s : Store) (time : Nat) : Gives (spend time) s () s := by
  intro l n
  refine ⟨n + time, ?_⟩
  simp only [spend, Exec.spend, Store.ticked]
  split
  · rename_i hup
    refine .inr ⟨fun hd => ?_, rfl⟩
    simp [hd] at hup
  · exact .inl rfl

theorem gives_spendOnSlots (s : Store) (o : Obj) : Gives (spendOnSlots o) s () s := by
  unfold spendOnSlots
  split
  · exact gives_spend s _
  · exact .pure () s

/-- A key under which an object holds nothing. -/
theorem gives_heldSlot?_none (s : Store) (r : Nat) {o : Obj} {k : Key} (h : o.slot? k = none) :
    Gives (heldSlot? r o k) s none s := by
  unfold heldSlot?
  refine (gives_spendOnSlots s o).bind ?_
  rw [h]
  exact .pure none s

/-- A key under which an object holds a value. -/
theorem gives_heldSlot?_data (s : Store) (r : Nat) {o : Obj} {k : Key} {i : Nat} {v : Value} {w e c : Bool}
    (h : o.slot? k = some (i, .data v w e c)) : Gives (heldSlot? r o k) s (some (.data v w e c)) s := by
  unfold heldSlot?
  refine (gives_spendOnSlots s o).bind ?_
  rw [h]
  exact (Gives.pure _ s).bind (.pure _ s)

theorem gives_modifyObject (s : Store) (r : Nat) (f : Obj → Obj)
    (hf : ∀ o, (f o).kind.callable = o.kind.callable) : Gives (modifyObject r f hf) s () (s.change r f) :=
  fun _ n => ⟨n, .inl rfl⟩

section Plain

variable {s : Store} {r : Nat} {k : Key} (hp : ∀ t q c d, (s.objects.getD r default).kind ≠ .proxy t q c d)

include hp

theorem gives_ownSlot?_of_plain {o : Option Slot} (h : Gives (plainSlot? r k) s o s) : Gives (ownSlot? r k) s o s := by
  show Gives (slotAt (999999 + 1) r k) s o s
  rw [slotAt]
  refine (gives_kindOf s r).bind ?_
  split
  · rename_i hk
    exact absurd hk (hp _ _ _ _)
  · exact h

theorem gives_getFrom_of_plain {v this : Value} (h : Gives (plainSlot? r k) s (some (shown v)) s) :
    Gives (getFrom r k this) s v s := by
  show Gives (getAt (999999 + 1) r k this) s v s
  rw [getAt]
  refine (gives_kindOf s r).bind ?_
  split
  · rename_i hk
    exact absurd hk (hp _ _ _ _)
  · exact h.bind (.pure v s)

theorem gives_define_of_plain {t : Store} {d : Draft} {b : Bool} (h : Gives (plainDefine r k d) s b t) :
    Gives (define r k d) s b t := by
  show Gives (defineAt (999999 + 1) r k d) s b t
  rw [defineAt]
  refine (gives_kindOf s r).bind ?_
  split
  · rename_i hk
    exact absurd hk (hp _ _ _ _)
  · exact h

theorem gives_ownKeys_of_plain {ks : List Key} (h : Gives (plainKeys r) s ks s) : Gives (ownKeys r) s ks s := by
  show Gives (keysAt (999999 + 1) r) s ks s
  rw [keysAt]
  refine (gives_kindOf s r).bind ?_
  split
  · rename_i hk
    exact absurd hk (hp _ _ _ _)
  · exact h

end Plain

section Loops

variable {κ : Type} {s : Store}

theorem gives_mapM {as : List κ} {f : κ → M β} {g : κ → β} (h : ∀ a ∈ as, Gives (f a) s (g a) s) :
    Gives (as.mapM f) s (as.map g) s := by
  induction as with
  | nil => exact .pure [] s
  | cons a as ih =>
    rw [List.mapM_cons]
    have hrest := ih fun b hb => h b (List.mem_cons_of_mem a hb)
    exact (h a List.mem_cons_self).bind (hrest.bind (.pure _ s))

/-- A search that finds something each time. -/
theorem gives_filterMapM {ι : Type} {as : List ι} {k : ι → κ} {f : κ → M (Option β)} {g : ι → β}
    (h : ∀ a ∈ as, Gives (f (k a)) s (some (g a)) s) : Gives ((as.map k).filterMapM f) s (as.map g) s := by
  induction as with
  | nil => exact .pure [] s
  | cons a as ih =>
    rw [List.map_cons, List.filterMapM_cons]
    have hrest := ih fun b hb => h b (List.mem_cons_of_mem a hb)
    exact (h a List.mem_cons_self).bind (hrest.bind (.pure _ s))

/-- A search that keeps everything. -/
theorem gives_filterM {as : List α} {p : α → M Bool} (h : ∀ a ∈ as, Gives (p a) s true s) :
    Gives (as.filterM p) s as s := by
  suffices haux : ∀ acc : List α, Gives (as.filterAuxM p acc) s (as.reverse ++ acc) s by
    unfold List.filterM
    refine (haux []).bind ?_
    rw [List.append_nil, List.reverse_reverse]
    exact .pure as s
  induction as with
  | nil => exact fun acc => .pure acc s
  | cons a as ih =>
    intro acc
    have hrest := ih (fun b hb => h b (List.mem_cons_of_mem a hb)) (a :: acc)
    rw [List.reverse_cons, List.append_assoc, List.singleton_append]
    exact (h a List.mem_cons_self).bind hrest

end Loops

end M
end ApiStencil.Script
