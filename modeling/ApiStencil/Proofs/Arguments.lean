import ApiStencil.Proofs.Registering
import ApiStencil.Proofs.RoundTrip
/-!
What a command is given. A JSON value becomes objects that are made for it: an object gets its fields defined, one
after the other, so nothing that it inherits can come in between. An array gets its elements assigned, and each
arrives unless something that all arrays inherit takes it.
-/
set_option autoImplicit false

namespace ApiStencil

namespace Json

/-- The names in each object are different, and none has a NUL. -/
inductive Keyed : Json → Prop
  | null : Keyed .null
  | bool (b : Bool) : Keyed (.bool b)
  | number (m : Number) : Keyed (.number m)
  | string (x : String) : Keyed (.string x)
  | array {items : List Json} (h : ∀ v ∈ items, Keyed v) : Keyed (.array items)
  | object {fields : List (String × Json)} (hn : (fields.map (·.1)).Nodup) (hz : ∀ f ∈ fields, '\x00' ∉ f.1.toList)
      (h : ∀ f ∈ fields, Keyed f.2) : Keyed (.object fields)

mutual

/-- The length of the longest array in a value. -/
def longest : Json → Nat
  | .array items => max items.length (longestOfItems items)
  | .object fields => longestOfFields fields
  | _ => 0

def longestOfItems : List Json → Nat
  | [] => 0
  | v :: rest => max (longest v) (longestOfItems rest)

def longestOfFields : List (String × Json) → Nat
  | [] => 0
  | (_, v) :: rest => max (longest v) (longestOfFields rest)

end

theorem placed_of_notMem {α : Type} {name : String} (a : α) {fields : List (String × α)}
    (h : name ∉ fields.map (·.1)) : placed name a fields = fields ++ [(name, a)] := by
  have hnone : (fields.findIdx? fun f => f.1 == name) = none := by
    refine List.findIdx?_eq_none_iff.mpr fun f hf => beq_eq_false_iff_ne.mpr fun he => ?_
    exact h (List.mem_map.mpr ⟨f, hf, he⟩)
  rw [placed_eq, hnone]

end Json

namespace Script

/-- The property of an object under a key, as far as it has been made. -/
def Obj.own? (o : Obj) (k : Key) : Option Slot :=
  let held := (o.slot? k).map (·.2)
  match o.kind with
  | .array items =>
    match k.index? with
    | some i => items[i]?.map M.shown
    | none => held
  | .text u =>
    match k.index?.bind fun i => u[i]? with
    | some c => some (.data (.text #[c]) false true false)
    | none => held
  | _ => held

/-- Whether an assignment that comes by an object is not a matter of its properties alone. -/
def Obj.meddles (o : Obj) : Bool :=
  match o.kind with
  | .proxy _ _ _ _ | .view _ _ _ _ => true
  | _ => false

namespace Store

/-- Whether an assignment under `k` is let through by `r` and what it inherits from, at most `n` objects in all: the
first property that is found there, if there is one, is a value that may be written. -/
def lets (s : Store) (k : Key) : Nat → Nat → Bool
  | 0, _ => false
  | n + 1, r =>
    match s.objects[r]? with
    | none => false
    | some o => !o.meddles &&
      match o.own? k with
      | some (.data _ writable _ _) => writable
      | some _ => false
      | none => o.proto.all (s.lets k n)

/-- Whether an array can be assigned an element at a place where it has none. -/
def Open (s : Store) (i : Nat) : Prop := s.lets (.ofIndex i) (M.reach - 1) arrayProto = true

theorem lets_grows {b s : Store} (g : b.Grows s b.objects.size) {k : Key} {n r : Nat} (h : b.lets k n r = true) :
    s.lets k n r = true := by
  induction n generalizing r with
  | zero => exact h
  | succ n ih =>
    rw [lets] at h ⊢
    cases ho : b.objects[r]? with
    | none => simp [ho] at h
    | some o =>
      have hlt := lt_size ho
      rw [g.same r hlt (Nat.ne_of_lt hlt), ho]
      rw [ho] at h
      dsimp only at h ⊢
      rw [Bool.and_eq_true] at h ⊢
      refine ⟨h.1, ?_⟩
      have hrest := h.2
      cases hown : o.own? k with
      | some p =>
        rw [hown] at hrest
        cases p <;> exact hrest
      | none =>
        rw [hown] at hrest
        exact Option.all_eq_true .. |>.mpr fun p hp => ih (Option.all_eq_true .. |>.mp hrest p hp)

/-- What has been added to a store may change. -/
theorem Grows.above {b s t : Store} {r : Nat} (g : b.Grows s b.objects.size) (h : s.Grows t r)
    (hr : b.objects.size ≤ r) : b.Grows t b.objects.size where
  deadline := h.deadline.trans g.deadline
  size := Nat.le_trans g.size h.size
  same := fun q hq hne => (h.same q (Nat.lt_of_lt_of_le hq g.size) (by omega)).trans (g.same q hq hne)

/-- A value stands for a JSON value: its objects are objects from `lo` on, those of its elements and fields stand
behind it, an array has just the elements, and an object just the fields, in their order. -/
inductive Mirrors (s : Store) : Nat → Json → Value → Prop
  | null {lo : Nat} : Mirrors s lo .null .null
  | bool {lo : Nat} (b : Bool) : Mirrors s lo (.bool b) (.bool b)
  | number {lo : Nat} (m : Number) : Mirrors s lo (.number m) (.number m.toFloat)
  | string {lo : Nat} (x : String) : Mirrors s lo (.string x) (.ofString x)
  | array {lo r : Nat} (ps : List (Json × Value)) (new : lo ≤ r)
      (object : s.objects[r]? = some (laidArray (ps.map (·.2)))) (items : ∀ p ∈ ps, Mirrors s (r + 1) p.1 p.2) :
      Mirrors s lo (.array (ps.map (·.1))) (.object r)
  | object {lo r : Nat} (fs : List (String × Json × Value)) (new : lo ≤ r)
      (object : s.objects[r]? = some (laidObject (fs.map (Prod.map id Prod.snd))))
      (items : ∀ f ∈ fs, Mirrors s (r + 1) f.2.1 f.2.2) :
      Mirrors s lo (.object (fs.map (Prod.map id Prod.fst))) (.object r)

theorem Mirrors.grows {s t : Store} {lo r : Nat} {v : Json} {a : Value} (h : s.Mirrors lo v a) (g : s.Grows t r)
    (hr : r < lo) : t.Mirrors lo v a := by
  have same {q : Nat} {o : Obj} (hq : r < q) (ho : s.objects[q]? = some o) : t.objects[q]? = some o :=
    (g.same q (lt_size ho) (Nat.ne_of_gt hq)).trans ho
  induction h with
  | null => exact .null
  | bool b => exact .bool b
  | number m => exact .number m
  | string x => exact .string x
  | array ps new object _ ih =>
    exact .array ps new (same (by omega) object) fun p hp => ih p hp (by omega)
  | object fs new object _ ih =>
    exact .object fs new (same (by omega) object) fun f hf => ih f hf (by omega)

theorem Mirrors.lower {s : Store} {lo lo' : Nat} {v : Json} {a : Value} (h : s.Mirrors lo v a) (hl : lo' ≤ lo) :
    s.Mirrors lo' v a := by
  cases h with
  | null => exact .null
  | bool b => exact .bool b
  | number m => exact .number m
  | string x => exact .string x
  | array ps new object items => exact .array ps (Nat.le_trans hl new) object items
  | object fs new object items => exact .object fs (Nat.le_trans hl new) object items

/-- The array `r` has been given these values, each for the JSON beside it. -/
structure LaysItems (s : Store) (r : Nat) (ps : List (Json × Value)) : Prop where
  object : s.objects[r]? = some (laidArray (ps.map (·.2)))
  items : ∀ p ∈ ps, s.Mirrors (r + 1) p.1 p.2

/-- The object `r` has been given these fields, each value for the JSON beside it. -/
structure LaysFields (s : Store) (r : Nat) (fs : List (String × Json × Value)) : Prop where
  object : s.objects[r]? = some (laidObject (fs.map (Prod.map id Prod.snd)))
  items : ∀ f ∈ fs, s.Mirrors (r + 1) f.2.1 f.2.2

section Put

variable {s t : Store} {r : Nat} {v : Json} {a : Value} (g : s.Grows t s.objects.size)
  (ha : t.Mirrors s.objects.size v a)

include g ha

/-- The values of an array are not touched when it is given one more, and that has been made behind it. -/
theorem LaysItems.put {ps : List (Json × Value)} (h : s.LaysItems r ps) :
    (t.change r fun _ => laidArray (ps.map (·.2) ++ [a])).LaysItems r (ps ++ [(v, a)]) := by
  have hlt := lt_size h.object
  have ho := (g.same r hlt (Nat.ne_of_lt hlt)).trans h.object
  refine ⟨by rw [getElem?_change ho]; simp, fun p hp => ?_⟩
  rcases List.mem_append.mp hp with hp | hp
  · exact ((h.items p hp).grows (g.of_new r) (Nat.lt_succ_self r)).grows (.change t r _) (Nat.lt_succ_self r)
  · obtain rfl := List.mem_singleton.mp hp
    exact (ha.lower hlt).grows (.change t r _) (Nat.lt_succ_self r)

theorem LaysFields.put {fs : List (String × Json × Value)} (h : s.LaysFields r fs) (name : String) :
    (t.change r fun _ => laidObject (fs.map (Prod.map id Prod.snd) ++ [(name, a)])).LaysFields r
      (fs ++ [(name, v, a)]) := by
  have hlt := lt_size h.object
  have ho := (g.same r hlt (Nat.ne_of_lt hlt)).trans h.object
  refine ⟨by rw [getElem?_change ho]; simp, fun f hf => ?_⟩
  rcases List.mem_append.mp hf with hf | hf
  · exact ((h.items f hf).grows (g.of_new r) (Nat.lt_succ_self r)).grows (.change t r _) (Nat.lt_succ_self r)
  · obtain rfl := List.mem_singleton.mp hf
    exact (ha.lower hlt).grows (.change t r _) (Nat.lt_succ_self r)

end Put

end Store

namespace M

variable {α β : Type}

/-- Whatever can be called and whatever the clock shows, the step gives `a` and turns `s` into `t`, unless a time is
set and is up before. -/
def Comes (x : M α) (s : Store) (a : α) (t : Store) : Prop :=
  ∀ (l : Links) (n : Nat), (∃ m, (x l).run (s.ticked n) = (.ok a, t.ticked m)) ∨
    s.deadline ≠ none ∧ ∃ u, (x l).run (s.ticked n) = (.error .interrupted, u)

theorem Gives.comes {x : M α} {s t : Store} {a : α} (h : Gives x s a t) : Comes x s a t := by
  intro l n
  obtain ⟨m, hm | ⟨hd, hm⟩⟩ := h l n
  · exact .inl ⟨m, hm⟩
  · exact .inr ⟨hd, _, hm⟩

theorem Turns.comes {x : M α} {s t : Store} {a : α} (h : Turns x s a t) : Comes x s a t := fun l n => .inl (h l n)

theorem Comes.bind {x : M α} {f : α → M β} {s t u : Store} {a : α} {b : β} (hx : Comes x s a t)
    (hd : t.deadline = s.deadline) (hf : Comes (f a) t b u) : Comes (x >>= f) s b u := by
  intro l n
  rcases hx l n with ⟨m, hm⟩ | ⟨hset, v, hv⟩
  · rcases hf l m with ⟨k, hk⟩ | ⟨hset, v, hv⟩
    · exact .inl ⟨k, by rw [bind_run, hm]; exact hk⟩
    · exact .inr ⟨by rwa [hd] at hset, v, by rw [bind_run, hm]; exact hv⟩
  · exact .inr ⟨hset, v, by rw [bind_run, hv]⟩

theorem gives_plainSlot?_of_own {s : Store} {r : Nat} {o : Obj} {k : Key} (ho : s.objects[r]? = some o)
    (hm : o.meddles = false) (hk : k ≠ lengthKey)
    (hown : o.own? k = none ∨ ∃ v w e c, o.own? k = some (.data v w e c)) :
    Gives (plainSlot? r k) s (o.own? k) s := by
  have hne : (k == lengthKey) = false := beq_eq_false_iff_ne.mpr hk
  have held (h : o.own? k = (o.slot? k).map (·.2)) : Gives (heldSlot? r o k) s (o.own? k) s := by
    rcases hown with hnone | ⟨v, w, e, c, hdata⟩
    · rw [hnone]
      rw [h, Option.map_eq_none_iff] at hnone
      exact gives_heldSlot?_none s r hnone
    · rw [hdata]
      rw [h, Option.map_eq_some_iff] at hdata
      obtain ⟨⟨i, -⟩, hslot, rfl⟩ := hdata
      exact gives_heldSlot?_data s r hslot
  -- elements of arrays and texts come before what the object holds
  unfold plainSlot?
  refine (gives_object s r).bind ?_
  rw [Store.getD_some ho]
  cases hkind : o.kind with
  | array items =>
    simp only [hne]
    cases hi : k.index? with
    | none => exact held (by simp [Obj.own?, hkind, hi])
    | some i =>
      have hitem : o.own? k = items[i]?.map shown := by simp [Obj.own?, hkind, hi]
      rw [hitem, if_neg Bool.false_ne_true]
      dsimp only
      cases items[i]? with
      | none => exact .pure none s
      | some v => exact .pure (some (shown v)) s
  | text u =>
    simp only [hne]
    cases hi : k.index?.bind fun i => u[i]? with
    | none => exact held (by simp [Obj.own?, hkind, hi])
    | some c =>
      have hunit : o.own? k = some (.data (.text #[c]) false true false) := by simp [Obj.own?, hkind, hi]
      rw [hunit]
      exact .pure _ s
  | sparse n fixed =>
    simp only [hne]
    exact held (by simp [Obj.own?, hkind])
  | view t b p l => simp [Obj.meddles, hkind] at hm
  | _ => exact held (by simp [Obj.own?, hkind])

/-- What is let through comes to the object that was assigned to. -/
theorem gives_setAt_of_lets {s t : Store} {store : StoreElement} {i n r : Nat} {v this : Value} {x : Outcome}
    (h : s.lets (.ofIndex i) n r = true) (put : Gives (putOwn this (.ofIndex i) v) s x t) :
    Gives (setAt store n r (.ofIndex i) v this) s x t := by
  -- induction on how far up the prototypes the assignment goes
  induction n generalizing r with
  | zero => simp [Store.lets] at h
  | succ n ih =>
    rw [Store.lets] at h
    cases ho : s.objects[r]? with
    | none => simp [ho] at h
    | some o =>
      simp only [ho, Bool.and_eq_true, Bool.not_eq_true'] at h
      obtain ⟨hm, hlets⟩ := h
      have hd := Store.getD_some ho
      have hproxy : ∀ t q c d, (s.objects.getD r default).kind ≠ .proxy t q c d := by
        intro t q c d hk
        rw [hd] at hk
        simp [Obj.meddles, hk] at hm
      have hview : ∀ t b p l, (s.objects.getD r default).kind ≠ .view t b p l := by
        intro t b p l hk
        rw [hd] at hk
        simp [Obj.meddles, hk] at hm
      have own := gives_plainSlot?_of_own ho hm (Key.ofIndex_ne_length i)
      refine gives_setAt_of_plain hproxy hview ?_
      cases hown : o.own? (.ofIndex i) with
      | none =>
        simp only [hown] at hlets own
        refine (own (.inl trivial)).bind ((gives_object s r).bind ?_)
        rw [hd]
        cases hp : o.proto with
        | none => exact put
        | some p => exact ih (by simpa [hp] using hlets)
      | some slot =>
        cases slot with
        | data w writable e c =>
          simp only [hown] at hlets own
          obtain rfl : writable = true := hlets
          exact (own (.inr ⟨w, true, e, c, rfl⟩)).bind put
        | _ => simp [hown] at hlets

/-- The next element of an array, if no array inherits anything that takes it. -/
theorem gives_putMember_of_open {s : Store} {r : Nat} {vs : List Value} (hs : s.Open vs.length)
    (ho : s.objects[r]? = some (laidArray vs)) (v : Value) :
    Gives (putMember (.object r) (.ofIndex vs.length) v) s () (s.change r fun _ => laidArray (vs ++ [v])) :=
  gives_putMember_behind ho fun _ => gives_setAt_of_lets hs (gives_putOwn_next ho v)

/-- A field that an object does not have yet. -/
theorem gives_define_new {s : Store} {r : Nat} {fields : List (String × Value)}
    (ho : s.objects[r]? = some (laidObject fields)) {name : String} (hn : name ∉ fields.map (·.1))
    (hz : '\x00' ∉ name.toList) (v : Value) :
    Gives (define r (.name (fieldName (txt name))) (.shown v)) s true
      (s.change r fun _ => laidObject (fields ++ [(name, v)])) := by
  have h := gives_define_field ho name v
  rw [Json.placed_of_notMem v hn] at h
  rw [Units.fieldName_txt, Units.cut_of_notMem hz]
  exact h

mutual

/-- A value is laid out in objects of its own behind all others, in a store in which elements come through. -/
theorem comes_ofJson : ∀ (v : Json) {b s : Store}, v.Keyed → (∀ i < v.longest, b.Open i) →
    b.Grows s b.objects.size →
    ∃ a t, Comes (ofJson v) s a t ∧ s.Grows t s.objects.size ∧ t.Mirrors s.objects.size v a
  | .null, _, s, _, _, _ => ⟨.null, s, (Gives.pure _ s).comes, .refl s _, .null⟩
  | .bool x, _, s, _, _, _ => ⟨.bool x, s, (Gives.pure _ s).comes, .refl s _, .bool x⟩
  | .number m, _, s, _, _, _ => ⟨.number m.toFloat, s, (Gives.pure _ s).comes, .refl s _, .number m⟩
  | .string x, _, s, _, _, _ => ⟨.ofString x, s, (Gives.pure _ s).comes, .refl s _, .string x⟩
  | .array items, b, s, hv, hopen, hb => by
    have hnew := Store.Grows.joined s (laidArray [])
    have hkeyed : ∀ v ∈ items, v.Keyed := by
      cases hv with
      | array h => exact h
    obtain ⟨t, ps, hcomes, hgrows, hlays, hitems⟩ :=
      comes_putItems items [] (b := b) (s := s.joined (laidArray [])) (r := s.objects.size) hkeyed
        (fun i hi => hopen i (by rw [Json.longest]; simp only [List.length_nil, Nat.zero_add] at hi; omega))
        (fun i hi => hopen i (by rw [Json.longest]; omega))
        (hb.above hnew hb.size) hb.size ⟨by simp [Store.joined], by simp⟩
    refine ⟨.object s.objects.size, t, ?_, hnew.trans hgrows, ?_⟩
    · rw [ofJson]
      exact (turns_newArray s).comes.bind rfl (hcomes.bind hgrows.deadline (Gives.pure _ t).comes)
    · rw [← show ps.map (·.1) = items by simpa using hitems]
      exact .array ps (Nat.le_refl _) hlays.object hlays.items
  | .object fields, b, s, hv, hopen, hb => by
    have hnew := Store.Grows.joined s (laidObject [])
    have hkeyed : (fields.map (·.1)).Nodup ∧ (∀ f ∈ fields, '\x00' ∉ f.1.toList) ∧ ∀ f ∈ fields, f.2.Keyed := by
      cases hv with
      | object hn hz h => exact ⟨hn, hz, h⟩
    obtain ⟨t, fs, hcomes, hgrows, hlays, hfields⟩ :=
      comes_defineFields fields [] (b := b) (s := s.joined (laidObject [])) (r := s.objects.size)
        (by simpa using hkeyed.1) hkeyed.2.1 hkeyed.2.2 hopen (hb.above hnew hb.size) hb.size
        ⟨by simp [Store.joined], by simp⟩
    refine ⟨.object s.objects.size, t, ?_, hnew.trans hgrows, ?_⟩
    · rw [ofJson]
      exact (turns_newObject s).comes.bind rfl (hcomes.bind hgrows.deadline (Gives.pure _ t).comes)
    · rw [← show fs.map (Prod.map id Prod.fst) = fields by simpa using hfields]
      exact .object fs (Nat.le_refl _) hlays.object hlays.items

theorem comes_putItems : ∀ (items : List Json) (ps : List (Json × Value)) {b s : Store} {r : Nat},
    (∀ v ∈ items, v.Keyed) → (∀ i < ps.length + items.length, b.Open i) →
    (∀ i < Json.longestOfItems items, b.Open i) → b.Grows s b.objects.size → b.objects.size ≤ r → s.LaysItems r ps →
    ∃ t ps', Comes (putItems r ps.length items) s () t ∧ s.Grows t r ∧ t.LaysItems r ps' ∧
      ps'.map (·.1) = ps.map (·.1) ++ items
  | [], ps, _, s, r, _, _, _, _, _, h => ⟨s, ps, (Gives.pure _ s).comes, .refl s _, h, (List.append_nil _).symm⟩
  | item :: rest, ps, b, s, r, hkeyed, hplaces, hopen, hb, hr, h => by
    obtain ⟨a, t, hcomes, hgrows, ha⟩ := comes_ofJson item (hkeyed item List.mem_cons_self)
      (fun i hi => hopen i (by rw [Json.longestOfItems]; omega)) hb
    have hlt := Store.lt_size h.object
    have ho := (hgrows.same r hlt (Nat.ne_of_lt hlt)).trans h.object
    have ht := hb.above (hgrows.of_new r) hr
    have put := gives_putMember_of_open
      (Store.lets_grows ht (hplaces (ps.map (·.2)).length (by rw [List.length_map, List.length_cons]; omega))) ho a
    have hchange := Store.Grows.change t r fun _ => laidArray (ps.map (·.2) ++ [a])
    obtain ⟨u, ps', hrest, hgrows', hlays, hitems⟩ :=
      comes_putItems rest (ps ++ [(item, a)]) (fun v hv => hkeyed v (List.mem_cons_of_mem _ hv))
        (fun i hi => hplaces i (by simp only [List.length_append, List.length_cons, List.length_nil] at hi ⊢; omega))
        (fun i hi => hopen i (by rw [Json.longestOfItems]; omega)) (ht.above hchange hr) hr (h.put hgrows ha)
    rw [List.length_append, List.length_singleton] at hrest
    rw [List.length_map] at put
    refine ⟨u, ps', ?_, ((hgrows.of_new r).trans hchange).trans hgrows', hlays, ?_⟩
    · rw [putItems]
      exact hcomes.bind hgrows.deadline (put.comes.bind rfl hrest)
    · rw [hitems, List.map_append, List.append_assoc]
      rfl

theorem comes_defineFields : ∀ (fields : List (String × Json)) (fs : List (String × Json × Value)) {b s : Store}
    {r : Nat}, ((fs.map (·.1)) ++ fields.map (·.1)).Nodup →
    (∀ f ∈ fields, '\x00' ∉ f.1.toList) → (∀ f ∈ fields, f.2.Keyed) →
    (∀ i < Json.longestOfFields fields, b.Open i) → b.Grows s b.objects.size → b.objects.size ≤ r →
    s.LaysFields r fs →
    ∃ t fs', Comes (defineFields r fields) s () t ∧ s.Grows t r ∧ t.LaysFields r fs' ∧
      fs'.map (Prod.map id Prod.fst) = fs.map (Prod.map id Prod.fst) ++ fields
  | [], fs, _, s, r, _, _, _, _, _, _, h =>
    ⟨s, fs, (Gives.pure _ s).comes, .refl s _, h, (List.append_nil _).symm⟩
  | (name, item) :: rest, fs, b, s, r, hnodup, hz, hkeyed, hopen, hb, hr, h => by
    obtain ⟨a, t, hcomes, hgrows, ha⟩ := comes_ofJson item (hkeyed _ List.mem_cons_self)
      (fun i hi => hopen i (by rw [Json.longestOfFields]; omega)) hb
    have hlt := Store.lt_size h.object
    have ho := (hgrows.same r hlt (Nat.ne_of_lt hlt)).trans h.object
    have ht := hb.above (hgrows.of_new r) hr
    have hname : name ∉ (fs.map (Prod.map id Prod.snd)).map (·.1) := by
      rw [Json.names_map]
      exact fun hmem => (List.nodup_append.mp hnodup).2.2 name hmem name List.mem_cons_self rfl
    have defined := gives_define_new ho hname (hz _ List.mem_cons_self) a
    have hchange := Store.Grows.change t r fun _ => laidObject (fs.map (Prod.map id Prod.snd) ++ [(name, a)])
    obtain ⟨u, fs', hrest, hgrows', hlays, hfields⟩ :=
      comes_defineFields rest (fs ++ [(name, item, a)]) (by simpa using hnodup)
        (fun f hf => hz f (List.mem_cons_of_mem _ hf)) (fun f hf => hkeyed f (List.mem_cons_of_mem _ hf))
        (fun i hi => hopen i (by rw [Json.longestOfFields]; omega)) (ht.above hchange hr) hr (h.put hgrows ha name)
    refine ⟨u, fs', ?_, ((hgrows.of_new r).trans hchange).trans hgrows', hlays, ?_⟩
    · rw [defineFields]
      exact hcomes.bind hgrows.deadline (defined.comes.bind rfl hrest)
    · rw [hfields, List.map_append, List.append_assoc]
      rfl

end

end M

/-- Handing over a JSON value calls nothing and leaves every object as it was. What comes of it are new objects: each
object has just the fields of the value, whatever they are called and whatever it inherits, and each array has just
the elements, if what all arrays inherit lets them through. -/
theorem Store.given_mirrors {v : Json} (hv : v.Keyed) {s : Store} (hopen : ∀ i < v.longest, s.Open i) :
    ∃ a t, M.Comes (M.ofJson v) s a t ∧ s.Grows t s.objects.size ∧ t.Mirrors s.objects.size v a :=
  M.comes_ofJson v hv hopen (.refl s _)

namespace Realm

instance (s : Store) (i : Nat) : Decidable (s.Open i) := inferInstanceAs (Decidable (_ = true))

/-- What a script leaves behind. -/
def leftBy (source : String) : Store := (perform none fresh (runScript source)).2

theorem leftBy_stocked (source : String) : leftBy source = (perform none stocked (runScript source)).2 := by
  rw [leftBy, fresh_stocked]

/-- A script that has objects inherit a setter and a name that is only read, and arrays an element. -/
def meddling : String :=
  "Object.defineProperty(Object.prototype, '__proto__', \x7b set(v) \x7b throw v \x7d \x7d);" ++
    "Object.defineProperty(Object.prototype, 'constructor', \x7b value: 1, writable: false \x7d);" ++
    "Array.prototype[0] = 'inherited'"

def odd : Json := .object [("10", .array [.null]), ("__proto__", .object [("constructor", .bool true)])]

theorem odd_keyed : odd.Keyed := by
  have inner : (Json.object [("constructor", .bool true)]).Keyed := by
    refine .object (by decide) (by decide) fun f hf => ?_
    obtain rfl := List.mem_singleton.mp hf
    exact .bool true
  have items : (Json.array [.null]).Keyed := by
    refine .array fun v hv => ?_
    obtain rfl := List.mem_singleton.mp hv
    exact .null
  refine .object (by decide) (by decide) fun f hf => ?_
  simp only [List.mem_cons, List.not_mem_nil, or_false] at hf
  rcases hf with rfl | rfl
  · exact items
  · exact inner

set_option maxRecDepth 100000 in
theorem meddling_open : ∀ i < odd.longest, (leftBy meddling).Open i := by
  rw [leftBy_stocked]
  decide +kernel

theorem odd_mirrored : odd.Keyed ∧ (∀ i < odd.longest, (leftBy meddling).Open i) ∧
    ∃ a t, M.Comes (M.ofJson odd) (leftBy meddling) a t ∧
      (leftBy meddling).Grows t (leftBy meddling).objects.size ∧ t.Mirrors (leftBy meddling).objects.size odd a :=
  ⟨odd_keyed, meddling_open, Store.given_mirrors odd_keyed meddling_open⟩

/-- A script that has arrays inherit a setter. -/
def swallowing : String :=
  "registerTemplateCommand('f', a => a);" ++
    "Object.defineProperty(Array.prototype, '0', \x7b set(v) \x7b\x7d, configurable: true \x7d)"

def single : Json := .array [.number (.int 1)]

/-- Whether a value that has come of a step is an array without elements. -/
def isBare (done : Except Abrupt Value × Store) : Bool :=
  match done with
  | (.ok (.object r), t) => t.objects[r]?.any fun o => match o.kind with
    | .array items => items.isEmpty
    | _ => false
  | _ => false

set_option maxRecDepth 100000 in
theorem single_bare : isBare (perform none (leftBy swallowing) (M.ofJson single)) = true := by
  rw [leftBy_stocked]
  decide +kernel

theorem not_mirrors_of_isBare {x : Except Abrupt Value × Store} (h : isBare x = true) :
    ∃ a t, x = (.ok a, t) ∧ ∀ lo, ¬t.Mirrors lo single a := by
  unfold isBare at h
  split at h
  · rename_i r t
    refine ⟨_, t, rfl, fun lo hm => ?_⟩
    generalize hs : single = v at hm
    cases hm with
    | array ps new object items =>
      obtain ⟨p, rfl⟩ : ∃ p, ps = [p] := by
        rw [← List.length_eq_one_iff, ← List.length_map (f := (·.1))]
        injection hs with hs
        rw [← hs]
        rfl
      rw [object] at h
      simp [laidArray, Store.maxElements] at h
    | object fs => cases hs
  · exact absurd h (by simp)

/-- The element of an array is lost where all arrays inherit a setter. -/
theorem element_lost : ∃ a t, perform none (leftBy swallowing) (M.ofJson single) = (.ok a, t) ∧
    ∀ lo, ¬t.Mirrors lo single a :=
  not_mirrors_of_isBare single_bare

end Realm
end Script
end ApiStencil
