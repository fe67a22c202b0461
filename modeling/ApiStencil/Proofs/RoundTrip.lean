import ApiStencil.Proofs.Marshalling
import ApiStencil.Proofs.Shelf
/-!
JSON values handed to a script and back. A value that has been handed over stands in objects of its own, which
nothing else leads to; whatever store has these objects as they are hands the value back.
-/
set_option autoImplicit false

namespace ApiStencil.Script

namespace Store

/-- A store with one more object. -/
def joined (s : Store) (o : Obj) : Store := { s with objects := s.objects.push o }

/-- A store with more objects, in which of the others at most `r` has changed. -/
structure Grows (s t : Store) (r : Nat) : Prop where
  deadline : t.deadline = s.deadline
  size : s.objects.size ≤ t.objects.size
  same : ∀ q < s.objects.size, q ≠ r → t.objects[q]? = s.objects[q]?

namespace Grows

variable {s t u : Store} {r : Nat}

theorem refl (s : Store) (r : Nat) : s.Grows s r := ⟨rfl, Nat.le_refl _, fun _ _ _ => rfl⟩

theorem trans (h : s.Grows t r) (k : t.Grows u r) : s.Grows u r where
  deadline := k.deadline.trans h.deadline
  size := Nat.le_trans h.size k.size
  same := fun q hq hne => (k.same q (Nat.lt_of_lt_of_le hq h.size) hne).trans (h.same q hq hne)

/-- Where all that stood there before is the same, any object may count as the one that has changed. -/
theorem of_new (h : s.Grows t s.objects.size) (r : Nat) : s.Grows t r :=
  ⟨h.deadline, h.size, fun q hq _ => h.same q hq (Nat.ne_of_lt hq)⟩

theorem joined (s : Store) (o : Obj) : s.Grows (s.joined o) s.objects.size := by
  refine ⟨rfl, by simp [Store.joined], fun q hq _ => ?_⟩
  rw [Store.joined, Array.getElem?_push, if_neg (Nat.ne_of_lt hq)]

theorem change (s : Store) (r : Nat) (f : Obj → Obj) : s.Grows (s.change r f) r :=
  ⟨rfl, by simp [Store.change], fun _ _ hne => Array.getElem?_modify.trans (if_neg (Ne.symm hne))⟩

end Grows

theorem lt_size {s : Store} {r : Nat} {o : Obj} (h : s.objects[r]? = some o) : r < s.objects.size :=
  (Array.getElem?_eq_some_iff.mp h).1

theorem Ready.grows {s t : Store} {r : Nat} (hs : s.Ready) (h : s.Grows t r) (ha : arrayProto ≠ r)
    (ho : objectProto ≠ r) : t.Ready := by
  obtain ⟨a, hget, hrest⟩ := hs.array
  obtain ⟨o, hget', hrest'⟩ := hs.object
  exact ⟨h.deadline.trans hs.timeless, ⟨a, (h.same _ (lt_size hget) ha).trans hget, hrest⟩,
    ⟨o, (h.same _ (lt_size hget') ho).trans hget', hrest'⟩⟩

theorem Ready.ne_new {s : Store} (hs : s.Ready) : arrayProto ≠ s.objects.size ∧ objectProto ≠ s.objects.size := by
  obtain ⟨a, hget, -⟩ := hs.array
  obtain ⟨o, hget', -⟩ := hs.object
  exact ⟨Nat.ne_of_lt (lt_size hget), Nat.ne_of_lt (lt_size hget')⟩

/-- The objects of `s` from `lo` on are objects of `u`. -/
def Agrees (s u : Store) (lo : Nat) : Prop := ∀ r, lo ≤ r → r < s.objects.size → u.objects[r]? = s.objects[r]?

/-- Wherever the objects of `s` from `lo` on are found, `v` is handed back as `w`, and a field with it is not
passed over. -/
structure HandsBack (s : Store) (lo : Nat) (v : Value) (w : Json) : Prop where
  defined : v ≠ .undefined
  passive : ∀ u, s.Agrees u lo → u.canCall v = false
  json : ∀ u, s.Agrees u lo → ∀ n, s.objects.size - lo < n → M.Gives (M.toJson n v) u w u

theorem HandsBack.grows {s t : Store} {lo r : Nat} {v : Value} {w : Json} (h : s.HandsBack lo v w) (g : s.Grows t r)
    (hr : r < lo) : t.HandsBack lo v w := by
  have agrees {u : Store} (hu : t.Agrees u lo) : s.Agrees u lo := by
    intro q hlo hq
    rw [hu q hlo (Nat.lt_of_lt_of_le hq g.size), g.same q hq (by omega)]
  have := g.size
  exact ⟨h.defined, fun u hu => h.passive u (agrees hu), fun u hu n hn => h.json u (agrees hu) n (by omega)⟩

theorem HandsBack.lower {s : Store} {lo lo' : Nat} {v : Value} {w : Json} (h : s.HandsBack lo v w) (hl : lo' ≤ lo) :
    s.HandsBack lo' v w := by
  have agrees {u : Store} (hu : s.Agrees u lo') : s.Agrees u lo := fun q hlo hq => hu q (Nat.le_trans hl hlo) hq
  exact ⟨h.defined, fun u hu => h.passive u (agrees hu), fun u hu n hn => h.json u (agrees hu) n (by omega)⟩

theorem HandsBack.of_plain {s : Store} {lo : Nat} {v : Value} {w : Json} (hd : v ≠ .undefined)
    (hc : ∀ u : Store, u.canCall v = false) (h : ∀ n u, M.Gives (M.toJson (n + 1) v) u w u) : s.HandsBack lo v w := by
  refine ⟨hd, fun u _ => hc u, fun u _ n hn => ?_⟩
  obtain ⟨n, rfl⟩ := Nat.exists_eq_succ_of_ne_zero (show n ≠ 0 by omega)
  exact h n u

/-- The array `r` has been given these values, which are handed back as the JSON beside them. -/
structure HoldsItems (s : Store) (r : Nat) (ps : List (Value × Json)) : Prop where
  object : s.objects[r]? = some (laidArray (ps.map (·.1)))
  items : ∀ p ∈ ps, s.HandsBack (r + 1) p.1 p.2

/-- The object `r` has these fields, whose values are handed back as the JSON beside them. -/
structure HoldsFields (s : Store) (r : Nat) (fields : List (String × Value × Json)) : Prop where
  object : s.objects[r]? = some (laidObject (fields.map (Prod.map id Prod.fst)))
  names : (fields.map (·.1)).Nodup
  cut : ∀ f ∈ fields, Units.cut f.1 = f.1
  items : ∀ f ∈ fields, s.HandsBack (r + 1) f.2.1 f.2.2

theorem Agrees.above {s u : Store} {r : Nat} (h : s.Agrees u r) : s.Agrees u (r + 1) :=
  fun q hlo hq => h q (by omega) hq

theorem HoldsItems.handsBack {s : Store} {r : Nat} {ps : List (Value × Json)} (h : s.HoldsItems r ps) :
    s.HandsBack r (.object r) (.array ((ps.map (·.2)).take maxElements)) := by
  have hlt := lt_size h.object
  refine ⟨by simp, fun u hu => ?_, fun u hu n hn => ?_⟩
  · have ho := (hu r (Nat.le_refl r) hlt).trans h.object
    simp [canCall, ho, laidArray, Kind.callable]
  · have ho := (hu r (Nat.le_refl r) hlt).trans h.object
    obtain ⟨n, rfl⟩ := Nat.exists_eq_succ_of_ne_zero (show n ≠ 0 by omega)
    exact M.gives_toJson_array ho fun p hp => (h.items p hp).json u hu.above n (by omega)

theorem HoldsFields.handsBack {s : Store} {r : Nat} {fields : List (String × Value × Json)}
    (h : s.HoldsFields r fields) :
    s.HandsBack r (.object r) (.ofFields (fields.map (Prod.map id Prod.snd))) := by
  have hlt := lt_size h.object
  refine ⟨by simp, fun u hu => ?_, fun u hu n hn => ?_⟩
  · have ho := (hu r (Nat.le_refl r) hlt).trans h.object
    simp [canCall, ho, laidObject, Kind.callable]
  · have ho := (hu r (Nat.le_refl r) hlt).trans h.object
    obtain ⟨n, rfl⟩ := Nat.exists_eq_succ_of_ne_zero (show n ≠ 0 by omega)
    refine M.gives_toJson_object ho h.names h.cut (fun f hf => ?_) fun f hf => ?_
    · exact ⟨(h.items f hf).defined, (h.items f hf).passive u hu.above⟩
    · exact (h.items f hf).json u hu.above n (by omega)

section Put

variable {s t : Store} {r : Nat} {a : Value} {w : Json} (hgrows : s.Grows t s.objects.size)
  (ha : t.HandsBack s.objects.size a w)

theorem getElem?_change {o : Obj} (ho : t.objects[r]? = some o) (p : Obj) :
    (t.change r fun _ => p).objects[r]? = some p := by
  refine Array.getElem?_modify.trans ?_
  rw [if_pos rfl, ho]
  rfl

include hgrows ha

/-- An array is given one more value, once that has been made. -/
theorem HoldsItems.put {ps : List (Value × Json)} (h : s.HoldsItems r ps) :
    (t.change r fun _ => laidArray (ps.map (·.1) ++ [a])).HoldsItems r (ps ++ [(a, w)]) := by
  have hlt := lt_size h.object
  have ho := (hgrows.same r hlt (Nat.ne_of_lt hlt)).trans h.object
  refine ⟨by rw [getElem?_change ho]; simp, fun p hp => ?_⟩
  rcases List.mem_append.mp hp with hp | hp
  · exact ((h.items p hp).grows (hgrows.of_new r) (Nat.lt_succ_self r)).grows (.change t r _) (Nat.lt_succ_self r)
  · obtain rfl := List.mem_singleton.mp hp
    exact (ha.lower hlt).grows (.change t r _) (Nat.lt_succ_self r)

/-- An object is given one more field, once its value has been made. -/
theorem HoldsFields.put {fields : List (String × Value × Json)} (h : s.HoldsFields r fields) (name : String) :
    (t.change r fun _ => laidObject (Json.placed (Units.cut name) a (fields.map (Prod.map id Prod.fst)))).HoldsFields r
      (Json.placed (Units.cut name) (a, w) fields) := by
  have hlt := lt_size h.object
  have ho := (hgrows.same r hlt (Nat.ne_of_lt hlt)).trans h.object
  refine ⟨?_, Json.nodup_placed _ _ h.names, fun f hf => ?_, fun f hf => ?_⟩
  · rw [getElem?_change ho, Json.map_placed]
  · rcases Json.mem_placed hf with rfl | hf
    · exact Units.cut_cut name
    · exact h.cut f hf
  · rcases Json.mem_placed hf with rfl | hf
    · exact (ha.lower hlt).grows (.change t r _) (Nat.lt_succ_self r)
    · exact ((h.items f hf).grows (hgrows.of_new r) (Nat.lt_succ_self r)).grows (.change t r _) (Nat.lt_succ_self r)

end Put

theorem holdsItems_nil (s : Store) : (s.joined (laidArray [])).HoldsItems s.objects.size [] :=
  ⟨by simp [joined], by simp⟩

theorem holdsFields_nil (s : Store) : (s.joined (laidObject [])).HoldsFields s.objects.size [] :=
  ⟨by simp [joined], by simp, by simp, by simp⟩

end Store

namespace M

variable {α β : Type}

/-- Whatever the clock shows, the step gives `a` and turns `s` into `t`. -/
def Turns (x : M α) (s : Store) (a : α) (t : Store) : Prop :=
  ∀ (l : Links) (n : Nat), ∃ m, (x l).run (s.ticked n) = (.ok a, t.ticked m)

theorem Gives.turns {x : M α} {s t : Store} {a : α} (h : Gives x s a t) (hs : s.deadline = none) : Turns x s a t := by
  intro l n
  obtain ⟨m, hm | ⟨hd, -⟩⟩ := h l n
  · exact ⟨m, hm⟩
  · exact absurd hs hd

theorem Turns.pure (a : α) (s : Store) : Turns (Pure.pure a) s a s := fun _ n => ⟨n, rfl⟩

theorem Turns.bind {x : M α} {f : α → M β} {s t u : Store} {a : α} {b : β} (hx : Turns x s a t)
    (hf : Turns (f a) t b u) : Turns (x >>= f) s b u := by
  intro l n
  obtain ⟨m, hm⟩ := hx l n
  obtain ⟨k, hk⟩ := hf l m
  exact ⟨k, by rw [bind_run, hm]; exact hk⟩

theorem turns_newArray (s : Store) :
    Turns (newPlain (.proto .array) (.array #[])) s s.objects.size (s.joined (laidArray [])) :=
  fun _ n => ⟨n, rfl⟩

theorem turns_newObject (s : Store) :
    Turns (newPlain (.proto .object) .plain) s s.objects.size (s.joined (laidObject [])) :=
  fun _ n => ⟨n, rfl⟩

mutual

/-- A JSON value is handed over in objects of its own. -/
theorem turns_ofJson : ∀ (v : Json) {s : Store}, s.Ready →
    ∃ a t, Turns (ofJson v) s a t ∧ s.Grows t s.objects.size ∧ t.HandsBack s.objects.size a v.handed
  | .null, s, _ => ⟨.null, s, .pure _ s, .refl s _, .of_plain (by simp) (fun _ => rfl) fun _ u => .pure _ u⟩
  | .bool b, s, _ => ⟨.bool b, s, .pure _ s, .refl s _, .of_plain (by simp) (fun _ => rfl) fun _ u => .pure _ u⟩
  | .number m, s, _ =>
    ⟨.number m.toFloat, s, .pure _ s, .refl s _, .of_plain (by simp) (fun _ => rfl) fun _ u => .pure _ u⟩
  | .string x, s, _ => by
    refine ⟨.ofString x, s, .pure _ s, .refl s _, .of_plain (by simp [Value.ofString]) (fun _ => rfl) fun n u => ?_⟩
    show Gives (Pure.pure (Json.string (txt x).toText)) u (.string x) u
    rw [Units.toText_txt]
    exact .pure _ u
  | .array items, s, hs => by
    obtain ⟨hna, hno⟩ := hs.ne_new
    have hnew := Store.Grows.joined s (laidArray [])
    obtain ⟨t, ps, hturns, hgrows, hholds, hitems⟩ :=
      turns_putItems items (hs.grows hnew hna hno) hna hno (Store.holdsItems_nil s)
    refine ⟨.object s.objects.size, t, ?_, hnew.trans hgrows, ?_⟩
    · rw [ofJson]
      exact (turns_newArray s).bind (hturns.bind (.pure _ t))
    · have := hholds.handsBack
      rwa [hitems] at this
  | .object fields, s, hs => by
    obtain ⟨hna, hno⟩ := hs.ne_new
    have hnew := Store.Grows.joined s (laidObject [])
    obtain ⟨t, fields', hturns, hgrows, hholds, hfields⟩ :=
      turns_defineFields fields (hs.grows hnew hna hno) hna hno (Store.holdsFields_nil s)
    refine ⟨.object s.objects.size, t, ?_, hnew.trans hgrows, ?_⟩
    · rw [ofJson]
      exact (turns_newObject s).bind (hturns.bind (.pure _ t))
    · have := hholds.handsBack
      rw [Json.ofFields_eq, hfields] at this
      exact this

theorem turns_putItems : ∀ (items : List Json) {s : Store} {r : Nat} {ps : List (Value × Json)}, s.Ready →
    arrayProto ≠ r → objectProto ≠ r → s.HoldsItems r ps →
    ∃ t ps', Turns (putItems r ps.length items) s () t ∧ s.Grows t r ∧ t.HoldsItems r ps' ∧
      ps'.map (·.2) = ps.map (·.2) ++ Json.handedItems items
  | [], s, r, ps, _, _, _, h => ⟨s, ps, .pure _ s, .refl s _, h, (List.append_nil _).symm⟩
  | item :: rest, s, r, ps, hs, hna, hno, h => by
    obtain ⟨a, t, hturns, hgrows, ha⟩ := turns_ofJson item hs
    have hlt := Store.lt_size h.object
    have ho := (hgrows.same r hlt (Nat.ne_of_lt hlt)).trans h.object
    have ht := hs.grows (hgrows.of_new r) hna hno
    have put := gives_putMember_next ht ho a
    rw [List.length_map] at put
    have hchange := Store.Grows.change t r fun _ => laidArray (ps.map (·.1) ++ [a])
    obtain ⟨u, ps', hrest, hgrows', hholds, hitems⟩ :=
      turns_putItems rest (ht.grows hchange hna hno) hna hno (h.put hgrows ha)
    rw [List.length_append, List.length_singleton] at hrest
    refine ⟨u, ps', ?_, ((hgrows.of_new r).trans hchange).trans hgrows', hholds, ?_⟩
    · rw [putItems]
      exact hturns.bind ((put.turns ht.timeless).bind hrest)
    · rw [hitems, List.map_append, List.append_assoc]
      rfl

theorem turns_defineFields : ∀ (items : List (String × Json)) {s : Store} {r : Nat}
    {fields : List (String × Value × Json)}, s.Ready → arrayProto ≠ r → objectProto ≠ r → s.HoldsFields r fields →
    ∃ t fields', Turns (defineFields r items) s () t ∧ s.Grows t r ∧ t.HoldsFields r fields' ∧
      Json.gathered (fields'.map (Prod.map id Prod.snd)) =
        (Json.handedFields items).foldl (fun acc f => Json.insertField f.1 f.2 acc)
          (Json.gathered (fields.map (Prod.map id Prod.snd)))
  | [], s, r, fields, _, _, _, h => ⟨s, fields, .pure _ s, .refl s _, h, rfl⟩
  | (name, item) :: rest, s, r, fields, hs, hna, hno, h => by
    obtain ⟨a, t, hturns, hgrows, ha⟩ := turns_ofJson item hs
    have hlt := Store.lt_size h.object
    have ho := (hgrows.same r hlt (Nat.ne_of_lt hlt)).trans h.object
    have ht := hs.grows (hgrows.of_new r) hna hno
    have defined := gives_define_field ho (Units.cut name) a
    have hchange := Store.Grows.change t r fun _ =>
      laidObject (Json.placed (Units.cut name) a (fields.map (Prod.map id Prod.fst)))
    obtain ⟨u, fields', hrest, hgrows', hholds, hfields⟩ :=
      turns_defineFields rest (ht.grows hchange hna hno) hna hno (h.put hgrows ha name)
    refine ⟨u, fields', ?_, ((hgrows.of_new r).trans hchange).trans hgrows', hholds, ?_⟩
    · rw [defineFields, Units.fieldName_txt]
      exact hturns.bind ((defined.turns ht.timeless).bind hrest)
    · rw [hfields, Json.map_placed, Json.gathered_placed _ _ (by rw [Json.names_map]; exact h.names)]
      rfl

end

theorem gives_look {α : Type} {f : Store → M α} {s t : Store} {a : α} (h : ∀ n, Gives (f (s.ticked n)) s a t) :
    Gives (look >>= f) s a t :=
  fun l n => h n l n

theorem gives_handBack {s : Store} {v : Value} {w : Json}
    (h : Gives (toJson (s.objects.size + maxNesting) v) s w s) : Gives (handBack v) s w s :=
  gives_look fun _ => h

end M

namespace Realm

/-- What arrays and objects inherit, in a store with these objects. -/
def bare (objects : Array Obj) : Bool :=
  objects[arrayProto]?.any (fun o => o.numberless && o.proto == some objectProto) &&
    objects[objectProto]?.any fun o => o.numberless && o.proto == none

set_option maxRecDepth 100000 in
theorem bare_library : bare Library.objects = true := by
  rw [Library.objects_shelved]
  decide +kernel

theorem ready_of_bare {s : Store} (hd : s.deadline = none) (h : bare s.objects = true) : s.Ready := by
  simp only [bare, Bool.and_eq_true, Option.any_eq_true, beq_iff_eq] at h
  exact ⟨hd, h.1, h.2⟩

theorem deadline_awake (s : Store) : (awake none s).deadline = none := rfl

theorem objects_awake (s : Store) : (awake none s).objects = s.objects := rfl

theorem ticked_awake (s : Store) : (awake none s).ticked 0 = awake none s := rfl

theorem fresh_ready : (awake none fresh).Ready := by
  refine ready_of_bare (deadline_awake fresh) ?_
  rw [objects_awake, objects_fresh]
  exact bare_library

/-- A value that is handed to the script of a fresh realm and at once back. -/
def roundTrip (v : Json) : Except Abrupt Json :=
  (perform none fresh (do M.handBack (← M.ofJson v))).1

theorem roundTrip_eq (v : Json) : roundTrip v = .ok v.handed := by
  obtain ⟨a, t, hturns, hgrows, ha⟩ := M.turns_ofJson v fresh_ready
  have read := ha.json t (fun _ _ _ => rfl) (t.objects.size + M.maxNesting) (by
    show _ < t.objects.size + 10000
    omega)
  have back := (M.gives_handBack read).turns (hgrows.deadline.trans (deadline_awake fresh))
  obtain ⟨m, hm⟩ := hturns.bind back links 0
  rw [ticked_awake] at hm
  rw [roundTrip, perform_eq, hm]

/-- Handing a value over and back never fails. A value that is kept comes back as it was, and what any other has
become comes back as it is. -/
theorem roundTrip_settles (v : Json) :
    ∃ w, roundTrip v = .ok w ∧ (v.Kept → w = v) ∧ roundTrip w = .ok w := by
  refine ⟨v.handed, roundTrip_eq v, Json.handed_of_kept, ?_⟩
  rw [roundTrip_eq, Json.handed_handed]

/-- Names that are numbers, one that objects have a prototype under, and a number between integers. -/
def nested : Json :=
  .object [
    ("10", .array [.null, .bool true, .number (.int 5000000000), .number (.float 0.5)]),
    ("9", .string "nine"),
    ("__proto__", .object [("polluted", .bool true)])]

theorem nested_kept : nested.Kept := by
  have half : (Number.float 0.5).Kept := Number.kept_of_exponent (x := 0.5) (e := -53) rfl (.inl (by decide))
  have inner : (Json.object [("polluted", .bool true)]).Kept := by
    refine .object (List.pairwise_singleton _ _) (by decide) fun f hf => ?_
    obtain rfl := List.mem_singleton.mp hf
    exact .bool true
  have items : (Json.array [.null, .bool true, .number (.int 5000000000), .number (.float 0.5)]).Kept := by
    refine .array (by decide) fun v hv => ?_
    simp only [List.mem_cons, List.not_mem_nil, or_false] at hv
    rcases hv with rfl | rfl | rfl | rfl
    · exact .null
    · exact .bool true
    · exact .number (show (5000000000 : Int).natAbs < 9007199254740992 by decide)
    · exact .number half
  refine .object (by unfold Json.Ascending; decide) (by decide) fun f hf => ?_
  simp only [List.mem_cons, List.not_mem_nil, or_false] at hf
  rcases hf with rfl | rfl | rfl
  · exact items
  · exact .string "nine"
  · exact inner

theorem nested_settles : nested.Kept ∧ roundTrip nested = .ok nested := by
  obtain ⟨w, hw, hkept, -⟩ := roundTrip_settles nested
  exact ⟨nested_kept, by rw [hw, hkept nested_kept]⟩

end Realm
end ApiStencil.Script
