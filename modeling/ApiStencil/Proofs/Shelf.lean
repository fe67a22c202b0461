import ApiStencil.Script.Realm
/-!
The objects of the library on a shelf, a tree that finds a place in a few steps. A fresh store is the same whether
its objects were put into an array or onto a shelf; what a script does is computed from the shelf.
-/
set_option autoImplicit false

namespace ApiStencil.Script

theorem modify_append {α : Type} (f : α → α) (as bs : List α) (i : Nat) :
    (as ++ bs).modify i f =
      if i < as.length then as.modify i f ++ bs else as ++ bs.modify (i - as.length) f := by
  induction as generalizing i with
  | nil => simp
  | cons a as ih =>
    cases i with
    | zero => simp
    | succ i =>
      simp only [List.cons_append, List.modify_succ_cons, ih, List.length_cons, Nat.add_lt_add_iff_right,
        Nat.add_sub_add_right]
      split <;> rfl

/-- Values in order; a node knows how many stand on its left. -/
inductive Shelf (α : Type) where
  | empty
  | one (a : α)
  | node (count : Nat) (left right : Shelf α)

namespace Shelf

variable {α : Type}

def toList : Shelf α → List α
  | .empty => []
  | .one a => [a]
  | .node _ left right => left.toList ++ right.toList

/-- The first values of a list, as many as a shelf of this height holds. -/
def build : Nat → List α → Shelf α
  | 0, [] => .empty
  | 0, a :: _ => .one a
  | height + 1, as =>
    .node (as.take (Nat.pow 2 height)).length (build height (as.take (Nat.pow 2 height)))
      (build height (as.drop (Nat.pow 2 height)))

def modify (f : α → α) : Shelf α → Nat → Shelf α
  | .empty, _ => .empty
  | .one a, 0 => .one (f a)
  | .one a, _ + 1 => .one a
  | .node count left right, i =>
    if i < count then .node count (left.modify f i) right else .node count left (right.modify f (i - count))

/-- Every node counts what stands on its left. -/
def Counted : Shelf α → Prop
  | .empty => True
  | .one _ => True
  | .node count left right => left.toList.length = count ∧ left.Counted ∧ right.Counted

theorem toList_build (height : Nat) (as : List α) : (build height as).toList = as.take (Nat.pow 2 height) := by
  induction height generalizing as with
  | zero => cases as <;> rfl
  | succ height ih =>
    have hsplit : Nat.pow 2 (height + 1) = Nat.pow 2 height + Nat.pow 2 height := Nat.mul_two _
    rw [build, toList, ih, ih, List.take_take, Nat.min_self, hsplit, List.take_add]

theorem counted_build (height : Nat) (as : List α) : (build height as).Counted := by
  induction height generalizing as with
  | zero => cases as <;> trivial
  | succ height ih =>
    refine ⟨?_, ih _, ih _⟩
    rw [toList_build, List.take_take, Nat.min_self]

theorem toList_modify (f : α → α) {t : Shelf α} (h : t.Counted) (i : Nat) :
    (t.modify f i).toList = t.toList.modify i f := by
  induction t generalizing i with
  | empty => simp [modify, toList]
  | one a => cases i <;> simp [modify, toList]
  | node count left right ihl ihr =>
    obtain ⟨hcount, hl, hr⟩ := h
    rw [modify, toList, modify_append, hcount]
    split
    · rw [toList, ihl hl]
    · rw [toList, ihr hr]

theorem counted_modify (f : α → α) {t : Shelf α} (h : t.Counted) (i : Nat) : (t.modify f i).Counted := by
  induction t generalizing i with
  | empty => simpa only [modify] using h
  | one a => cases i <;> trivial
  | node count left right ihl ihr =>
    obtain ⟨hcount, hl, hr⟩ := h
    rw [modify]
    split
    · exact ⟨by rw [toList_modify f hl, List.length_modify, hcount], ihl hl _, hr⟩
    · exact ⟨hcount, hl, ihr hr _⟩

/-- A shelf and an array that hold the same. -/
structure Holds (t : Shelf α) (as : Array α) : Prop where
  counted : t.Counted
  same : t.toList = as.toList

theorem Holds.modify {t : Shelf α} {as : Array α} (h : t.Holds as) (f : α → α) (i : Nat) :
    (t.modify f i).Holds (as.modify i f) :=
  ⟨counted_modify f h.counted i, by rw [toList_modify f h.counted, h.same, Array.toList_modify]⟩

end Shelf

namespace Library

/-- What a row does to the object that it belongs to. -/
def change (n : Native) (id : Nat) (o : Obj) : Obj :=
  match n.role with
  | .method => { o with slots := o.slots.push (n.key, .builtin id n.name n.arity false) }
  | .listed => { o with slots := o.slots.push (n.key, .builtin id n.name n.arity true) }
  | .getter => { o with slots := o.slots.push (n.key, .builtinPair id none n.name) }
  | .setter =>
    { o with slots := o.slots.map fun (k, s) => match s with
      | .builtinPair g none name => if k == n.key then (k, .builtinPair g (some id) name) else (k, s)
      | s => (k, s) }
  | .maker => { o with kind := .native id [], slots := M.functionSlots n.arity n.name ++ o.slots }
  | .inner _ => o

theorem place_eq (objects : Array Obj) (n : Native) (id : Nat) :
    place objects n id = objects.modify n.home.ref (change n id) := by
  unfold place change
  cases n.role with
  | inner i => exact (Array.ext (by simp) (by simp [Array.getElem_modify])).symm
  | _ => rfl

/-- The objects that a new script finds, on a shelf. -/
def shelf : Shelf Obj :=
  let bare := Shelf.build 7 (Intrinsic.all.map fun i => Obj.mk (protoOf i) true (kindOf i) #[])
  let withRows := table.toList.zipIdx.foldl (fun t (n, id) => t.modify (change n id) n.home.ref) bare
  constants.foldl (fun t (i, k, s) => t.modify (fun o => { o with slots := o.slots.push (k, s) }) i.ref) withRows

theorem shelf_holds : shelf.Holds objects := by
  rw [shelf, objects]
  refine List.foldl_rel (List.foldl_rel ⟨Shelf.counted_build _ _, ?_⟩ ?_) ?_
  · rw [Shelf.toList_build, List.take_of_length_le]
    rw [List.length_map]
    decide
  · rintro ⟨n, id⟩ - t os h
    simpa only [place_eq] using h.modify _ _
  · rintro ⟨i, k, s⟩ - t os h
    exact h.modify _ _

theorem objects_shelved : objects = shelf.toList.toArray := by
  rw [shelf_holds.same, Array.toArray_toList]

end Library

namespace Realm

theorem eq_withObjects {s : Store} {os : Array Obj} (h : s.objects = os) : s = { s with objects := os } := by
  rw [← h]

/-- A fresh store with the objects from the shelf. -/
def stocked : Store := { fresh with objects := Library.shelf.toList.toArray }

theorem fresh_stocked : fresh = stocked :=
  eq_withObjects (objects_fresh.trans Library.objects_shelved)

theorem startUntil_stocked (limit : Option Nat) (source : String) :
    startUntil limit source = started (performUntil limit stocked (runScript source)) := by
  rw [startUntil, fresh_stocked]

theorem registrations_stocked (timeoutMs : Option Nat) (source : String) :
    registrations timeoutMs source = (perform timeoutMs stocked (runScript source)).2.registered.toList := by
  rw [registrations, fresh_stocked]

theorem answers_stocked (timeoutMs : Option Nat) (source : String) :
    answers timeoutMs source = (perform timeoutMs stocked (runScript source)).2.roll.answers.toList := by
  rw [answers, fresh_stocked]

end Realm
end ApiStencil.Script
