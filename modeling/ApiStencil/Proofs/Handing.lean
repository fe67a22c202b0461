import ApiStencil.Proofs.CodeUnits
import ApiStencil.Proofs.Doubles
import Mathlib.Data.List.Induction
import Mathlib.Data.List.Nodup
/-!
What becomes of a JSON value that is handed to a script and back. Numbers become those that a double stands
for, names are cut at a NUL, and of an array no more is left than a script's array has places for. What has
become of a value stays as it is from then on.
-/
set_option autoImplicit false

namespace ApiStencil.Json

open Script (Store)
open Script.Units (cut cut_cut cut_of_notMem)

/-- The fields of an object that is given these one after the other. -/
def gathered (fields : List (String × Json)) : List (String × Json) :=
  fields.foldl (fun acc f => insertField f.1 f.2 acc) []

theorem ofFields_eq (fields : List (String × Json)) : ofFields fields = .object (gathered fields) := rfl

theorem gathered_concat (fields : List (String × Json)) (f : String × Json) :
    gathered (fields ++ [f]) = insertField f.1 f.2 (gathered fields) := by
  rw [gathered, List.foldl_append]
  rfl

/-- The names of fields ascend, so there is one field for each. -/
def Ascending (fields : List (String × Json)) : Prop := fields.Pairwise fun f g => f.1 < g.1

theorem mem_insertField {name : String} {v : Json} {fields : List (String × Json)} {f : String × Json}
    (h : f ∈ insertField name v fields) : f = (name, v) ∨ f ∈ fields := by
  induction fields with
  | nil => exact .inl (List.mem_singleton.mp h)
  | cons g fields ih =>
    obtain ⟨n, w⟩ := g
    rw [insertField] at h
    split at h
    · exact List.mem_cons.mp h
    · split at h
      · rcases List.mem_cons.mp h with h | h
        · exact .inl h
        · exact .inr (List.mem_cons_of_mem _ h)
      · rcases List.mem_cons.mp h with rfl | h
        · exact .inr List.mem_cons_self
        · exact (ih h).imp_right (List.mem_cons_of_mem _)

theorem ascending_insertField (name : String) (v : Json) {fields : List (String × Json)} (h : Ascending fields) :
    Ascending (insertField name v fields) := by
  induction fields with
  | nil => exact List.pairwise_singleton _ _
  | cons g fields ih =>
    obtain ⟨n, w⟩ := g
    obtain ⟨hfirst, hrest⟩ := List.pairwise_cons.mp h
    rw [insertField]
    split
    · rename_i hlt
      refine List.pairwise_cons.mpr ⟨fun f hf => ?_, h⟩
      rcases List.mem_cons.mp hf with rfl | hf
      · exact hlt
      · exact String.lt_trans hlt (hfirst f hf)
    · rename_i hle
      split
      · rename_i hn
        obtain rfl : name = n := beq_iff_eq.mp hn
        exact List.pairwise_cons.mpr ⟨hfirst, hrest⟩
      · rename_i hne
        have hlt : n < name := by
          have hne : name ≠ n := by simpa using hne
          grind
        refine List.pairwise_cons.mpr ⟨fun f hf => ?_, ih hrest⟩
        rcases mem_insertField hf with rfl | hf
        · exact hlt
        · exact hfirst f hf

/-- A field behind all others. -/
theorem insertField_last {name : String} {v : Json} {fields : List (String × Json)}
    (h : ∀ f ∈ fields, f.1 < name) : insertField name v fields = fields ++ [(name, v)] := by
  induction fields with
  | nil => rfl
  | cons g fields ih =>
    obtain ⟨n, w⟩ := g
    have hlt : n < name := h _ List.mem_cons_self
    have hne : ¬(name == n) = true := by
      rw [beq_iff_eq]
      rintro rfl
      exact String.lt_irrefl _ hlt
    rw [insertField, if_neg (String.lt_asymm hlt), if_neg hne, ih fun f hf => h f (List.mem_cons_of_mem _ hf)]
    rfl

theorem insertField_twice (name : String) (v w : Json) (fields : List (String × Json)) :
    insertField name v (insertField name w fields) = insertField name v fields := by
  induction fields with
  | nil => simp [insertField]
  | cons g fields ih =>
    obtain ⟨n, x⟩ := g
    simp only [insertField]
    split
    · simp [insertField]
    · split
      · simp [insertField]
      · rename_i hle hne
        rw [insertField, if_neg hle, if_neg hne, ih]

theorem insertField_comm {m n : String} (h : m ≠ n) (v w : Json) (fields : List (String × Json)) :
    insertField m v (insertField n w fields) = insertField n w (insertField m v fields) := by
  induction fields with
  | nil => grind [insertField]
  | cons g fields ih => grind [insertField]

theorem mem_gathered {fields : List (String × Json)} {f : String × Json} (h : f ∈ gathered fields) :
    f ∈ fields := by
  induction fields using List.reverseRecOn with
  | nil => exact h
  | append_singleton fields g ih =>
    rw [gathered_concat] at h
    rcases mem_insertField h with rfl | h
    · exact List.mem_append_right _ (List.mem_singleton.mpr rfl)
    · exact List.mem_append_left _ (ih h)

theorem ascending_gathered (fields : List (String × Json)) : Ascending (gathered fields) := by
  induction fields using List.reverseRecOn with
  | nil => exact List.Pairwise.nil
  | append_singleton fields g ih =>
    rw [gathered_concat]
    exact ascending_insertField _ _ ih

theorem gathered_of_ascending {fields : List (String × Json)} (h : Ascending fields) : gathered fields = fields := by
  induction fields using List.reverseRecOn with
  | nil => rfl
  | append_singleton fields g ih =>
    obtain ⟨hfields, -, hlast⟩ := List.pairwise_append.mp h
    rw [gathered_concat, ih hfields]
    exact insertField_last fun f hf => hlast f hf g (List.mem_singleton.mpr rfl)

/-- With one field for each name, the order does not matter. -/
theorem gathered_perm {fields fields' : List (String × Json)} (h : fields.Perm fields')
    (hn : (fields.map (·.1)).Nodup) : gathered fields = gathered fields' := by
  refine h.foldl_eq' (fun f hf g hg acc => ?_) []
  by_cases he : f.1 = g.1
  · rw [List.inj_on_of_nodup_map hn hf hg he]
  · exact insertField_comm (Ne.symm he) _ _ _

section Placed

variable {α β : Type}

/-- Fields in the order in which their names have first been given, with one more in its place. -/
def placed (name : String) (a : α) : List (String × α) → List (String × α)
  | [] => [(name, a)]
  | (n, b) :: rest => if n = name then (n, a) :: rest else (n, b) :: placed name a rest

@[simp]
theorem names_map (g : α → β) (fields : List (String × α)) :
    (fields.map (Prod.map id g)).map (·.1) = fields.map (·.1) := by
  rw [List.map_map]
  rfl

theorem placed_eq (name : String) (a : α) (fields : List (String × α)) :
    placed name a fields =
      match fields.findIdx? fun f => f.1 == name with
      | none => fields ++ [(name, a)]
      | some i => fields.set i (name, a) := by
  induction fields with
  | nil => rfl
  | cons g fields ih =>
    obtain ⟨n, b⟩ := g
    rw [placed, List.findIdx?_cons]
    by_cases hn : n = name
    · simp [hn]
    · rw [if_neg hn, if_neg (by simpa using hn), ih]
      cases fields.findIdx? fun f => f.1 == name <;> rfl

theorem mem_placed {name : String} {a : α} {fields : List (String × α)} {f : String × α}
    (h : f ∈ placed name a fields) : f = (name, a) ∨ f ∈ fields := by
  induction fields with
  | nil => exact .inl (List.mem_singleton.mp h)
  | cons g fields ih =>
    obtain ⟨n, b⟩ := g
    rw [placed] at h
    split at h
    · rename_i hn
      subst hn
      exact (List.mem_cons.mp h).imp_right (List.mem_cons_of_mem _)
    · rcases List.mem_cons.mp h with rfl | h
      · exact .inr List.mem_cons_self
      · exact (ih h).imp_right (List.mem_cons_of_mem _)

theorem nodup_placed (name : String) (a : α) {fields : List (String × α)} (h : (fields.map (·.1)).Nodup) :
    ((placed name a fields).map (·.1)).Nodup := by
  induction fields with
  | nil => exact List.nodup_singleton _
  | cons g fields ih =>
    obtain ⟨n, b⟩ := g
    obtain ⟨hfirst, hrest⟩ := List.nodup_cons.mp h
    rw [placed]
    split
    · exact h
    · rename_i hne
      refine List.nodup_cons.mpr ⟨fun hmem => ?_, ih hrest⟩
      obtain ⟨f, hf, hn⟩ := List.mem_map.mp hmem
      rcases mem_placed hf with rfl | hf
      · exact hne hn.symm
      · exact hfirst (List.mem_map.mpr ⟨f, hf, hn⟩)

theorem map_placed (g : α → β) (name : String) (a : α) (fields : List (String × α)) :
    (placed name a fields).map (Prod.map id g) = placed name (g a) (fields.map (Prod.map id g)) := by
  induction fields with
  | nil => rfl
  | cons f fields ih =>
    obtain ⟨n, b⟩ := f
    rw [placed, List.map_cons, Prod.map_apply, id_eq, placed]
    split
    · rfl
    · rw [List.map_cons, ih]
      rfl

theorem foldl_insertField_comm {name : String} {v : Json} {fields : List (String × Json)}
    (h : name ∉ fields.map (·.1)) (acc : List (String × Json)) :
    fields.foldl (fun acc f => insertField f.1 f.2 acc) (insertField name v acc) =
      insertField name v (fields.foldl (fun acc f => insertField f.1 f.2 acc) acc) := by
  induction fields generalizing acc with
  | nil => rfl
  | cons f fields ih =>
    rw [List.map_cons, List.mem_cons, not_or] at h
    rw [List.foldl_cons, List.foldl_cons, insertField_comm (Ne.symm h.1), ih h.2]

/-- An object does not tell whether a field has been given anew or has been put in its place. -/
theorem gathered_placed (name : String) (v : Json) {fields : List (String × Json)} (h : (fields.map (·.1)).Nodup) :
    gathered (placed name v fields) = insertField name v (gathered fields) := by
  unfold gathered
  generalize [] = acc
  induction fields generalizing acc with
  | nil => rfl
  | cons f fields ih =>
    obtain ⟨n, w⟩ := f
    obtain ⟨hfirst, hrest⟩ := List.nodup_cons.mp h
    rw [placed]
    split
    · rename_i hn
      subst hn
      rw [List.foldl_cons, List.foldl_cons, ← foldl_insertField_comm hfirst, insertField_twice]
    · exact ih hrest _

end Placed

mutual

/-- What is handed back of a value that has been handed over. -/
def handed : Json → Json
  | .number m => Script.M.numberJson m.toFloat
  | .array items => .array ((handedItems items).take Store.maxElements)
  | .object fields => .ofFields (handedFields fields)
  | v => v

def handedItems : List Json → List Json
  | [] => []
  | v :: rest => handed v :: handedItems rest

def handedFields : List (String × Json) → List (String × Json)
  | [] => []
  | (name, v) :: rest => (cut name, handed v) :: handedFields rest

end

theorem handed_array {items : List Json} (hl : items.length ≤ Store.maxElements) (h : ∀ v ∈ items, handed v = v) :
    handed (.array items) = .array items := by
  have hitems : handedItems items = items := by
    clear hl
    induction items with
    | nil => rfl
    | cons v items ih =>
      rw [handedItems, h v List.mem_cons_self, ih fun w hw => h w (List.mem_cons_of_mem v hw)]
  rw [handed, hitems, List.take_of_length_le hl]

theorem handed_object {fields : List (String × Json)} (ha : Ascending fields)
    (h : ∀ f ∈ fields, cut f.1 = f.1 ∧ handed f.2 = f.2) : handed (.object fields) = .object fields := by
  have hfields : handedFields fields = fields := by
    clear ha
    induction fields with
    | nil => rfl
    | cons f fields ih =>
      obtain ⟨hn, hv⟩ := h f List.mem_cons_self
      rw [handedFields, hn, hv, ih fun g hg => h g (List.mem_cons_of_mem f hg)]
  rw [handed, hfields, ofFields_eq, gathered_of_ascending ha]

mutual

theorem handed_handed : ∀ v : Json, handed (handed v) = handed v
  | .null => rfl
  | .bool _ => rfl
  | .string _ => rfl
  | .number m => by
    rw [handed]
    rcases Number.numberJson_stable m.toFloat with h | ⟨m', h, h'⟩
    · rw [h]
      rfl
    · rw [h, handed, h']
  | .array items => by
    rw [handed]
    exact handed_array (List.length_take_le ..) fun v hv => handed_of_mem_items items (List.mem_of_mem_take hv)
  | .object fields => by
    rw [handed, ofFields_eq]
    exact handed_object (ascending_gathered _) fun f hf => handed_of_mem_fields fields (mem_gathered hf)

theorem handed_of_mem_items : ∀ (items : List Json) {v : Json}, v ∈ handedItems items → handed v = v
  | [], _, h => absurd h List.not_mem_nil
  | w :: rest, v, h => by
    rw [handedItems] at h
    rcases List.mem_cons.mp h with rfl | h
    · exact handed_handed w
    · exact handed_of_mem_items rest h

theorem handed_of_mem_fields : ∀ (fields : List (String × Json)) {f : String × Json}, f ∈ handedFields fields →
    cut f.1 = f.1 ∧ handed f.2 = f.2
  | [], _, h => absurd h List.not_mem_nil
  | (n, w) :: rest, f, h => by
    rw [handedFields] at h
    rcases List.mem_cons.mp h with rfl | h
    · exact ⟨cut_cut n, handed_handed w⟩
    · exact handed_of_mem_fields rest h

end

/-- A value whose numbers are kept, whose names have no NUL and ascend, and whose arrays are no longer than those
of a script. -/
inductive Kept : Json → Prop
  | null : Kept .null
  | bool (b : Bool) : Kept (.bool b)
  | string (s : String) : Kept (.string s)
  | number {m : Number} (h : m.Kept) : Kept (.number m)
  | array {items : List Json} (hl : items.length ≤ Store.maxElements) (h : ∀ v ∈ items, Kept v) : Kept (.array items)
  | object {fields : List (String × Json)} (ha : Ascending fields) (hn : ∀ f ∈ fields, '\x00' ∉ f.1.toList)
      (h : ∀ f ∈ fields, Kept f.2) : Kept (.object fields)

theorem handed_of_kept {v : Json} (h : v.Kept) : handed v = v := by
  induction h with
  | number h => exact Number.numberJson_of_kept h
  | array hl _ ih => exact handed_array hl ih
  | object ha hn _ ih => exact handed_object ha fun f hf => ⟨cut_of_notMem (hn f hf), ih f hf⟩
  | _ => rfl

end ApiStencil.Json
