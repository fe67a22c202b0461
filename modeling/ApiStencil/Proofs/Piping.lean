import ApiStencil.Proofs.Handing
import ApiStencil.Render
/-!
What a command is called with. A value that is piped into a command stands before its positional list, so it might as
well have been put there; the order of the named arguments does not matter, and those that are no positional list
come last, as one object.
-/
set_option autoImplicit false

namespace ApiStencil.Json

theorem lookup_eq_some_iff {fields : List (String × Json)} (h : (fields.map (·.1)).Nodup) {name : String} {v : Json} :
    lookup name fields = some v ↔ (name, v) ∈ fields := by
  induction fields with
  | nil => simp [lookup]
  | cons f fields ih =>
    obtain ⟨n, w⟩ := f
    obtain ⟨hn, hfields⟩ := List.nodup_cons.mp h
    rw [lookup, List.mem_cons, Prod.mk.injEq]
    split
    · rename_i hname
      obtain rfl : n = name := beq_iff_eq.mp hname
      have hother : (n, v) ∉ fields := fun hmem => hn (List.mem_map.mpr ⟨_, hmem, rfl⟩)
      simp [hother, eq_comm]
    · rename_i hname
      have hne : ¬name = n := fun he => hname (beq_iff_eq.mpr he.symm)
      simp [hne, ih hfields]

theorem lookup_perm {fields fields' : List (String × Json)} (h : fields.Perm fields')
    (hn : (fields.map (·.1)).Nodup) (name : String) : lookup name fields = lookup name fields' := by
  have hn' : (fields'.map (·.1)).Nodup := (h.map _).nodup_iff.mp hn
  refine Option.ext fun v => ?_
  rw [lookup_eq_some_iff hn, lookup_eq_some_iff hn', h.mem_iff]

theorem mem_insertField_self (name : String) (v : Json) (fields : List (String × Json)) :
    (name, v) ∈ insertField name v fields := by
  induction fields with
  | nil => exact List.mem_singleton.mpr rfl
  | cons f fields ih =>
    rw [insertField]
    split
    · exact List.mem_cons_self
    · split
      · exact List.mem_cons_self
      · exact List.mem_cons_of_mem _ ih

theorem mem_insertField_of_ne {name : String} {v : Json} {fields : List (String × Json)} {f : String × Json}
    (hf : f ∈ fields) (hne : f.1 ≠ name) : f ∈ insertField name v fields := by
  induction fields with
  | nil => cases hf
  | cons g fields ih =>
    rw [insertField]
    split
    · exact List.mem_cons_of_mem _ hf
    · split
      · rename_i hname
        obtain rfl | hf := List.mem_cons.mp hf
        · exact absurd (beq_iff_eq.mp hname).symm hne
        · exact List.mem_cons_of_mem _ hf
      · obtain rfl | hf := List.mem_cons.mp hf
        · exact List.mem_cons_self
        · exact List.mem_cons_of_mem _ (ih hf)

/-- With one field for each name, none is lost. -/
theorem mem_gathered_iff {fields : List (String × Json)} (hn : (fields.map (·.1)).Nodup) {f : String × Json} :
    f ∈ gathered fields ↔ f ∈ fields := by
  refine ⟨mem_gathered, ?_⟩
  induction fields using List.reverseRecOn with
  | nil => exact id
  | append_singleton fields g ih =>
    rw [List.map_append, List.nodup_append] at hn
    obtain ⟨hfields, -, hlast⟩ := hn
    intro hf
    rw [gathered_concat]
    rcases List.mem_append.mp hf with hf | hf
    · exact mem_insertField_of_ne (ih hfields hf)
        (hlast _ (List.mem_map_of_mem hf) _ (List.mem_singleton.mpr rfl))
    · obtain rfl := List.mem_singleton.mp hf
      exact mem_insertField_self _ _ _

end ApiStencil.Json

namespace ApiStencil.Command

/-- Named arguments come in some order, each name once. -/
def Distinct (named : List (String × Json)) : Prop := (named.map (·.1)).Nodup

/-- The arguments that are no positional list. -/
def others (named : List (String × Json)) : List (String × Json) := named.filter fun f => f.1 != listName

/-- The arguments with a value put before their positional list. -/
def prepended (v : Json) (named : List (String × Json)) : List (String × Json) :=
  (listName, .array (v :: listed named)) :: others named

/-- These are the fields of the object that the arguments beside the positional list make up. -/
structure Options (named fields : List (String × Json)) : Prop where
  ascending : Json.Ascending fields
  mem : ∀ f, f ∈ fields ↔ f ∈ named ∧ f.1 ≠ listName

variable {named m n : List (String × Json)}

theorem mem_others {f : String × Json} : f ∈ others named ↔ f ∈ named ∧ f.1 ≠ listName := by
  rw [others, List.mem_filter, bne_iff_ne]

theorem others_nil_iff : others named = [] ↔ ∀ f ∈ named, f.1 = listName := by
  simp [others, List.filter_eq_nil_iff]

theorem Distinct.others (h : Distinct named) : Distinct (others named) :=
  h.sublist (List.filter_sublist.map _)

theorem options_eq (named : List (String × Json)) :
    options named = if (others named).isEmpty then [] else [.object (Json.gathered (others named))] := rfl

theorem options_gathered (h : Distinct named) : Options named (Json.gathered (others named)) :=
  ⟨Json.ascending_gathered _, fun _ => (Json.mem_gathered_iff h.others).trans mem_others⟩

theorem listed_perm (h : m.Perm n) (hm : Distinct m) : listed m = listed n := by
  rw [listed, listed, Json.lookup_perm h hm]

theorem options_perm (h : m.Perm n) (hm : Distinct m) : options m = options n := by
  have hothers : (others m).Perm (others n) := h.filter _
  rw [options_eq, options_eq, Json.gathered_perm hothers hm.others, hothers.isEmpty_eq]

theorem arguments_perm (piped : Option Json) (h : m.Perm n) (hm : Distinct m) : arguments piped m = arguments piped n := by
  rw [arguments, arguments, listed_perm h hm, options_perm h hm]

theorem others_prepended (v : Json) (named : List (String × Json)) : others (prepended v named) = others named := by
  rw [prepended, others, List.filter_cons_of_neg (by simp), others, List.filter_filter]
  simp

theorem distinct_prepended (v : Json) (h : Distinct named) : Distinct (prepended v named) := by
  refine List.nodup_cons.mpr ⟨fun hmem => ?_, h.others⟩
  obtain ⟨f, hf, hname⟩ := List.mem_map.mp hmem
  exact (mem_others.mp hf).2 hname

/-- A value that is put before the positional list is what a piped one comes to. -/
theorem arguments_prepended (v : Json) (named : List (String × Json)) :
    arguments none (prepended v named) = arguments (some v) named := by
  have hlisted : listed (prepended v named) = v :: listed named := by
    rw [prepended, listed, Json.lookup, if_pos (beq_self_eq_true _)]
  rw [arguments, arguments, hlisted, options_eq, others_prepended, options_eq]
  rfl

theorem arguments_of_others_nil (piped : Option Json) (h : ∀ f ∈ named, f.1 = listName) :
    arguments piped named = piped.toList ++ listed named := by
  rw [arguments, options_eq, others_nil_iff.mpr h]
  exact List.append_nil _

theorem arguments_of_mem_others (piped : Option Json) {f : String × Json} (hf : f ∈ named) (hname : f.1 ≠ listName) :
    arguments piped named = piped.toList ++ listed named ++ [.object (Json.gathered (others named))] := by
  have hmem : f ∈ others named := mem_others.mpr ⟨hf, hname⟩
  rw [arguments, options_eq, if_neg (by simpa using List.ne_nil_of_mem hmem)]

/-- A command to which a value is piped is called as if the value had been put before its positional list, and comes to
the same. The order of the arguments does not matter. Behind the positional list stands one object with all other
arguments, if there are any, and nothing otherwise. -/
theorem piping_prepends (c : Script.Command) (v : Json) (hm : Distinct m) (hn : n.Perm (prepended v m)) :
    arguments (some v) m = arguments none n ∧ (handler c).filter v m = (handler c).function n ∧
      (∀ piped m', m'.Perm m → arguments piped m' = arguments piped m) ∧
      ∀ piped, ((∃ fields, Options m fields ∧ arguments piped m = piped.toList ++ listed m ++ [.object fields]) ↔
          ∃ f ∈ m, f.1 ≠ listName) ∧
        ((∀ f ∈ m, f.1 = listName) → arguments piped m = piped.toList ++ listed m) := by
  have hsame : arguments (some v) m = arguments none n := by
    rw [← arguments_prepended, arguments_perm none hn.symm (distinct_prepended v hm)]
  refine ⟨hsame, congrArg (invoke c) hsame, fun piped m' h => (arguments_perm piped h.symm hm).symm, fun piped => ⟨?_, ?_⟩⟩
  · constructor
    · rintro ⟨fields, -, heq⟩
      by_contra hnone
      rw [arguments_of_others_nil piped (by simpa using hnone)] at heq
      simpa using congrArg List.length heq
    · rintro ⟨f, hf, hname⟩
      exact ⟨_, options_gathered hm, arguments_of_mem_others piped hf hname⟩
  · exact arguments_of_others_nil piped

def quoting : Script.Command := ⟨"quote", .ofString "/t/s.js", 0, 0⟩

/-- A positional argument that is no array, and an option. -/
def lone : List (String × Json) := [("sep", .bool true), ("args", .string "a")]

theorem lone_distinct : Distinct lone := by
  rw [Distinct, lone]
  decide

/-- What `piping_prepends` says of these when null is piped. -/
theorem lone_prepends :
    arguments (some .null) lone = arguments none [("sep", .bool true), ("args", .array [.null, .string "a"])] ∧
      (handler quoting).filter .null lone =
        (handler quoting).function [("sep", .bool true), ("args", .array [.null, .string "a"])] :=
  have h := piping_prepends quoting .null lone_distinct (.swap _ _ _)
  ⟨h.1, h.2.1⟩

end ApiStencil.Command
