import ApiStencil.Proofs.Extensions
import ApiStencil.Template.Filter.Helper
/-!
Paths that templates put together of parts. What parts give is what their first and last ones give, with a slash
between the two, so it does not matter how the parts are grouped, and parts without anything but slashes do not
matter at all.
-/
set_option autoImplicit false

namespace ApiStencil.Template.Filter

open Text (dropEndWhile)

/-- A text that has nothing but slashes in it. -/
def OnlySlashes (s : String) : Prop := ∀ c ∈ s.toList, c = '/'

instance (s : String) : Decidable (OnlySlashes s) :=
  decidable_of_iff (s.toList.all (· == '/') = true) (by simp [OnlySlashes])

/-- A text without a slash at either end. -/
structure NoOuterSlash (s : String) : Prop where
  front : s.toList.head? ≠ some '/'
  back : s.toList.getLast? ≠ some '/'

/-- Two texts with a slash between them; of an empty one there is nothing to see. -/
def beside (s t : String) : String := if s = "" then t else if t = "" then s else s ++ "/" ++ t

theorem beside_empty (s : String) : beside s "" = s := by
  unfold beside
  split
  · rename_i h
    rw [h]
  · rfl

theorem empty_beside (t : String) : beside "" t = t := if_pos rfl

theorem beside_of_ne {s t : String} (hs : s ≠ "") (ht : t ≠ "") : beside s t = s ++ "/" ++ t := by
  rw [beside, if_neg hs, if_neg ht]

section Trim

variable {s t : String}

theorem trimSlashes_eq_empty : trimSlashes s = "" ↔ OnlySlashes s := by
  have hall (cs : List Char) : cs.dropWhile (· == '/') = [] ↔ ∀ c ∈ cs, c = '/' := by
    simp [List.dropWhile_eq_nil_iff]
  rw [trimSlashes, String.ofList_eq_empty_iff, dropEndWhile, List.reverse_eq_nil_iff, hall]
  simp only [List.mem_reverse]
  refine ⟨fun h => ?_, fun h => by simp [(hall s.toList).mpr h]⟩
  have hhead := List.head?_dropWhile_not (· == '/') s.toList
  refine (hall s.toList).mp ?_
  cases hs : s.toList.dropWhile (· == '/') with
  | nil => rfl
  | cons c cs =>
    rw [hs] at h hhead
    simp [h c List.mem_cons_self] at hhead

/-- What is cut off are slashes. -/
theorem trimSlashes_split (s : String) :
    ∃ front back, OnlySlashes front ∧ OnlySlashes back ∧ s = front ++ trimSlashes s ++ back := by
  obtain ⟨back, hback, hslashes⟩ := Text.dropEndWhile_split (· == '/') (s.toList.dropWhile (· == '/'))
  refine ⟨.ofList (s.toList.takeWhile (· == '/')), .ofList back, ?_, ?_, ?_⟩
  · intro c hc
    rw [String.toList_ofList] at hc
    exact beq_iff_eq.mp (List.all_eq_true.mp List.all_takeWhile c hc)
  · intro c hc
    rw [String.toList_ofList] at hc
    exact beq_iff_eq.mp (hslashes c hc)
  · rw [← String.toList_inj, String.toList_append, String.toList_append, String.toList_ofList, String.toList_ofList,
      trimSlashes, String.toList_ofList, List.append_assoc, ← hback, List.takeWhile_append_dropWhile]

theorem noOuterSlash_trimSlashes (s : String) : NoOuterSlash (trimSlashes s) := by
  have hback := Text.getLast?_dropEndWhile (· == '/') (s.toList.dropWhile (· == '/'))
  obtain ⟨behind, hbehind, -⟩ := Text.dropEndWhile_split (· == '/') (s.toList.dropWhile (· == '/'))
  have hfront := List.head?_dropWhile_not (· == '/') s.toList
  refine ⟨?_, ?_⟩
  · rw [trimSlashes, String.toList_ofList]
    intro h
    rw [hbehind, List.head?_append, h] at hfront
    simp at hfront
  · rw [trimSlashes, String.toList_ofList]
    intro h
    exact absurd (hback _ h) (by decide)

theorem NoOuterSlash.trimSlashes_eq (h : NoOuterSlash s) : trimSlashes s = s := by
  have hfront : s.toList.dropWhile (· == '/') = s.toList := by
    cases hs : s.toList with
    | nil => rfl
    | cons c cs =>
      have hc : c ≠ '/' := by simpa [hs] using h.front
      exact List.dropWhile_cons_of_neg (by simpa using hc)
  rw [trimSlashes, hfront, Text.dropEndWhile_eq_self, String.ofList_toList]
  intro c hc
  refine beq_eq_false_iff_ne.mpr ?_
  rintro rfl
  exact h.back hc

theorem NoOuterSlash.beside (hs : NoOuterSlash s) (ht : NoOuterSlash t) : NoOuterSlash (beside s t) := by
  by_cases he : s = ""
  · rwa [he, empty_beside]
  · by_cases he' : t = ""
    · rwa [he', beside_empty]
    · rw [beside_of_ne he he']
      have hfront : s.toList ≠ [] := mt String.toList_eq_nil_iff.mp he
      have hback : t.toList ≠ [] := mt String.toList_eq_nil_iff.mp he'
      refine ⟨?_, ?_⟩
      · rw [String.toList_append, String.toList_append, List.append_assoc, List.head?_append,
          Option.or_of_isSome (by simpa using hfront)]
        exact hs.front
      · rw [String.toList_append, List.getLast?_append, Option.or_of_isSome (by simpa using hback)]
        exact ht.back

end Trim

/-- The parts that something is left of, without slashes at their ends. -/
def keptParts (parts : List String) : List String := (parts.map trimSlashes).filter fun p => !p.isEmpty

theorem joinParts_eq (parts : List String) : joinParts parts = String.intercalate "/" (keptParts parts) := rfl

theorem keptParts_append (xs ys : List String) : keptParts (xs ++ ys) = keptParts xs ++ keptParts ys := by
  simp [keptParts]

theorem keptParts_eq_nil {parts : List String} : keptParts parts = [] ↔ ∀ s ∈ parts, OnlySlashes s := by
  simp [keptParts, trimSlashes_eq_empty]

/-- Something comes of every part that is kept. -/
theorem joinParts_eq_empty_iff_kept {parts : List String} : joinParts parts = "" ↔ keptParts parts = [] := by
  rw [joinParts_eq]
  cases h : keptParts parts with
  | nil => simp
  | cons p ps =>
    have hp : p ≠ "" := by
      have hmem : p ∈ keptParts parts := by simp [h]
      simpa using (List.mem_filter.mp hmem).2
    cases ps with
    | nil => simpa using hp
    | cons q qs => simp [String.intercalate_cons_cons, hp]

theorem joinParts_eq_empty {parts : List String} : joinParts parts = "" ↔ ∀ s ∈ parts, OnlySlashes s :=
  joinParts_eq_empty_iff_kept.trans keptParts_eq_nil

/-- What parts give is what the first and the last ones of them give, beside one another. -/
theorem joinParts_append (xs ys : List String) : joinParts (xs ++ ys) = beside (joinParts xs) (joinParts ys) := by
  by_cases hx : keptParts xs = []
  · rw [joinParts_eq_empty_iff_kept.mpr hx, empty_beside, joinParts_eq, keptParts_append, hx, List.nil_append, joinParts_eq]
  · by_cases hy : keptParts ys = []
    · rw [joinParts_eq_empty_iff_kept.mpr hy, beside_empty, joinParts_eq, keptParts_append, hy, List.append_nil,
        joinParts_eq]
    · rw [beside_of_ne (mt joinParts_eq_empty_iff_kept.mp hx) (mt joinParts_eq_empty_iff_kept.mp hy), joinParts_eq,
        keptParts_append, String.intercalate_append_of_ne_nil hx hy]
      rfl

theorem joinParts_singleton (s : String) : joinParts [s] = trimSlashes s := by
  rw [joinParts_eq]
  by_cases h : trimSlashes s = ""
  · simp [keptParts, h]
  · simp [keptParts, h]

theorem noOuterSlash_joinParts (parts : List String) : NoOuterSlash (joinParts parts) := by
  induction parts with
  | nil => exact ⟨by decide, by decide⟩
  | cons s parts ih =>
    rw [← List.singleton_append, joinParts_append, joinParts_singleton]
    exact (noOuterSlash_trimSlashes s).beside ih

theorem joinPath_strings {args : Args} {parts : List String} (h : Json.lookup "parts" args = some (.strings parts)) :
    joinPath args = .ok (.string (joinParts parts)) := by
  have hitems (parts : List String) : (parts.map Json.string).mapM Json.str? = some parts := by
    induction parts with
    | nil => rfl
    | cons s parts ih => simp [List.mapM_cons, Json.str?, ih]
  simp [joinPath, h, Json.strings, hitems]

/-- The path of some parts and of some more is the path of the two paths, which is the two with a slash between them
unless one is empty. Parts of slashes only, wherever they stand, give nothing, and only they do; of any other part just
the slashes at its ends are lost. A path has none there, so it is the path of itself. -/
theorem joinPath_regroups (xs ys : List String) :
    (∀ args, Json.lookup "parts" args = some (.strings xs) → joinPath args = .ok (.string (joinParts xs))) ∧
      joinParts (xs ++ ys) = joinParts [joinParts xs, joinParts ys] ∧
      joinParts (xs ++ ys) = beside (joinParts xs) (joinParts ys) ∧
      (∀ s, OnlySlashes s → joinParts (xs ++ s :: ys) = joinParts (xs ++ ys)) ∧
      NoOuterSlash (joinParts xs) ∧ (joinParts xs = "" ↔ ∀ s ∈ xs, OnlySlashes s) ∧
      joinParts [joinParts xs] = joinParts xs ∧
      ∀ s, ∃ front back, OnlySlashes front ∧ OnlySlashes back ∧ s = front ++ joinParts [s] ++ back := by
  have hagain (parts : List String) : joinParts [joinParts parts] = joinParts parts := by
    rw [joinParts_singleton, (noOuterSlash_joinParts parts).trimSlashes_eq]
  refine ⟨fun args h => joinPath_strings h, ?_, joinParts_append xs ys, fun s hs => ?_, noOuterSlash_joinParts xs,
    joinParts_eq_empty, hagain xs, fun s => ?_⟩
  · calc joinParts (xs ++ ys) = beside (joinParts xs) (joinParts ys) := joinParts_append xs ys
      _ = beside (joinParts [joinParts xs]) (joinParts [joinParts ys]) := by rw [hagain, hagain]
      _ = joinParts [joinParts xs, joinParts ys] := (joinParts_append [_] [_]).symm
  · rw [joinParts_append, ← List.singleton_append, joinParts_append [s], joinParts_singleton, trimSlashes_eq_empty.mpr hs,
      empty_beside, joinParts_append]
  · rw [joinParts_singleton]
    exact trimSlashes_split s

/-- Slashes at either end of a part, in a part of their own, and within one. -/
theorem uneven_regroups :
    Json.lookup "parts" [("parts", .strings ["//src/", "a//b", "/"])] = some (.strings ["//src/", "a//b", "/"]) ∧
      OnlySlashes "//" ∧
      joinPath [("parts", .strings ["//src/", "a//b", "/"])] = .ok (.string "src/a//b") ∧
      joinParts (["//src/", "a//b", "/"] ++ "//" :: ["", "c"]) = joinParts (["//src/", "a//b", "/"] ++ ["", "c"]) := by
  have hslashes : OnlySlashes "//" := by decide
  obtain ⟨hpath, -, -, hinsert, -⟩ := joinPath_regroups ["//src/", "a//b", "/"] ["", "c"]
  exact ⟨rfl, hslashes, hpath _ rfl, hinsert "//" hslashes⟩

end ApiStencil.Template.Filter
