import ApiStencil.Proofs.Pieces
import ApiStencil.Template.Set
/-!
Names of templates. Paths that are texts give different names, so each template of a set is found under
its own.
-/
set_option autoImplicit false

namespace ApiStencil

namespace Path

theorem intercalate_cons_cons (sep n m : Bytes) (ns : List Bytes) :
    List.intercalate sep (n :: m :: ns) = n ++ sep ++ List.intercalate sep (m :: ns) := by
  simp [List.intercalate]

/-- Names that make up a text are texts with slashes between them. -/
theorem lossy_of_decode?_ofPieces {names : List Bytes} {s : String} (hne : names ≠ [])
    (h : Utf8.decode? (ofPieces names).bytes = some s) : String.intercalate "/" (names.map Utf8.lossy) = s := by
  induction names generalizing s with
  | nil => exact absurd rfl hne
  | cons n ns ih =>
    cases ns with
    | nil =>
      have hn : Utf8.decode? n = some s := by simpa [ofPieces, List.intercalate] using h
      simp [Utf8.lossy_of_decode? hn]
    | cons m ns =>
      have h' : Utf8.decode? (n ++ slash :: (ofPieces (m :: ns)).bytes) = some s := by
        simpa [ofPieces, intercalate_cons_cons] using h
      obtain ⟨t, u, ht, hu, hs⟩ := Utf8.decode?_mark (by decide) h'
      have hrest := ih (by simp) hu
      rw [List.map_cons] at hrest
      rw [List.map_cons, List.map_cons, String.intercalate_cons_cons, hrest, Utf8.lossy_of_decode? ht]
      apply String.toList_inj.mp
      rw [String.toList_append, String.toList_append, hs, List.append_assoc]
      rfl

/-- The name of a template is its path, where that is a text. -/
theorem templateName_of_decode? {names : List Bytes} {s : String} (hne : names ≠ []) (hn : ∀ n ∈ names, IsName n)
    (h : Utf8.decode? (ofPieces names).bytes = some s) : templateName (ofPieces names) = s := by
  rw [templateName, components_ofPieces hne hn, List.map_map]
  exact lossy_of_decode?_ofPieces hne h

end Path

namespace Template

theorem parse_name {name source : String} {t : Template} (h : parse name source = .ok t) : t.name = name := by
  unfold parse at h
  dsimp only at h
  split at h
  · cases h
  · split at h
    · cases h
    · split at h
      · cases h
      · cases h
      · cases h
        rfl

namespace Set

theorem ofList_of_nodup {ts : List Template} (h : (ts.map (·.name)).Nodup) : ofList ts = ⟨ts⟩ := by
  rw [ofList, Set.mk.injEq]
  induction ts with
  | nil => rfl
  | cons t ts ih =>
    obtain ⟨ht, hts⟩ := List.nodup_cons.mp h
    have hnone : ts.any (fun x => x.name == t.name) = false := by
      exact List.any_eq_false.mpr fun x hx he => ht (List.mem_map.mpr ⟨x, hx, beq_iff_eq.mp he⟩)
    rw [List.foldr_cons, ih hts, hnone]
    rfl

/-- A template is found under its name. -/
theorem get?_of_mem {ts : List Template} (h : (ts.map (·.name)).Nodup) {t : Template} (ht : t ∈ ts) :
    (ofList ts).get? t.name = some t := by
  rw [ofList_of_nodup h]
  show ts.find? (·.name == t.name) = some t
  induction ts with
  | nil => cases ht
  | cons x ts ih =>
    obtain ⟨hx, hts⟩ := List.nodup_cons.mp h
    rcases List.mem_cons.mp ht with rfl | ht
    · simp
    · have hne : x.name ≠ t.name := fun he => hx (List.mem_map.mpr ⟨t, ht, he.symm⟩)
      rw [List.find?_cons_of_neg (by simpa using hne)]
      exact ih hts ht

end Set
end Template
end ApiStencil
