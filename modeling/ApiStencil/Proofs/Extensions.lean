import ApiStencil.Config.Basic
import Mathlib.Data.List.DropRight
/-!
Extensions as they are configured and as they are used. One that is used never begins with a dot or ends with a
blank. It begins with a blank just when one stands behind the dots that have been dropped, and just then it becomes
another one when it is configured anew.
-/
set_option autoImplicit false

namespace ApiStencil

namespace Text

variable {p : Char → Bool}

/-- What is cut off the end. -/
theorem dropEndWhile_split (p : Char → Bool) (cs : List Char) :
    ∃ behind, cs = dropEndWhile p cs ++ behind ∧ ∀ x ∈ behind, p x = true := by
  refine ⟨(cs.reverse.takeWhile p).reverse, ?_, fun x hx => ?_⟩
  · rw [dropEndWhile, ← List.reverse_append, List.takeWhile_append_dropWhile, List.reverse_reverse]
  · exact List.all_eq_true.mp List.all_takeWhile x (List.mem_reverse.mp hx)

/-- Nothing is cut off before a character that stays. -/
theorem dropEndWhile_append_cons {c : Char} (hc : p c = false) (xs ys : List Char) :
    dropEndWhile p (xs ++ c :: ys) = xs ++ c :: dropEndWhile p ys := by
  have hstop : (c :: xs.reverse).dropWhile p = c :: xs.reverse := List.dropWhile_cons_of_neg (by simp [hc])
  unfold dropEndWhile
  rw [List.reverse_append, List.reverse_cons, List.append_assoc, List.singleton_append, List.dropWhile_append, hstop]
  cases h : ys.reverse.dropWhile p with
  | nil => simp
  | cons d ds => simp

theorem getLast?_dropEndWhile (p : Char → Bool) (cs : List Char) : ∀ c ∈ (dropEndWhile p cs).getLast?, p c = false := by
  intro c hc
  obtain ⟨hne, rfl⟩ := List.mem_getLast?_eq_getLast hc
  exact Bool.eq_false_iff.mpr (List.rdropWhile_last_not p cs hne)

/-- Nothing is cut off behind a character that stays. -/
theorem dropEndWhile_eq_self {cs : List Char} (h : ∀ c ∈ cs.getLast?, p c = false) : dropEndWhile p cs = cs :=
  List.rdropWhile_eq_self_iff.mpr fun hne => Bool.eq_false_iff.mp (h _ (List.getLast?_eq_some_getLast hne))

theorem dropEndWhile_append_of_all {pad : List Char} (hpad : ∀ x ∈ pad, p x = true) (xs : List Char) :
    dropEndWhile p (xs ++ pad) = dropEndWhile p xs := by
  rw [dropEndWhile, List.reverse_append, List.dropWhile_append_of_pos (by simpa using hpad), dropEndWhile]

theorem mem_getLast?_of_suffix {xs ys : List Char} (h : xs <:+ ys) {c : Char} (hc : c ∈ xs.getLast?) :
    c ∈ ys.getLast? := by
  obtain ⟨front, rfl⟩ := h
  rw [List.getLast?_append, hc]
  rfl

end Text

namespace Config

open Text (isBlank trimChars dropEndWhile)

/-- The characters of an extension as it is used. -/
def bare (cs : List Char) : List Char := (trimChars cs).dropWhile (· == '.')

@[simp]
theorem toList_normalizeExtension (ext : String) : (normalizeExtension ext).toList = bare ext.toList :=
  String.toList_ofList

theorem normalizeExtension_inj {e e' : String} :
    normalizeExtension e = normalizeExtension e' ↔ bare e.toList = bare e'.toList := by
  rw [← String.toList_inj, toList_normalizeExtension, toList_normalizeExtension]

/-- Behind the dots at the front of an extension come blanks, and behind these something else. -/
structure Gapped (cs rest : List Char) : Prop where
  split : ∃ pad dots gap, cs = pad ++ (dots ++ (gap ++ rest)) ∧ (∀ x ∈ pad, isBlank x = true) ∧
    (dots ≠ [] ∧ ∀ x ∈ dots, x = '.') ∧ gap ≠ [] ∧ ∀ x ∈ gap, isBlank x = true
  visible : ∃ c tail, rest = c :: tail ∧ isBlank c = false

/-- Behind the blanks come only dots again. -/
def Hollow (cs : List Char) : Prop :=
  ∃ dots pad, Gapped cs (dots ++ pad) ∧ (∀ x ∈ dots, x = '.') ∧ ∀ x ∈ pad, isBlank x = true

section Bare

variable {cs rest : List Char}

theorem bare_head (cs : List Char) : (bare cs).head? ≠ some '.' := by
  have h := List.head?_dropWhile_not (· == '.') (trimChars cs)
  intro hdot
  rw [show (List.dropWhile (· == '.') (trimChars cs)).head? = some '.' from hdot] at h
  exact absurd h (by decide)

theorem bare_last (cs : List Char) : ∀ c ∈ (bare cs).getLast?, isBlank c = false := fun c hc =>
  Text.getLast?_dropEndWhile isBlank _ c (Text.mem_getLast?_of_suffix (List.dropWhile_suffix _) hc)

/-- What has no blank at its end is only cut at its front. -/
theorem bare_of_last (h : ∀ c ∈ cs.getLast?, isBlank c = false) :
    bare cs = (cs.dropWhile isBlank).dropWhile (· == '.') := by
  rw [bare, trimChars, Text.dropEndWhile_eq_self fun c hc => h c (Text.mem_getLast?_of_suffix (List.dropWhile_suffix _) hc)]

/-- Of an extension with a gap its blanks stay at the front. -/
theorem Gapped.bare_eq (h : Gapped cs rest) :
    ∃ gap, gap ≠ [] ∧ (∀ x ∈ gap, isBlank x = true) ∧ bare cs = gap ++ dropEndWhile isBlank rest := by
  obtain ⟨⟨pad, dots, gap, rfl, hpad, ⟨hne, hdots⟩, hgap, hblank⟩, c, tail, rfl, hc⟩ := h
  obtain ⟨d, dots', rfl⟩ := List.exists_cons_of_ne_nil hne
  obtain ⟨g, gap', rfl⟩ := List.exists_cons_of_ne_nil hgap
  obtain rfl : d = '.' := hdots d List.mem_cons_self
  have hg : (g == '.') = false := by
    refine beq_eq_false_iff_ne.mpr ?_
    rintro rfl
    exact absurd (hblank '.' List.mem_cons_self) (by decide)
  refine ⟨g :: gap', List.cons_ne_nil _ _, hblank, ?_⟩
  rw [bare, trimChars, List.dropWhile_append_of_pos hpad, List.cons_append, List.dropWhile_cons_of_neg (by decide),
    ← List.cons_append, ← List.append_assoc, Text.dropEndWhile_append_cons hc, List.append_assoc,
    List.dropWhile_append_of_pos (by simpa using hdots), List.cons_append, List.dropWhile_cons_of_neg (by simp [hg]),
    show dropEndWhile isBlank (c :: tail) = c :: dropEndWhile isBlank tail from Text.dropEndWhile_append_cons hc [] tail]
  rfl

/-- An extension begins with a blank only where there is a gap. -/
theorem exists_gapped {g : Char} {front : List Char} (h : bare cs = g :: front) (hg : isBlank g = true) :
    ∃ rest, Gapped cs rest := by
  obtain ⟨behind, hbehind, -⟩ : ∃ behind, cs.dropWhile isBlank = trimChars cs ++ behind ∧ _ :=
    Text.dropEndWhile_split isBlank (cs.dropWhile isBlank)
  have htrim : trimChars cs = (trimChars cs).takeWhile (· == '.') ++ bare cs :=
    List.takeWhile_append_dropWhile.symm
  have hsplit : bare cs = (bare cs).takeWhile isBlank ++ (bare cs).dropWhile isBlank :=
    List.takeWhile_append_dropWhile.symm
  refine ⟨(bare cs).dropWhile isBlank ++ behind, ⟨cs.takeWhile isBlank, (trimChars cs).takeWhile (· == '.'),
    (bare cs).takeWhile isBlank, ?_, List.all_eq_true.mp List.all_takeWhile, ⟨fun hnil => ?_, fun x hx => ?_⟩, ?_,
    List.all_eq_true.mp List.all_takeWhile⟩, ?_⟩
  · calc cs = cs.takeWhile isBlank ++ cs.dropWhile isBlank := List.takeWhile_append_dropWhile.symm
      _ = cs.takeWhile isBlank ++ (trimChars cs ++ behind) := by rw [hbehind]
      _ = cs.takeWhile isBlank ++ ((trimChars cs).takeWhile (· == '.') ++
          ((bare cs).takeWhile isBlank ++ (bare cs).dropWhile isBlank) ++ behind) := by rw [← hsplit, ← htrim]
      _ = _ := by simp only [List.append_assoc]
  · -- with no dots dropped, what has been trimmed would begin with a blank
    rw [hnil, List.nil_append, h] at htrim
    have hhead := List.head?_dropWhile_not isBlank cs
    rw [hbehind, htrim, List.cons_append, List.head?_cons] at hhead
    exact absurd hg (by simpa using hhead)
  · simpa using List.all_eq_true.mp List.all_takeWhile x hx
  · rw [h, List.takeWhile_cons_of_pos hg]
    exact List.cons_ne_nil _ _
  · -- what remains of the extension does not end with a blank, so not all of it are blanks
    have hhead := List.head?_dropWhile_not isBlank (bare cs)
    cases hrest : (bare cs).dropWhile isBlank with
    | cons c tail => exact ⟨c, tail ++ behind, rfl, by simpa [hrest] using hhead⟩
    | nil =>
      have hall := List.dropWhile_eq_nil_iff.mp hrest
      have hlast : (bare cs).getLast? = some ((bare cs).getLast (by simp [h])) := List.getLast?_eq_some_getLast _
      have := bare_last cs _ hlast
      rw [hall _ (List.getLast_mem _)] at this
      cases this

/-- Where there is no gap, an extension that is used stays as it is. -/
theorem bare_bare_of_not_gapped (h : ∀ rest, ¬Gapped cs rest) : bare (bare cs) = bare cs := by
  rw [bare_of_last (bare_last cs)]
  cases hb : bare cs with
  | nil => rfl
  | cons c front =>
    have hc : isBlank c = false := by
      cases hblank : isBlank c with
      | false => rfl
      | true => exact absurd (exists_gapped hb hblank) (fun ⟨rest, hrest⟩ => h rest hrest)
    have hdot : (c == '.') = false := by
      have := bare_head cs
      rw [hb, List.head?_cons] at this
      simpa using this
    rw [List.dropWhile_cons_of_neg (by simp [hc]), List.dropWhile_cons_of_neg (by simp [hdot])]

theorem Gapped.bare_bare (h : Gapped cs rest) : bare (bare cs) = (dropEndWhile isBlank rest).dropWhile (· == '.') := by
  obtain ⟨gap, -, hblank, heq⟩ := h.bare_eq
  obtain ⟨-, c, tail, rfl, hc⟩ := h
  rw [bare_of_last (bare_last cs), heq, List.dropWhile_append_of_pos hblank,
    show dropEndWhile isBlank (c :: tail) = c :: dropEndWhile isBlank tail from Text.dropEndWhile_append_cons hc [] tail,
    List.dropWhile_cons_of_neg (by simp [hc])]

theorem Gapped.bare_ne (h : Gapped cs rest) : bare (bare cs) ≠ bare cs := by
  obtain ⟨gap, hne, -, heq⟩ := h.bare_eq
  intro hsame
  have hlength := (List.dropWhile_suffix (· == '.') (l := dropEndWhile isBlank rest)).length_le
  rw [← h.bare_bare, hsame, heq, List.length_append] at hlength
  have := List.length_pos_iff.mpr hne
  omega

/-- An extension that is used stays what it is just when there is no gap in the configured one. -/
theorem bare_bare_iff : bare (bare cs) = bare cs ↔ ∀ rest, ¬Gapped cs rest :=
  ⟨fun hsame _ h => h.bare_ne hsame, bare_bare_of_not_gapped⟩

/-- Whether an extension that is used begins with a blank. -/
theorem bare_begins_iff : (∃ c ∈ (bare cs).head?, isBlank c = true) ↔ ∃ rest, Gapped cs rest := by
  constructor
  · rintro ⟨c, hc, hblank⟩
    obtain ⟨front, hfront⟩ := List.head?_eq_some_iff.mp hc
    exact exists_gapped hfront hblank
  · rintro ⟨rest, h⟩
    obtain ⟨gap, hne, hblank, heq⟩ := h.bare_eq
    obtain ⟨g, gap', rfl⟩ := List.exists_cons_of_ne_nil hne
    exact ⟨g, by simp [heq], hblank g List.mem_cons_self⟩

/-- Nothing is left of an extension that is configured anew if nothing was left of it at first, or if it is hollow. -/
theorem bare_bare_eq_nil_iff : bare (bare cs) = [] ↔ bare cs = [] ∨ Hollow cs := by
  constructor
  · intro hnil
    by_cases hgap : ∃ rest, Gapped cs rest
    · obtain ⟨rest, h⟩ := hgap
      rw [h.bare_bare, List.dropWhile_eq_nil_iff] at hnil
      obtain ⟨behind, hbehind, hblank⟩ := Text.dropEndWhile_split isBlank rest
      exact .inr ⟨_, behind, hbehind ▸ h, by simpa using hnil, hblank⟩
    · rw [bare_bare_of_not_gapped (not_exists.mp hgap)] at hnil
      exact .inl hnil
  · rintro (hnil | ⟨dots, pad, h, hdots, hpad⟩)
    · rw [hnil]
      rfl
    · rw [h.bare_bare, List.dropWhile_eq_nil_iff]
      intro x hx
      rw [Text.dropEndWhile_append_of_all hpad] at hx
      obtain ⟨behind, hbehind, -⟩ := Text.dropEndWhile_split isBlank dots
      exact beq_iff_eq.mpr (hdots x (hbehind ▸ List.mem_append_left behind hx))

end Bare

/-- All extensions of a configuration. -/
def extensions (c : Config) : List String := c.templateExtension :: c.scriptExtensions

/-- A configuration with its extensions as they are used. -/
def normalized (c : Config) : Config :=
  { c with
    templateExtension := c.renderOptions.templateExtension
    scriptExtensions := c.renderOptions.scriptExtensions }

theorem normalizeExtension_twice_iff {e : String} :
    normalizeExtension (normalizeExtension e) = normalizeExtension e ↔ ∀ rest, ¬Gapped e.toList rest := by
  rw [normalizeExtension_inj, toList_normalizeExtension, bare_bare_iff]

theorem isEmpty_normalizeExtension {e : String} : (normalizeExtension e).isEmpty = true ↔ bare e.toList = [] := by
  rw [String.isEmpty_iff, ← String.toList_eq_nil_iff, toList_normalizeExtension]

/-- What is missing in a configuration, extensions apart. -/
def lacking (c : Config) : Option (String × String) := c.required.find? fun x => (Text.trim x.2).isEmpty

theorem validate_eq_ok_iff {c : Config} :
    c.validate = .ok () ↔ c.lacking = none ∧ ∀ e ∈ c.extensions, bare e.toList ≠ [] := by
  rw [validate, ← lacking]
  cases c.lacking with
  | some x => simp
  | none =>
    simp only [extensions, List.forall_mem_cons, ← isEmpty_normalizeExtension, ne_eq, true_and]
    split
    · rename_i htemplate
      simp [htemplate]
    · rename_i htemplate
      split
      · rename_i hscripts
        obtain ⟨e, he, hempty⟩ := List.any_eq_true.mp hscripts
        simp only [reduceCtorEq, false_iff]
        exact fun h => h.2 e he hempty
      · rename_i hscripts
        simp only [true_iff]
        exact ⟨htemplate, fun e he hempty => hscripts (List.any_eq_true.mpr ⟨e, he, hempty⟩)⟩

theorem extensions_normalized (c : Config) : c.normalized.extensions = c.extensions.map normalizeExtension := rfl

theorem renderOptions_normalized_iff {c : Config} :
    c.normalized.renderOptions = c.renderOptions ↔ ∀ e ∈ c.extensions, ∀ rest, ¬Gapped e.toList rest := by
  rw [renderOptions, renderOptions, RenderOptions.mk.injEq]
  simp only [normalized, renderOptions, List.map_map, List.map_inj_left, Function.comp_apply,
    normalizeExtension_twice_iff, and_true, extensions, List.forall_mem_cons]

theorem validate_normalized_iff {c : Config} :
    c.normalized.validate = .ok () ↔ c.validate = .ok () ∧ ∀ e ∈ c.extensions, ¬Hollow e.toList := by
  rw [validate_eq_ok_iff, validate_eq_ok_iff, show c.normalized.lacking = c.lacking from rfl, and_assoc,
    ← forall₂_and, extensions_normalized, List.forall_mem_map]
  simp only [toList_normalizeExtension, ne_eq, bare_bare_eq_nil_iff, not_or]

/-- Without hollow extensions the same is found wrong. -/
theorem validate_normalized {c : Config} (h : ∀ e ∈ c.extensions, ¬Hollow e.toList) :
    c.normalized.validate = c.validate := by
  have hempty : ∀ e ∈ c.extensions,
      (normalizeExtension (normalizeExtension e)).isEmpty = (normalizeExtension e).isEmpty := by
    intro e he
    rw [Bool.eq_iff_iff, isEmpty_normalizeExtension, isEmpty_normalizeExtension, toList_normalizeExtension,
      bare_bare_eq_nil_iff, or_iff_left (h e he)]
  obtain ⟨htemplate, hscripts⟩ := List.forall_mem_cons.mp hempty
  have hany : (c.scriptExtensions.map normalizeExtension).any (fun e => (normalizeExtension e).isEmpty) =
      c.scriptExtensions.any fun e => (normalizeExtension e).isEmpty := by
    rw [List.any_map, Bool.eq_iff_iff, List.any_eq_true, List.any_eq_true]
    exact exists_congr fun e => and_congr_right fun he => by rw [Function.comp_apply, hscripts e he]
  simp only [validate, normalized, renderOptions, htemplate, hany]
  rfl

/-- A configuration with its extensions as they are used is used in the same way just when no extension has a gap
behind its dots, and is found fit just when it was before and no extension is hollow. What is used never begins with
a dot or ends with a blank, and it begins with a blank just where there is a gap. -/
theorem normalized_again (c : Config) :
    (c.normalized.renderOptions = c.renderOptions ↔ ∀ e ∈ c.extensions, ∀ rest, ¬Gapped e.toList rest) ∧
      (c.normalized.validate = .ok () ↔ c.validate = .ok () ∧ ∀ e ∈ c.extensions, ¬Hollow e.toList) ∧
      ((∀ e ∈ c.extensions, ¬Hollow e.toList) → c.normalized.validate = c.validate) ∧
      (∀ e ∈ c.normalized.extensions, e.toList.head? ≠ some '.' ∧ ∀ b ∈ e.toList.getLast?, isBlank b = false) ∧
      ∀ e ∈ c.extensions, (∃ b ∈ (normalizeExtension e).toList.head?, isBlank b = true) ↔ ∃ rest, Gapped e.toList rest := by
  refine ⟨renderOptions_normalized_iff, validate_normalized_iff, validate_normalized, ?_, fun e _ => ?_⟩
  · rw [extensions_normalized, List.forall_mem_map]
    intro e _
    rw [toList_normalizeExtension]
    exact ⟨bare_head _, bare_last _⟩
  · rw [toList_normalizeExtension]
    exact bare_begins_iff

/-- The extension of templates has a blank behind its dot, and one of scripts a dot behind that. -/
def spaced : Config := { ofPaths "a" "t" "o" with templateExtension := ". tmpl", scriptExtensions := [". ."] }

/-- It is found fit, and its templates are those whose extension begins with a blank. With the extensions that are used in
place of those configured, it looks for others, and then it is not fit. -/
theorem spaced_unstable : spaced.validate = .ok () ∧ spaced.renderOptions.templateExtension = " tmpl" ∧
    spaced.normalized.renderOptions.templateExtension = "tmpl" ∧
    spaced.normalized.validate = .error (.config "script_extensions must not contain empty entries") :=
  ⟨rfl, rfl, rfl, rfl⟩

end Config

end ApiStencil
