import ApiStencil.Command.Table
/-!
The entries of a command table: their names ascend and are those that scripts have registered, and each
stands for the command that was the last to be registered under it.
-/
set_option autoImplicit false

namespace ApiStencil.Command.Table

/-- The last of these commands with a name. -/
def latest? (name : String) (commands : List Script.Command) : Option Script.Command :=
  commands.reverse.find? fun c => c.name == name

theorem latest?_concat (name : String) (commands : List Script.Command) (c : Script.Command) :
    latest? name (commands ++ [c]) = if c.name == name then some c else latest? name commands := by
  rw [latest?, List.reverse_append, List.reverse_singleton, List.singleton_append, List.find?_cons]
  split <;> simp_all [latest?]

/-- The table of these commands: each name once, in ascending order, with the last command of that name. -/
structure Lists (t : Table) (commands : List Script.Command) : Prop where
  ascending : t.names.Pairwise (· < ·)
  names : ∀ name, name ∈ t.names ↔ ∃ c ∈ commands, c.name = name
  bound : ∀ name, t.get? name = latest? name commands

theorem lists_empty : Lists empty [] :=
  ⟨List.Pairwise.nil, by simp [names, empty], fun _ => rfl⟩

theorem mem_insertEntry (c : Script.Command) (es : List (String × Script.Command)) (name : String) :
    name ∈ (insertEntry c es).map (·.1) ↔ name ∈ es.map (·.1) ∨ name = c.name := by
  induction es with
  | nil => simp [insertEntry]
  | cons e es ih =>
    obtain ⟨n, d⟩ := e
    simp only [insertEntry]
    split
    · simp only [List.map_cons, List.mem_cons]
      exact Or.comm
    · split
      · rename_i hn
        have hn : n = c.name := by simpa using hn
        simp only [List.map_cons, List.mem_cons, hn]
        constructor
        · exact .inl
        · rintro (h | rfl)
          · exact h
          · exact .inl rfl
      · simp only [List.map_cons, List.mem_cons, ih]
        exact or_assoc.symm

theorem insertEntry_ascending (c : Script.Command) (es : List (String × Script.Command))
    (h : (es.map (·.1)).Pairwise (· < ·)) : ((insertEntry c es).map (·.1)).Pairwise (· < ·) := by
  induction es with
  | nil => simp [insertEntry]
  | cons e es ih =>
    obtain ⟨n, d⟩ := e
    obtain ⟨hfirst, hrest⟩ := List.pairwise_cons.mp h
    simp only [insertEntry]
    split
    · rename_i hlt
      refine List.pairwise_cons.mpr ⟨fun m hm => ?_, h⟩
      rcases List.mem_cons.mp hm with rfl | hm
      · exact hlt
      · exact String.lt_trans hlt (hfirst m hm)
    · rename_i hlt
      split
      · exact h
      · rename_i hne
        have hn : n < c.name := by
          have hne : n ≠ c.name := by simpa using hne
          grind
        refine List.pairwise_cons.mpr ⟨fun m hm => ?_, ih hrest⟩
        rcases (mem_insertEntry c es m).mp hm with hm | rfl
        · exact hfirst m hm
        · exact hn

theorem lookup_insertEntry (c : Script.Command) (es : List (String × Script.Command)) (name : String) :
    (insertEntry c es).lookup name = if c.name == name then some c else es.lookup name := by
  by_cases hname : c.name = name
  · subst hname
    rw [if_pos (by simp)]
    induction es with
    | nil => simp [insertEntry]
    | cons e es ih =>
      obtain ⟨n, d⟩ := e
      rw [insertEntry]
      split
      · simp
      · split
        · rename_i hn
          simp [(beq_iff_eq.mp hn).symm]
        · rename_i hn
          have hne : (c.name == n) = false := beq_false_of_ne (Ne.symm (by simpa using hn))
          rw [List.lookup_cons, hne]
          exact ih
  · have hne : (name == c.name) = false := beq_false_of_ne (Ne.symm hname)
    rw [if_neg (by simpa using hname)]
    induction es with
    | nil => simp [insertEntry, List.lookup_cons, hne]
    | cons e es ih =>
      obtain ⟨n, d⟩ := e
      rw [insertEntry]
      split
      · rw [List.lookup_cons, hne]
      · split
        · rename_i hn
          rw [beq_iff_eq.mp hn, List.lookup_cons, List.lookup_cons, hne]
        · rw [List.lookup_cons, List.lookup_cons, ih]

theorem Lists.insert {t : Table} {commands : List Script.Command} (h : t.Lists commands) (c : Script.Command) :
    (t.insert c).1.Lists (commands ++ [c]) := by
  refine ⟨insertEntry_ascending c _ h.ascending, fun name => ?_, fun name => ?_⟩
  · have hold := h.names name
    show name ∈ (insertEntry c t.entries).map (·.1) ↔ _
    rw [mem_insertEntry, show name ∈ t.entries.map (·.1) ↔ _ from hold]
    simp [or_and_right, exists_or, eq_comm]
  · rw [latest?_concat, ← h.bound name]
    exact lookup_insertEntry c t.entries name

theorem length_insertEntry (c : Script.Command) (es : List (String × Script.Command))
    (h : (es.map (·.1)).Pairwise (· < ·)) :
    (insertEntry c es).length + (es.lookup c.name).toList.length = es.length + 1 := by
  induction es with
  | nil => rfl
  | cons e es ih =>
    obtain ⟨n, d⟩ := e
    obtain ⟨hfirst, hrest⟩ := List.pairwise_cons.mp h
    have ih := ih hrest
    rw [insertEntry, List.lookup_cons]
    split
    · -- the names behind are greater still
      rename_i hlt
      have hne : (c.name == n) = false := beq_false_of_ne fun he => String.lt_irrefl n (he ▸ hlt)
      have hnone : es.lookup c.name = none := by
        rw [List.lookup_eq_none_iff]
        intro x hx
        have := String.lt_trans hlt (hfirst x.1 (List.mem_map_of_mem hx))
        exact bne_iff_ne.mpr fun he => String.lt_irrefl x.1 (he ▸ this)
      simp [hne, hnone]
    · split
      · rename_i hn
        simp [(beq_iff_eq.mp hn).symm]
      · rename_i hn
        have hne : (c.name == n) = false := beq_false_of_ne (Ne.symm (by simpa using hn))
        simp only [hne, List.length_cons]
        omega

/-- A command makes its table longer unless it takes the place of another one. -/
theorem Lists.length_insert {t : Table} {commands : List Script.Command} (h : t.Lists commands) (c : Script.Command) :
    (t.insert c).1.names.length + (latest? c.name commands).toList.length = t.names.length + 1 := by
  rw [← h.bound, Table.names, Table.names, List.length_map, List.length_map]
  exact length_insertEntry c t.entries h.ascending

theorem register_lists {relative : String} {commands found : List Script.Command} {t t' : Table} {w v : World}
    (ht : t.Lists found) (h : (register relative commands t).on w = (.ok t', v)) : t'.Lists (found ++ commands) := by
  induction commands generalizing found t w with
  | nil =>
    rw [register, Run.pure_on] at h
    cases h
    simpa using ht
  | cons c rest ih =>
    rw [register] at h
    obtain ⟨_, u, -, h⟩ := Run.bind_on_eq_ok h
    obtain ⟨u', hrest⟩ : ∃ u', (register relative rest (t.insert c).1).on u' = (.ok t', v) := by
      dsimp only [Table.insert] at h
      split at h
      · obtain ⟨_, u', -, h⟩ := Run.bind_on_eq_ok h
        exact ⟨u', h⟩
      · exact ⟨u, h⟩
    simpa using ih (ht.insert c) hrest

theorem loadScripts_lists {dir : TemplateDir} {scripts : List Path} {found registered : List Script.Command}
    {host host' : Script.Host} {t t' : Table} {w v : World} (ht : t.Lists found)
    (h : (loadScripts dir scripts found host t).on w = (.ok (registered, t', host'), v)) : t'.Lists registered := by
  induction scripts generalizing found host t w with
  | nil =>
    rw [loadScripts, Run.pure_on] at h
    cases h
    exact ht
  | cons p rest ih =>
    rw [loadScripts] at h
    obtain ⟨relative, _, -, h⟩ := Run.bind_on_eq_ok h
    obtain ⟨_, _, -, h⟩ := Run.bind_on_eq_ok h
    obtain ⟨fs, _, -, h⟩ := Run.bind_on_eq_ok h
    obtain ⟨source, _, -, h⟩ := Run.bind_on_eq_ok h
    obtain ⟨⟨commands, host⟩, _, -, h⟩ := Run.bind_on_eq_ok h
    obtain ⟨t, _, hregister, h⟩ := Run.bind_on_eq_ok h
    exact ih (register_lists ht hregister) h

/-- The table of a directory lists the names that its scripts register. -/
theorem loadAll_lists {host host' : Script.Host} {dir : TemplateDir} {extensions : List String}
    {registered : List Script.Command} {t : Table} {w v : World}
    (h : (loadAll host dir extensions).on w = (.ok (registered, t, host'), v)) : t.Lists registered := by
  obtain ⟨fs, _, -, h⟩ := Run.bind_on_eq_ok h
  obtain ⟨scripts, _, -, h⟩ := Run.bind_on_eq_ok h
  exact loadScripts_lists lists_empty h

end ApiStencil.Command.Table
