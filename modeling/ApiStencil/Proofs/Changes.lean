import ApiStencil.Proofs.Files
/-!
What operations change in a file system. Missing directories may be made anywhere; beyond that, only the
files that are written change.
-/
set_option autoImplicit false

namespace ApiStencil
namespace FileSystem

/-- What may become of what stands at a location, `own` saying whether a file may be written there. -/
inductive Change (own : Prop) : Option Entry → Option Entry → Prop where
  | same (e : Option Entry) : Change own e e
  | made : Change own none (some .directory)
  | written (c : Option Bytes) (e : Option Entry) : own → (∀ t, e ≠ some (.link t)) → Change own (c.map .file) e

/-- Files are written at some locations only. -/
structure Alters (own : Location → Prop) (fs gs : FileSystem) : Prop where
  workingDir : gs.workingDir = fs.workingDir
  at? : ∀ l, Change (own l) (fs.at? l) (gs.at? l)

theorem Change.mono {p q : Prop} (hpq : p → q) {e e' : Option Entry} (h : Change p e e') : Change q e e' := by
  cases h with
  | same => exact .same _
  | made => exact .made
  | written c _ hp hl => exact .written c _ (hpq hp) hl

theorem Change.trans {p : Prop} {a b c : Option Entry} (h : Change p a b) (k : Change p b c) : Change p a c := by
  cases h with
  | same => exact k
  | made =>
    generalize hd : some Entry.directory = d at k
    cases k with
    | same => exact hd ▸ .made
    | made => cases hd
    | written x => cases x <;> cases hd
  | written x _ hp hl =>
    cases k with
    | same => exact .written x _ hp hl
    | made => exact .written x _ hp (by simp)
    | written _ _ _ hl' => exact .written x _ hp hl'

namespace Alters

variable {own : Location → Prop} {fs gs : FileSystem}

theorem refl (own : Location → Prop) (fs : FileSystem) : Alters own fs fs := ⟨rfl, fun _ => .same _⟩

theorem trans {hs : FileSystem} (h : Alters own fs gs) (k : Alters own gs hs) : Alters own fs hs :=
  ⟨k.workingDir.trans h.workingDir, fun l => (h.at? l).trans (k.at? l)⟩

theorem mono {own' : Location → Prop} (hown : ∀ l, own l → own' l) (h : Alters own fs gs) : Alters own' fs gs :=
  ⟨h.workingDir, fun l => (h.at? l).mono (hown l)⟩

theorem grows (h : Alters own fs gs) : fs.Grows gs where
  workingDir := h.workingDir
  directories l hl := by
    have hc := h.at? l
    revert hl
    generalize fs.at? l = a at hc
    generalize gs.at? l = b at hc
    intro hl
    cases hc with
    | same => exact hl
    | made => rfl
    | written c => cases c <;> cases hl
  links l t := by
    have hc := h.at? l
    generalize fs.at? l = a at hc
    generalize gs.at? l = b at hc
    cases hc with
    | same => exact Iff.rfl
    | made => simp
    | written c _ _ hl => cases c <;> simp [hl t]

theorem elsewhere (h : Alters own fs gs) {l : Location} (hl : ¬own l) :
    gs.at? l = fs.at? l ∨ fs.at? l = none ∧ gs.at? l = some .directory := by
  have hc := h.at? l
  generalize fs.at? l = a at hc
  generalize gs.at? l = b at hc
  cases hc with
  | same => exact .inl rfl
  | made => exact .inr ⟨rfl, rfl⟩
  | written _ _ hown => exact absurd hown hl

/-- A file that is not among those written stays as it is, and no other is made. -/
theorem file_iff (h : Alters own fs gs) {l : Location} (hl : ¬own l) (c : Bytes) :
    gs.at? l = some (.file c) ↔ fs.at? l = some (.file c) := by
  rcases h.elsewhere hl with he | ⟨hold, hnew⟩
  · rw [he]
  · simp [hold, hnew]

/-- What changes is one location. -/
theorem alone {l : Location} {e : Option Entry} (hdir : gs.workingDir = fs.workingDir)
    (hat : ∀ k, gs.at? k = if k = l then e else fs.at? k) (hc : Change (own l) (fs.at? l) e) : Alters own fs gs := by
  refine ⟨hdir, fun k => ?_⟩
  rw [hat k]
  by_cases hk : k = l
  · subst hk
    rwa [if_pos rfl]
  · rw [if_neg hk]
    exact .same _

theorem put {l : Location} {e : Option Bytes} (c : Bytes) (hne : l ≠ []) (hat : fs.at? l = e.map .file) :
    Alters (· = l) fs (fs.put l (.file c)) :=
  alone rfl (fun k => at?_put fs l _ k hne) (hat ▸ .written e _ rfl (by simp))

theorem remove {l : Location} {e : Option Bytes} (hne : l ≠ []) (hat : fs.at? l = e.map .file) :
    Alters (· = l) fs (fs.remove l) :=
  alone rfl (fun k => at?_remove fs k hne) (hat ▸ .written e _ rfl (by simp))

end Alters

/-- Nothing changes but directories that are made. -/
abbrev AddsDirs (fs gs : FileSystem) : Prop := Alters (fun _ => False) fs gs

/-- A directory is made where there is nothing yet. -/
theorem makeDir_ok {fs gs : FileSystem} {p : Path} (h : fs.makeDir p = .ok gs) :
    ∃ l, fs.resolve (.ofPieces (Path.trimRight p.pieces)) false = .ok (.vacant l) ∧ gs = fs.put l .directory := by
  unfold makeDir at h
  cases hr : fs.resolve (.ofPieces (Path.trimRight p.pieces)) false with
  | error e => simp [hr] at h
  | ok r =>
    cases r with
    | present k e => simp [hr] at h
    | vacant l =>
      simp only [hr, Except.ok.injEq] at h
      exact ⟨l, rfl, h.symm⟩

theorem makeDir_addsDirs {fs gs : FileSystem} {p : Path} (h : fs.makeDir p = .ok gs) : AddsDirs fs gs := by
  obtain ⟨l, hr, rfl⟩ := makeDir_ok h
  obtain ⟨hnone, hne, -⟩ := (resolve_iff.mp hr).2.2.of_vacant
  exact .alone rfl (fun k => at?_put fs l _ k hne) (hnone ▸ .made)

theorem ensureDir_addsDirs (fs : FileSystem) (p : Path) : AddsDirs fs (fs.ensureDir p).2 := by
  unfold ensureDir
  cases h : fs.makeDir p with
  | ok gs => exact makeDir_addsDirs h
  | error e => exact .refl _ fs

theorem ensureDirs_go_addsDirs (fuel : Nat) (fs : FileSystem) (p : Path) :
    AddsDirs fs (ensureDirs.go fuel fs p).2 := by
  induction fuel generalizing p with
  | zero => exact .refl _ fs
  | succ fuel ih =>
    rw [ensureDirs.go]
    split
    · exact .refl _ fs
    · split
      · rename_i h
        exact makeDir_addsDirs h
      · split
        · exact .refl _ fs
        · rename_i parent _
          have hparent := ih parent
          split
          · rename_i hgo
            rwa [hgo] at hparent
          · rename_i hgo
            rw [hgo] at hparent
            exact hparent.trans (ensureDir_addsDirs _ p)
      · exact .refl _ fs

/-- Making directories changes nothing else, also where it fails half way. -/
theorem ensureDirs_addsDirs (fs : FileSystem) (p : Path) : AddsDirs fs (fs.ensureDirs p).2 :=
  ensureDirs_go_addsDirs _ fs p

theorem createFile_ok {fs gs : FileSystem} {p : Path} {l : Location} (h : fs.createFile p = .ok (gs, l)) :
    gs = fs.put l (.file []) ∧ ∃ r, fs.resolve p true = .ok r ∧ r.place? = some l := by
  unfold createFile at h
  cases hr : fs.resolve p true with
  | error e => simp [hr] at h
  | ok r =>
    cases r with
    | vacant k =>
      simp only [hr, Except.ok.injEq, Prod.mk.injEq] at h
      obtain ⟨rfl, rfl⟩ := h
      exact ⟨rfl, _, rfl, rfl⟩
    | present k e =>
      cases e with
      | file c =>
        simp only [hr, Except.ok.injEq, Prod.mk.injEq] at h
        obtain ⟨rfl, rfl⟩ := h
        exact ⟨rfl, _, rfl, rfl⟩
      | directory => simp [hr] at h
      | link t => simp [hr] at h

/-- Where a file can be read, it stands at the place that its path leads to. -/
theorem readBytes_iff {fs : FileSystem} {p : Path} {c : Bytes} :
    fs.readBytes p = .ok c ↔ ∃ l, fs.resolve p true = .ok (.present l (.file c)) := by
  unfold readBytes
  cases hr : fs.resolve p true with
  | error e => simp
  | ok r =>
    cases r with
    | vacant k => simp
    | present k e => cases e <;> simp

end FileSystem
end ApiStencil
