import ApiStencil.Proofs.Pieces
/-!
What stands where in a file system, and how operations change that. A directory or a link stays what it
is for as long as only files are written and missing directories are made, so a path that leads to a
directory goes on leading there.
-/
set_option autoImplicit false

namespace ApiStencil
namespace FileSystem

section At

variable (fs : FileSystem)

theorem at?_of_ne_nil {l : Location} (h : l ≠ []) : fs.at? l = lookup l fs.entries := by
  simp [at?, h]

theorem mem_of_lookup {l : Location} {e : Entry} {es : List (Location × Entry)} (h : lookup l es = some e) :
    (l, e) ∈ es := by
  induction es with
  | nil => cases h
  | cons x es ih =>
    obtain ⟨k, e'⟩ := x
    rw [lookup] at h
    split at h
    · rename_i hk
      cases h
      simp [beq_iff_eq.mp hk]
    · exact List.mem_cons_of_mem _ (ih h)

theorem lookup_filter (keep : Location → Bool) (l : Location) (es : List (Location × Entry)) :
    lookup l (es.filter fun x => keep x.1) = if keep l then lookup l es else none := by
  induction es with
  | nil => simp [lookup]
  | cons x es ih =>
    obtain ⟨k, e⟩ := x
    by_cases hk : keep k = true
    · by_cases hkl : k = l
      · subst hkl
        simp [lookup, hk]
      · simp [lookup, hk, hkl, ih]
    · by_cases hkl : k = l
      · subst hkl
        simp [hk, ih]
      · simp [lookup, hk, hkl, ih]

theorem at?_put (l : Location) (e : Entry) (k : Location) (hl : l ≠ []) :
    (fs.put l e).at? k = if k = l then some e else fs.at? k := by
  by_cases hk : k = []
  · subst hk
    simp [at?, Ne.symm hl]
  · rw [at?_of_ne_nil _ hk, at?_of_ne_nil _ hk, put]
    by_cases hkl : k = l
    · subst hkl
      simp [lookup]
    · rw [if_neg hkl, lookup, if_neg (by simpa using Ne.symm hkl)]
      rw [lookup_filter (fun x => x != l)]
      simp [hkl]

theorem at?_put_self {l : Location} (e : Entry) (hl : l ≠ []) : (fs.put l e).at? l = some e := by
  rw [at?_put fs l e l hl, if_pos rfl]

theorem at?_remove {l : Location} (k : Location) (hl : l ≠ []) :
    (fs.remove l).at? k = if k = l then none else fs.at? k := by
  by_cases hk : k = []
  · subst hk
    simp [at?, Ne.symm hl]
  · rw [at?_of_ne_nil _ hk, at?_of_ne_nil _ hk, remove, lookup_filter (fun x => x != l)]
    by_cases hkl : k = l
    · simp [hkl]
    · simp [hkl]

end At

/-- What is done with a link on the way when `n` of them may be followed. -/
def onLink (fs : FileSystem) (follow : Bool) : Nat → Location → List Bytes → Except IoError Target
  | 0 => fun _ _ => .error .tooManyLinks
  | n + 1 => fs.walk follow n

theorem walk_eq (fs : FileSystem) (follow : Bool) (n : Nat) :
    fs.walk follow n = fs.walkNames follow (fs.onLink follow n) := by
  cases n <;> rfl

/-- A step of a walk, by what stands under the name. -/
theorem walk_cons (fs : FileSystem) (follow : Bool) (n : Nat) {d : Location} (hd : fs.at? d = some .directory)
    (name : Bytes) (rest : List Bytes) :
    fs.walk follow n d (name :: rest) =
      if name = [Path.dot] then fs.walk follow n d rest
      else if name = [Path.dot, Path.dot] then fs.walk follow n d.dropLast rest
      else if maxName < name.length then .error .nameTooLong
      else
        match fs.at? (d ++ [name]) with
        | none => if rest.isEmpty then .ok (.vacant (d ++ [name])) else .error .notFound
        | some (.link target) =>
          if rest.isEmpty && !follow then .ok (.present (d ++ [name]) (.link target))
          else fs.onLink follow n (if target.isAbsolute then [] else d) (steps target ++ rest)
        | some _ => fs.walk follow n (d ++ [name]) rest := by
  rw [walk_eq, walkNames]
  simp only [hd, beq_iff_eq, gt_iff_lt]
  exact if_neg (by simp)

theorem walk_of_notDirectory (fs : FileSystem) (follow : Bool) (n : Nat) {d : Location}
    (hd : fs.at? d ≠ some .directory) (name : Bytes) (rest : List Bytes) :
    fs.walk follow n d (name :: rest) = .error .notDirectory := by
  rw [walk_eq, walkNames]
  simp [hd]

/-- A name that is looked up where it stands. -/
structure Plain (name : Bytes) : Prop where
  notDot : name ≠ [Path.dot]
  notParent : name ≠ [Path.dot, Path.dot]
  short : name.length ≤ maxName

/-- A step of a walk under a name that is looked up, by what stands there. -/
theorem walk_plain (fs : FileSystem) (follow : Bool) (n : Nat) {d : Location} (hd : fs.at? d = some .directory)
    {name : Bytes} (hp : Plain name) (rest : List Bytes) :
    fs.walk follow n d (name :: rest) =
      match fs.at? (d ++ [name]) with
      | none => if rest.isEmpty then .ok (.vacant (d ++ [name])) else .error .notFound
      | some (.link target) =>
        if rest.isEmpty && !follow then .ok (.present (d ++ [name]) (.link target))
        else fs.onLink follow n (if target.isAbsolute then [] else d) (steps target ++ rest)
      | some _ => fs.walk follow n (d ++ [name]) rest := by
  rw [walk_cons fs follow n hd, if_neg hp.notDot, if_neg hp.notParent, if_neg (Nat.not_lt.mpr hp.short)]

/-- A walk that ends well stays at a name, goes up or looks it up. -/
theorem name_of_walk {fs : FileSystem} {follow : Bool} {n : Nat} {d : Location} (hd : fs.at? d = some .directory)
    {name : Bytes} {rest : List Bytes} {r : Target} (h : fs.walk follow n d (name :: rest) = .ok r) :
    name = [Path.dot] ∨ name = [Path.dot, Path.dot] ∨ Plain name := by
  by_cases hdot : name = [Path.dot]
  · exact .inl hdot
  by_cases hup : name = [Path.dot, Path.dot]
  · exact .inr (.inl hup)
  rw [walk_cons fs follow n hd, if_neg hdot, if_neg hup] at h
  by_cases hlen : maxName < name.length
  · rw [if_pos hlen] at h
    cases h
  · exact .inr (.inr ⟨hdot, hup, Nat.not_lt.mp hlen⟩)

/-- The walks that end well, one rule for what can be met under a name. -/
inductive Walks (fs : FileSystem) (follow : Bool) : Nat → Location → List Bytes → Target → Prop where
  | here (n : Nat) {d : Location} {e : Entry} : fs.at? d = some e → Walks fs follow n d [] (.present d e)
  | stay {n : Nat} {d : Location} {rest : List Bytes} {r : Target} : fs.at? d = some .directory →
    Walks fs follow n d rest r → Walks fs follow n d ([Path.dot] :: rest) r
  | up {n : Nat} {d : Location} {rest : List Bytes} {r : Target} : fs.at? d = some .directory →
    Walks fs follow n d.dropLast rest r → Walks fs follow n d ([Path.dot, Path.dot] :: rest) r
  | down {n : Nat} {d : Location} {name : Bytes} {rest : List Bytes} {r : Target} {e : Entry} :
    fs.at? d = some .directory → Plain name → fs.at? (d ++ [name]) = some e → (∀ t, e ≠ .link t) →
    Walks fs follow n (d ++ [name]) rest r → Walks fs follow n d (name :: rest) r
  | vacant (n : Nat) {d : Location} {name : Bytes} : fs.at? d = some .directory → Plain name →
    fs.at? (d ++ [name]) = none → Walks fs follow n d [name] (.vacant (d ++ [name]))
  | link (n : Nat) {d : Location} {name : Bytes} {t : Path} : follow = false → fs.at? d = some .directory →
    Plain name → fs.at? (d ++ [name]) = some (.link t) →
    Walks fs follow n d [name] (.present (d ++ [name]) (.link t))
  | through {n : Nat} {d : Location} {name : Bytes} {rest : List Bytes} {t : Path} {r : Target} :
    fs.at? d = some .directory → Plain name → fs.at? (d ++ [name]) = some (.link t) →
    (rest.isEmpty && !follow) = false →
    Walks fs follow n (if t.isAbsolute then [] else d) (steps t ++ rest) r → Walks fs follow (n + 1) d (name :: rest) r

theorem Walks.walk {fs : FileSystem} {follow : Bool} {n : Nat} {d : Location} {names : List Bytes} {r : Target}
    (h : Walks fs follow n d names r) : fs.walk follow n d names = .ok r := by
  induction h with
  | here n hd =>
    rw [walk_eq, walkNames, hd]
  | stay hd _ ih => rw [walk_cons _ _ _ hd, if_pos rfl, ih]
  | up hd _ ih => rw [walk_cons _ _ _ hd, if_neg (by simp), if_pos rfl, ih]
  | down hd hp he hl _ ih =>
    rw [walk_plain _ _ _ hd hp, he]
    split
    · contradiction
    · rename_i t ht
      exact absurd (Option.some.inj ht) (hl t)
    · exact ih
  | vacant n hd hp he =>
    rw [walk_plain _ _ _ hd hp, he]
    rfl
  | link n hf hd hp he =>
    rw [walk_plain _ _ _ hd hp, he]
    simp [hf]
  | through hd hp he hr _ ih =>
    rw [walk_plain _ _ _ hd hp, he]
    simpa only [hr, Bool.false_eq_true, if_false, onLink] using ih

section Rules

variable {fs : FileSystem} {follow : Bool} {n : Nat} {r : Target}

/-- The rule for a name that is looked up. -/
theorem walks_of_plain {d : Location} {name : Bytes} {rest : List Bytes}
    (hon : ∀ d names, fs.onLink follow n d names = .ok r → ∃ k, n = k + 1 ∧ Walks fs follow k d names r)
    (hrest : ∀ d, fs.walk follow n d rest = .ok r → Walks fs follow n d rest r) (hd : fs.at? d = some .directory)
    (hp : Plain name) (h : fs.walk follow n d (name :: rest) = .ok r) : Walks fs follow n d (name :: rest) r := by
  rw [walk_plain fs follow n hd hp] at h
  cases he : fs.at? (d ++ [name]) with
  | none =>
    cases rest with
    | nil =>
      simp only [he, List.isEmpty_nil, if_true, Except.ok.injEq] at h
      subst h
      exact .vacant n hd hp he
    | cons x rest => simp [he] at h
  | some e =>
    cases e with
    | file c => exact .down hd hp he (by simp) (hrest _ (by simpa [he] using h))
    | directory => exact .down hd hp he (by simp) (hrest _ (by simpa [he] using h))
    | link t =>
      simp only [he] at h
      cases hr : rest.isEmpty && !follow with
      | true =>
        rw [hr, if_pos rfl, Except.ok.injEq] at h
        subst h
        simp only [Bool.and_eq_true, List.isEmpty_iff, Bool.not_eq_eq_eq_not, Bool.not_true] at hr
        obtain ⟨rfl, hf⟩ := hr
        exact .link n hf hd hp he
      | false =>
        rw [hr, if_neg (by simp)] at h
        obtain ⟨k, rfl, hw⟩ := hon _ _ h
        exact .through hd hp he hr hw

theorem walks_of_names
    (hon : ∀ d names, fs.onLink follow n d names = .ok r → ∃ k, n = k + 1 ∧ Walks fs follow k d names r)
    (names : List Bytes) (d : Location) (h : fs.walk follow n d names = .ok r) : Walks fs follow n d names r := by
  -- the names of a link are walked with one link less, which is what `hon` is about
  induction names generalizing d with
  | nil =>
    rw [walk_eq, walkNames] at h
    cases hd : fs.at? d with
    | none => simp [hd] at h
    | some e =>
      simp only [hd, Except.ok.injEq] at h
      subst h
      exact .here n hd
  | cons name rest ih =>
    by_cases hd : fs.at? d = some .directory
    · rcases name_of_walk hd h with rfl | rfl | hp
      · rw [walk_cons fs follow n hd, if_pos rfl] at h
        exact .stay hd (ih d h)
      · rw [walk_cons fs follow n hd, if_neg (by simp), if_pos rfl] at h
        exact .up hd (ih d.dropLast h)
      · exact walks_of_plain hon ih hd hp h
    · rw [walk_of_notDirectory _ _ _ hd] at h
      cases h

end Rules

/-- A walk ends well exactly by the rules. -/
theorem walk_iff {fs : FileSystem} {follow : Bool} {n : Nat} {d : Location} {names : List Bytes} {r : Target} :
    fs.walk follow n d names = .ok r ↔ Walks fs follow n d names r := by
  refine ⟨fun h => ?_, Walks.walk⟩
  induction n generalizing d names with
  | zero => exact walks_of_names (fun _ _ he => by cases he) names d h
  | succ n ih => exact walks_of_names (fun _ _ he => ⟨n, rfl, ih he⟩) names d h

namespace Walks

variable {fs : FileSystem} {follow : Bool} {n : Nat} {d : Location} {names : List Bytes}

theorem of_present {l : Location} {e : Entry} (h : Walks fs follow n d names (.present l e)) : fs.at? l = some e := by
  generalize hr : Target.present l e = r at h
  induction h with
  | here n hd =>
    cases hr
    exact hd
  | stay _ _ ih => exact ih hr
  | up _ _ ih => exact ih hr
  | down _ _ _ _ _ ih => exact ih hr
  | vacant => cases hr
  | link n _ _ _ he =>
    cases hr
    exact he
  | through _ _ _ _ _ ih => exact ih hr

/-- Only a directory has something below it. -/
theorem directory_of_ne_nil {r : Target} (h : Walks fs follow n d names r) (hne : names ≠ []) :
    fs.at? d = some .directory := by
  cases h with
  | here => exact absurd rfl hne
  | stay hd => exact hd
  | up hd => exact hd
  | down hd => exact hd
  | vacant _ hd => exact hd
  | link _ _ hd => exact hd
  | through hd => exact hd

section Step

variable {name : Bytes} {r : Target}

theorem of_dot (h : Walks fs follow n d ([Path.dot] :: names) r) : Walks fs follow n d names r := by
  have hd := h.directory_of_ne_nil (by simp)
  rw [← walk_iff, walk_cons _ _ _ hd, if_pos rfl] at h
  exact walk_iff.mp h

theorem of_parent (h : Walks fs follow n d ([Path.dot, Path.dot] :: names) r) : Walks fs follow n d.dropLast names r := by
  have hd := h.directory_of_ne_nil (by simp)
  rw [← walk_iff, walk_cons _ _ _ hd, if_neg (by simp), if_pos rfl] at h
  exact walk_iff.mp h

/-- Where something other than a link stands under a name, the walk goes on from there. -/
theorem of_standing (h : Walks fs follow n d (name :: names) r) (hp : Plain name) {e : Entry}
    (he : fs.at? (d ++ [name]) = some e) (hno : ∀ t, e ≠ .link t) : Walks fs follow n (d ++ [name]) names r := by
  cases h with
  | stay => exact absurd rfl hp.notDot
  | up => exact absurd rfl hp.notParent
  | down _ _ _ _ h => exact h
  | vacant _ _ _ he' => simp [he] at he'
  | link _ _ _ _ he' => exact absurd (Option.some.inj (he.symm.trans he')) (hno _)
  | through _ _ he' => exact absurd (Option.some.inj (he.symm.trans he')) (hno _)

/-- A link that is followed is one less to follow. -/
theorem of_link {t : Path} (h : Walks fs true n d (name :: names) r) (hp : Plain name)
    (he : fs.at? (d ++ [name]) = some (.link t)) :
    ∃ m, n = m + 1 ∧ Walks fs true m (if t.isAbsolute then [] else d) (steps t ++ names) r := by
  cases h with
  | stay => exact absurd rfl hp.notDot
  | up => exact absurd rfl hp.notParent
  | down _ _ he' hno => exact absurd (Option.some.inj (he'.symm.trans he)) (hno t)
  | vacant _ _ _ he' => simp [he] at he'
  | link _ hf => cases hf
  | @through m _ _ _ _ _ _ _ he' _ h =>
    obtain rfl := Entry.link.inj (Option.some.inj (he.symm.trans he'))
    exact ⟨m, rfl, h⟩

end Step

/-- Something can be made only in a directory, and under a name. -/
theorem of_vacant {l : Location} (h : Walks fs follow n d names (.vacant l)) :
    fs.at? l = none ∧ l ≠ [] ∧ fs.at? l.dropLast = some .directory := by
  generalize hr : Target.vacant l = r at h
  induction h with
  | here => cases hr
  | stay _ _ ih => exact ih hr
  | up _ _ ih => exact ih hr
  | down _ _ _ _ _ ih => exact ih hr
  | vacant n hd _ he =>
    cases hr
    exact ⟨he, by simp, by simpa using hd⟩
  | link => cases hr
  | through _ _ _ _ _ ih => exact ih hr

/-- Where no link stands in the last place, it is the same whether such a link is followed or not. -/
theorem notFollowing {r : Target} (h : Walks fs true n d names r)
    (hno : ∀ l t, ¬Walks fs false n d names (.present l (.link t))) : Walks fs false n d names r := by
  induction h with
  | here n hd => exact .here n hd
  | stay hd _ ih => exact .stay hd (ih fun l t h => hno l t (.stay hd h))
  | up hd _ ih => exact .up hd (ih fun l t h => hno l t (.up hd h))
  | down hd hp he hl _ ih => exact .down hd hp he hl (ih fun l t h => hno l t (.down hd hp he hl h))
  | vacant n hd hp he => exact .vacant n hd hp he
  | link n hf => cases hf
  | @through n d name rest t _ hd hp he _ _ ih =>
    cases hr : rest.isEmpty with
    | true =>
      rw [List.isEmpty_iff.mp hr] at hno
      exact absurd (.link (n + 1) rfl hd hp he) (hno _ _)
    | false =>
      have hr' : (rest.isEmpty && !false) = false := by simp [hr]
      exact .through hd hp he hr' (ih fun l t' h => hno l t' (.through hd hp he hr' h))

end Walks

/-- Directories and links stay, and no further links are made. -/
structure Grows (fs gs : FileSystem) : Prop where
  workingDir : gs.workingDir = fs.workingDir
  directories : ∀ l, fs.at? l = some .directory → gs.at? l = some .directory
  links : ∀ l t, gs.at? l = some (.link t) ↔ fs.at? l = some (.link t)

namespace Grows

theorem refl (fs : FileSystem) : fs.Grows fs := ⟨rfl, fun _ h => h, fun _ _ => Iff.rfl⟩

theorem trans {fs gs hs : FileSystem} (h : fs.Grows gs) (k : gs.Grows hs) : fs.Grows hs where
  workingDir := k.workingDir.trans h.workingDir
  directories l hl := k.directories l (h.directories l hl)
  links l t := (k.links l t).trans (h.links l t)

end Grows

/-- A target where a file is or can be made. -/
def Target.place? : Target → Option Location
  | .vacant l | .present l (.file _) => some l
  | .present _ _ => none

/-- The target that a place for a file is when this stands there. -/
def Target.fileAt (l : Location) : Option Bytes → Target
  | none => .vacant l
  | some c => .present l (.file c)

/-- From a file there is no way on. -/
theorem Walks.of_file {fs : FileSystem} {follow : Bool} {n : Nat} {d : Location} {names : List Bytes} {r : Target}
    {c : Bytes} (h : Walks fs follow n d names r) (hd : fs.at? d = some (.file c)) :
    names = [] ∧ r = .present d (.file c) := by
  cases h with
  | here n he =>
    rw [hd] at he
    cases he
    exact ⟨rfl, rfl⟩
  | stay he => simp [hd] at he
  | up he => simp [hd] at he
  | down he => simp [hd] at he
  | vacant n he => simp [hd] at he
  | link n _ he => simp [hd] at he
  | through he => simp [hd] at he

/-- A directory all of whose ancestors are directories. -/
def Rooted (fs : FileSystem) (l : Location) : Prop := ∀ k, k <+: l → fs.at? k = some .directory

theorem rooted_nil (fs : FileSystem) : fs.Rooted [] := by
  intro k hk
  rw [List.prefix_nil.mp hk]
  rfl

theorem Rooted.directory {fs : FileSystem} {l : Location} (h : fs.Rooted l) : fs.at? l = some .directory :=
  h l (List.prefix_refl l)

theorem Rooted.dropLast {fs : FileSystem} {l : Location} (h : fs.Rooted l) : fs.Rooted l.dropLast :=
  fun k hk => h k (hk.trans (List.dropLast_prefix l))

theorem Rooted.snoc {fs : FileSystem} {l : Location} {name : Bytes} (h : fs.Rooted l)
    (hn : fs.at? (l ++ [name]) = some .directory) : fs.Rooted (l ++ [name]) := by
  intro k hk
  rcases List.prefix_concat_iff.mp hk with rfl | hk
  · exact hn
  · exact h k hk

/-- Where a link is followed from. -/
theorem Rooted.base {fs : FileSystem} {l : Location} (h : fs.Rooted l) (t : Path) :
    fs.Rooted (if t.isAbsolute then [] else l) := by
  split
  · exact fs.rooted_nil
  · exact h

/-- A name under which there is a file or nothing. -/
theorem Walks.fileAt {fs : FileSystem} {follow : Bool} {d : Location} {name : Bytes} {c : Option Bytes} (n : Nat)
    (hdir : fs.at? d = some .directory) (hp : Plain name) (hc : fs.at? (d ++ [name]) = c.map .file) :
    Walks fs follow n d [name] (.fileAt (d ++ [name]) c) := by
  cases c with
  | none => exact .vacant n hdir hp hc
  | some c => exact .down hdir hp hc (by simp) (.here n hc)

/-- A place for a file stays one for as long as nothing else is made there. -/
theorem Walks.grows {fs gs : FileSystem} (hg : fs.Grows gs) {follow : Bool} {n : Nat} {d l : Location}
    {names : List Bytes} {r : Target} {c : Option Bytes} (hc : gs.at? l = c.map .file)
    (h : Walks fs follow n d names r) (hr : r.place? = some l) (hd : fs.Rooted d) :
    Walks gs follow n d names (.fileAt l c) := by
  induction h with
  | here n he =>
    rw [hd.directory] at he
    cases he
    cases hr
  | stay he _ ih => exact .stay (hg.directories _ he) (ih hr hd)
  | up he _ ih => exact .up (hg.directories _ he) (ih hr hd.dropLast)
  | @down n d name rest r e hdir hp he hl hw ih =>
    cases e with
    | directory => exact .down (hg.directories _ hdir) hp (hg.directories _ he) (by simp) (ih hr (hd.snoc he))
    | link t => exact absurd rfl (hl t)
    | file c' =>
      obtain ⟨rfl, rfl⟩ := hw.of_file he
      simp only [Target.place?, Option.some.injEq] at hr
      subst hr
      exact .fileAt n (hg.directories _ hdir) hp hc
  | vacant n hdir hp _ =>
    simp only [Target.place?, Option.some.injEq] at hr
    subst hr
    exact .fileAt n (hg.directories _ hdir) hp hc
  | link => cases hr
  | through hdir hp he hf _ ih =>
    exact .through (hg.directories _ hdir) hp ((hg.links _ _).mpr he) hf (ih hr (hd.base _))

/-- Where names lead from a location when whatever is missing on the way is taken for a directory. -/
inductive Heads (fs : FileSystem) : Location → List Bytes → Location → Prop where
  | here (d : Location) : Heads fs d [] d
  | stay {d l : Location} {rest : List Bytes} : Heads fs d rest l → Heads fs d ([Path.dot] :: rest) l
  | up {d l : Location} {rest : List Bytes} : Heads fs d.dropLast rest l →
    Heads fs d ([Path.dot, Path.dot] :: rest) l
  | down {d l : Location} {name : Bytes} {rest : List Bytes} : name ≠ [Path.dot] → name ≠ [Path.dot, Path.dot] →
    (∀ t, fs.at? (d ++ [name]) ≠ some (.link t)) → Heads fs (d ++ [name]) rest l → Heads fs d (name :: rest) l
  | through {d l : Location} {name : Bytes} {rest : List Bytes} {t : Path} : name ≠ [Path.dot] →
    name ≠ [Path.dot, Path.dot] → fs.at? (d ++ [name]) = some (.link t) →
    Heads fs (if t.isAbsolute then [] else d) (steps t ++ rest) l → Heads fs d (name :: rest) l

namespace Heads

theorem unique {fs : FileSystem} {d l l' : Location} {names : List Bytes} (h : fs.Heads d names l)
    (h' : fs.Heads d names l') : l = l' := by
  induction h with
  | here d =>
    cases h'
    rfl
  | stay _ ih =>
    cases h' with
    | stay h' => exact ih h'
    | down hdot => exact absurd rfl hdot
    | through hdot => exact absurd rfl hdot
  | up _ ih =>
    cases h' with
    | up h' => exact ih h'
    | down _ hup => exact absurd rfl hup
    | through _ hup => exact absurd rfl hup
  | down hdot hup hn _ ih =>
    cases h' with
    | stay => exact absurd rfl hdot
    | up => exact absurd rfl hup
    | down _ _ _ h' => exact ih h'
    | through _ _ hn' => exact absurd hn' (hn _)
  | through hdot hup hn _ ih =>
    cases h' with
    | stay => exact absurd rfl hdot
    | up => exact absurd rfl hup
    | down _ _ hn' => exact absurd hn (hn' _)
    | through _ _ hn' h' =>
      rw [hn, Option.some.injEq, Entry.link.injEq] at hn'
      subst hn'
      exact ih h'

/-- It goes by links alone. -/
theorem of_grows {fs gs : FileSystem} (hg : fs.Grows gs) {d l : Location} {names : List Bytes}
    (h : gs.Heads d names l) : fs.Heads d names l := by
  induction h with
  | here d => exact .here d
  | stay _ ih => exact .stay ih
  | up _ ih => exact .up ih
  | down hdot hup hn _ ih => exact .down hdot hup (fun t ht => hn t ((hg.links _ t).mpr ht)) ih
  | through hdot hup hn _ ih => exact .through hdot hup ((hg.links _ _).mp hn) ih

theorem snoc_dot {fs : FileSystem} {d l : Location} {names : List Bytes} (h : fs.Heads d names l) :
    fs.Heads d (names ++ [[Path.dot]]) l := by
  induction h with
  | here d => exact .stay (.here d)
  | stay _ ih => exact .stay ih
  | up _ ih => exact .up ih
  | down hdot hup hn _ ih => exact .down hdot hup hn ih
  | through hdot hup hn _ ih =>
    rw [List.append_assoc] at ih
    exact .through hdot hup hn ih

end Heads

/-- A walk that ends well has gone where any of its names lead, and gone on from there. -/
theorem Walks.split {fs : FileSystem} {follow : Bool} {n : Nat} {d : Location} {names rest : List Bytes} {r : Target}
    (h : Walks fs follow n d (names ++ rest) r) (hne : rest ≠ []) (hd : fs.Rooted d) :
    ∃ m l, fs.Heads d names l ∧ fs.Rooted l ∧ Walks fs follow m l rest r := by
  -- induction on the walk; where no names are left, it goes on from there
  generalize hall : names ++ rest = all at h
  induction h generalizing names with
  | here n _ => simp [hne] at hall
  | @stay n d rest' r he hw ih =>
    cases names with
    | nil => exact ⟨n, d, .here d, hd, by simpa [← hall] using Walks.stay he hw⟩
    | cons x names =>
      obtain ⟨rfl, hrest⟩ := List.cons.inj hall
      obtain ⟨m, l, hl, hr, hw⟩ := ih hd hrest
      exact ⟨m, l, .stay hl, hr, hw⟩
  | @up n d rest' r he hw ih =>
    cases names with
    | nil => exact ⟨n, d, .here d, hd, by simpa [← hall] using Walks.up he hw⟩
    | cons x names =>
      obtain ⟨rfl, hrest⟩ := List.cons.inj hall
      obtain ⟨m, l, hl, hr, hw⟩ := ih hd.dropLast hrest
      exact ⟨m, l, .up hl, hr, hw⟩
  | @down n d name rest' r e he hp hn hl hw ih =>
    cases names with
    | nil => exact ⟨n, d, .here d, hd, by simpa [← hall] using Walks.down he hp hn hl hw⟩
    | cons x names =>
      obtain ⟨rfl, hrest⟩ := List.cons.inj hall
      have hdir := hw.directory_of_ne_nil (by simp [← hrest, hne])
      obtain ⟨m, l, hh, hr, hw⟩ := ih (hd.snoc hdir) hrest
      exact ⟨m, l, .down hp.notDot hp.notParent (fun t ht => hl t (Option.some.inj (hn.symm.trans ht))) hh, hr, hw⟩
  | @vacant n d name he hp hn =>
    cases names with
    | nil => exact ⟨n, d, .here d, hd, by simpa [← hall] using Walks.vacant n he hp hn⟩
    | cons x names => simp [hne] at hall
  | @link n d name t hf he hp hn =>
    cases names with
    | nil => exact ⟨n, d, .here d, hd, by simpa [← hall] using Walks.link n hf he hp hn⟩
    | cons x names => simp [hne] at hall
  | @through n d name rest' t r he hp hn hf hw ih =>
    cases names with
    | nil => exact ⟨n + 1, d, .here d, hd, by simpa [← hall] using Walks.through he hp hn hf hw⟩
    | cons x names =>
      obtain ⟨rfl, rfl⟩ := List.cons.inj hall
      obtain ⟨m, l, hh, hr, hw⟩ := ih (hd.base t) (List.append_assoc _ _ _)
      exact ⟨m, l, .through hp.notDot hp.notParent hn hh, hr, hw⟩

/-- No link stands below a location. -/
def LinkFree (fs : FileSystem) (l : Location) : Prop := ∀ k t, k ≠ [] → fs.at? (l ++ k) ≠ some (.link t)

theorem LinkFree.child {fs : FileSystem} {l : Location} (h : fs.LinkFree l) (name : Bytes) :
    fs.LinkFree (l ++ [name]) := by
  intro k t hk
  rw [List.append_assoc]
  exact h _ t (by simp)

/-- Where there are no links, names lead where they say. -/
theorem Walks.descend {fs : FileSystem} {follow : Bool} {n : Nat} {l : Location} {names rest : List Bytes}
    {r : Target} (h : Walks fs follow n l (names ++ rest) r) (hne : rest ≠ []) (hno : fs.LinkFree l)
    (hn : ∀ m ∈ names, Path.IsName m) (hl : fs.Rooted l) :
    Walks fs follow n (l ++ names) rest r ∧ fs.Rooted (l ++ names) := by
  induction names generalizing l with
  | nil => simpa using ⟨h, hl⟩
  | cons name names ih =>
    have hname := hn name (by simp)
    have hnames : ∀ m ∈ names, Path.IsName m := fun m hm => hn m (List.mem_cons_of_mem _ hm)
    have htail : names ++ rest ≠ [] := by simp [hne]
    rw [List.cons_append] at h
    generalize names ++ rest = tail at h ih htail
    cases h with
    | stay => exact absurd rfl hname.notDot
    | up => exact absurd rfl hname.notParent
    | down _ _ _ _ hw =>
      have hdir := hw.directory_of_ne_nil htail
      simpa using ih hw (hno.child name) hnames (hl.snoc hdir)
    | vacant => exact absurd rfl htail
    | link => exact absurd rfl htail
    | through _ _ he => exact absurd he (hno [name] _ (by simp))

/-- Where there are no links, a last name leads to a directory, or to a file or a vacant place that goes by it. -/
theorem Walks.last_cases {fs : FileSystem} {follow : Bool} {n : Nat} {l : Location} {name : Bytes} {r : Target}
    (h : Walks fs follow n l [name] r) (hno : fs.LinkFree l) (hl : fs.Rooted l) :
    (∃ k, r = .present k .directory) ∨
      Plain name ∧ (r = .vacant (l ++ [name]) ∨ ∃ c, r = .present (l ++ [name]) (.file c)) := by
  cases h with
  | stay _ hw =>
    cases hw with
    | here _ he => exact .inl ⟨l, by rw [Option.some.inj (he.symm.trans hl.directory)]⟩
  | up _ hw =>
    cases hw with
    | here _ he => exact .inl ⟨l.dropLast, by rw [Option.some.inj (he.symm.trans hl.dropLast.directory)]⟩
  | @down _ _ _ _ _ e _ hp he hlink hw =>
    cases hw with
    | here _ he' =>
      obtain rfl := Option.some.inj (he.symm.trans he')
      cases e with
      | file c => exact .inr ⟨hp, .inr ⟨c, rfl⟩⟩
      | directory => exact .inl ⟨_, rfl⟩
      | link t => exact absurd rfl (hlink t)
  | vacant _ _ hp => exact .inr ⟨hp, .inl rfl⟩
  | link _ _ _ _ he => exact absurd he (hno [name] _ (by simp))
  | through _ _ he => exact absurd he (hno [name] _ (by simp))

theorem LinkFree.not_link {fs : FileSystem} {follow : Bool} {n : Nat} {l k : Location} {name : Bytes} {t : Path}
    (h : fs.LinkFree l) (hl : fs.Rooted l) : ¬Walks fs follow n l [name] (.present k (.link t)) := by
  intro hw
  obtain ⟨_, hr⟩ | ⟨-, hr | ⟨_, hr⟩⟩ := hw.last_cases h hl <;> cases hr

/-- Where there are no links, a place for a file goes by the last name. -/
theorem Walks.last {fs : FileSystem} {follow : Bool} {n : Nat} {l k : Location} {name : Bytes} {r : Target}
    (h : Walks fs follow n l [name] r) (hr : r.place? = some k) (hno : fs.LinkFree l) (hl : fs.Rooted l) :
    k = l ++ [name] ∧ name ≠ [Path.dot] ∧ name ≠ [Path.dot, Path.dot] := by
  obtain ⟨_, rfl⟩ | ⟨hp, rfl | ⟨c, rfl⟩⟩ := h.last_cases hno hl
  · cases hr
  · exact ⟨(Option.some.inj hr).symm, hp.notDot, hp.notParent⟩
  · exact ⟨(Option.some.inj hr).symm, hp.notDot, hp.notParent⟩

theorem steps_of_last {p : Path} {ps : List Bytes} {name : Bytes} (h : p.pieces = ps ++ [name]) (hne : name ≠ []) :
    steps p = p.pieces.filter (· != []) := by
  have hlast : p.bytes.getLast? ≠ some Path.slash := by
    intro hs
    obtain ⟨qs, -, hqs⟩ := Path.pieces_of_endsWithSlash hs
    exact hne (List.append_inj_right' (h.symm.trans hqs) rfl |> List.singleton_inj.mp)
  simp [steps, hlast]

theorem steps_cases (p : Path) : steps p = p.stem.filter (· != []) ∨
    steps p = p.stem.filter (· != []) ++ [[Path.dot]] := by
  rw [steps, Path.filter_stem p _ rfl]
  split
  · exact .inr rfl
  · exact .inl rfl

/-- The names that lead to something below a path begin with those that lead to the path; a dot at their
end does not matter. -/
theorem stepsFromRoot_below (fs : FileSystem) (out : Path) :
    ∃ base, (fs.stepsFromRoot out = base ∨ fs.stepsFromRoot out = base ++ [[Path.dot]]) ∧
      ∀ names name, (∀ n ∈ names ++ [name], n ≠ [] ∧ Path.slash ∉ n) →
        fs.stepsFromRoot (out.join (.ofPieces (names ++ [name]))) = base ++ names ++ [name] := by
  refine ⟨(if out.isAbsolute then out else fs.workingDir.join out).stem.filter (· != []), steps_cases _, ?_⟩
  intro names name h
  have hkept : (names ++ [name]).filter (· != []) = names ++ [name] :=
    List.filter_eq_self.mpr fun n hn => by simpa using (h n hn).1
  have hrel := Path.isAbsolute_ofPieces_of_parts (by simp) h
  have hjoin := Path.pieces_join_ofPieces out (by simp) h
  have hname := (h name (by simp)).1
  unfold stepsFromRoot
  rw [Path.isAbsolute_join hrel]
  by_cases ha : out.isAbsolute = true
  · rw [if_pos ha, if_pos ha, steps_of_last (by rw [hjoin, List.append_assoc]) hname, hjoin, List.filter_append, hkept,
      List.append_assoc]
  · have hnot := ha
    rw [if_neg ha, if_neg ha]
    have ha : (out.join (.ofPieces (names ++ [name]))).isAbsolute = false := by
      rw [Path.isAbsolute_join hrel]
      simpa using ha
    have hfrom := Path.pieces_join (p := fs.workingDir) ha
    rw [hjoin] at hfrom
    have hout : (fs.workingDir.join out).stem.filter (· != []) =
        fs.workingDir.stem.filter (· != []) ++ out.stem.filter (· != []) := by
      rw [Path.filter_stem _ _ rfl, Path.pieces_join (by simpa using hnot), List.filter_append, Path.filter_stem out _ rfl]
    rw [steps_of_last (by rw [hfrom, ← List.append_assoc, ← List.append_assoc]) hname, hfrom, hout]
    rw [List.filter_append, List.filter_append, hkept]
    simp only [List.append_assoc]

theorem resolve_iff {fs : FileSystem} {p : Path} {follow : Bool} {r : Target} :
    fs.resolve p follow = .ok r ↔
      p.bytes.contains 0 = false ∧ p.isEmpty = false ∧ Walks fs follow maxLinks [] (fs.stepsFromRoot p) r := by
  rw [← walk_iff]
  unfold resolve
  cases p.bytes.contains 0 <;> cases p.isEmpty <;> simp

theorem at?_of_resolve {fs : FileSystem} {p : Path} {follow : Bool} {l : Location} {e : Entry}
    (h : fs.resolve p follow = .ok (.present l e)) : fs.at? l = some e :=
  (resolve_iff.mp h).2.2.of_present

theorem isDir_iff {fs : FileSystem} {p : Path} :
    fs.isDir p = true ↔ ∃ l, fs.resolve p true = .ok (.present l .directory) := by
  unfold isDir
  constructor
  · intro h
    split at h
    · rename_i l hl
      exact ⟨l, hl⟩
    · cases h
  · rintro ⟨l, hl⟩
    rw [hl]

/-- What stands where a path leads, when a file is or can be made there. -/
theorem at?_place {fs : FileSystem} {p : Path} {follow : Bool} {r : Target} {l : Location}
    (h : fs.resolve p follow = .ok r) (hr : r.place? = some l) : l ≠ [] ∧ ∃ c : Option Bytes, fs.at? l = c.map .file := by
  cases r with
  | vacant k =>
    cases hr
    obtain ⟨hnone, hne, -⟩ := (resolve_iff.mp h).2.2.of_vacant
    exact ⟨hne, none, hnone⟩
  | present k e =>
    cases e with
    | file c =>
      cases hr
      have he := at?_of_resolve h
      refine ⟨?_, some c, he⟩
      rintro rfl
      cases he
    | directory => cases hr
    | link t => cases hr

theorem resolve_grows {fs gs : FileSystem} (hg : fs.Grows gs) {p : Path} {follow : Bool} {r : Target} {l : Location}
    {c : Option Bytes} (h : fs.resolve p follow = .ok r) (hr : r.place? = some l) (hc : gs.at? l = c.map .file) :
    gs.resolve p follow = .ok (.fileAt l c) := by
  obtain ⟨hnul, hempty, hw⟩ := resolve_iff.mp h
  refine resolve_iff.mpr ⟨hnul, hempty, ?_⟩
  rw [stepsFromRoot, hg.workingDir]
  exact hw.grows hg hc hr fs.rooted_nil

/-- The location of something below a path, by the names that lead there. -/
def Below (fs : FileSystem) (p : Path) (names : List Bytes) (l : Location) : Prop :=
  ∃ base, fs.Heads [] (fs.stepsFromRoot p) base ∧ l = base ++ names

theorem Below.unique {fs : FileSystem} {p : Path} {names names' : List Bytes} {l l' : Location}
    (h : fs.Below p names l) (h' : fs.Below p names' l') : l = l' ↔ names = names' := by
  obtain ⟨base, hbase, rfl⟩ := h
  obtain ⟨base', hbase', rfl⟩ := h'
  rw [hbase'.unique hbase, List.append_cancel_left_eq]

/-- No link stands below the place of a path. -/
def LinkFreeBelow (fs : FileSystem) (p : Path) : Prop := ∀ l, fs.Below p [] l → fs.LinkFree l

theorem linkFree_of_all {fs : FileSystem} (h : fs.entries.all (fun x => !x.2.isLink) = true) (l : Location) :
    fs.LinkFree l := by
  intro k t hk he
  rw [at?_of_ne_nil fs (by simp [hk])] at he
  have hmem := List.all_eq_true.mp h _ (mem_of_lookup he)
  simp [Entry.isLink] at hmem

theorem linkFreeBelow_of_all {fs : FileSystem} (h : fs.entries.all (fun x => !x.2.isLink) = true) (p : Path) :
    fs.LinkFreeBelow p :=
  fun l _ => linkFree_of_all h l

section Below

variable {fs gs : FileSystem} (hg : fs.Grows gs) {out : Path} (hfree : fs.LinkFreeBelow out) {names : List Bytes}
  {name : Bytes} (hnames : ∀ n ∈ names, Path.IsName n) (hname : name ≠ [] ∧ Path.slash ∉ name)

include hg hfree hnames hname

theorem walks_below {follow : Bool} {r : Target}
    (h : gs.resolve (out.join (.ofPieces (names ++ [name]))) follow = .ok r) :
    ∃ base m, fs.Heads [] (fs.stepsFromRoot out) base ∧ Walks gs follow m (base ++ names) [name] r ∧
      gs.LinkFree (base ++ names) ∧ gs.Rooted (base ++ names) := by
  have hall := Path.parts_snoc hnames hname
  obtain ⟨base, hbase, hbelow⟩ := gs.stepsFromRoot_below out
  obtain ⟨-, -, hw⟩ := resolve_iff.mp h
  rw [hbelow names name hall, List.append_assoc] at hw
  obtain ⟨m, l, hl, hroot, hw⟩ := hw.split (by simp) gs.rooted_nil
  have hheads : fs.Heads [] (fs.stepsFromRoot out) l := by
    have hsame : fs.stepsFromRoot out = gs.stepsFromRoot out := by rw [stepsFromRoot, stepsFromRoot, hg.workingDir]
    rw [hsame]
    rcases hbase with hbase | hbase
    · rw [hbase]
      exact hl.of_grows hg
    · rw [hbase]
      exact (hl.of_grows hg).snoc_dot
  have hlinks : gs.LinkFree l := by
    intro k t hk he
    exact hfree l ⟨l, hheads, by simp⟩ k t hk ((hg.links _ t).mp he)
  obtain ⟨hw, hroot⟩ := hw.descend (by simp) hlinks hnames hroot
  refine ⟨l, m, hheads, hw, ?_, hroot⟩
  intro k t hk
  rw [List.append_assoc]
  exact hlinks _ t (by simp [hk])

/-- A file below a path without links below it is made where its names say. -/
theorem place_below {follow : Bool} {r : Target} {l : Location}
    (h : gs.resolve (out.join (.ofPieces (names ++ [name]))) follow = .ok r) (hr : r.place? = some l) :
    fs.Below out (names ++ [name]) l ∧ Path.IsName name := by
  obtain ⟨base, m, hbase, hw, hlinks, hroot⟩ := walks_below hg hfree hnames hname h
  obtain ⟨rfl, hdot, hparent⟩ := hw.last hr hlinks hroot
  exact ⟨⟨base, hbase, by simp⟩, hname.1, hname.2, hdot, hparent⟩

theorem not_link_below {follow : Bool} {l : Location} {t : Path} :
    gs.resolve (out.join (.ofPieces (names ++ [name]))) follow ≠ .ok (.present l (.link t)) := by
  intro h
  obtain ⟨base, m, -, hw, hlinks, hroot⟩ := walks_below hg hfree hnames hname h
  exact hlinks.not_link hroot hw

end Below

end FileSystem
end ApiStencil
