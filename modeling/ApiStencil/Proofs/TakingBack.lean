import ApiStencil.Generate
import ApiStencil.Proofs.Standing
import ApiStencil.Proofs.Writing
/-!
What is left of an output that is taken back. A file is made where its path leads through all links, but it is removed
by its path alone: nothing is left at the path, and where a link stood there, the file that the link leads to is left
with what has been written of it.
-/
set_option autoImplicit false

namespace ApiStencil
namespace FileSystem

/-- Where a link leads from the place where it stands. -/
def LinksTo (fs : FileSystem) (k : Location) (t : Path) (l : Location) : Prop :=
  fs.Heads (if t.isAbsolute then [] else k.dropLast) (steps t) l

namespace Walks

variable {fs : FileSystem} {n : Nat} {d k : Location} {names : List Bytes} {t : Path}

/-- Either a walk does not meet a link in the last place, or it stops at one if that is not followed. -/
theorem stops {r : Target} (h : Walks fs true n d names r) :
    Walks fs false n d names r ∨ ∃ k t, Walks fs false n d names (.present k (.link t)) := by
  by_cases hlink : ∃ k t, Walks fs false n d names (.present k (.link t))
  · exact .inr hlink
  · exact .inl (h.notFollowing fun k t hk => hlink ⟨k, t, hk⟩)

/-- A walk that stops at a link goes where the link leads if it is followed. -/
theorem leads {r : Target} (h : Walks fs false n d names (.present k (.link t))) (hd : fs.Rooted d)
    (hr : Walks fs true n d names r) (hno : ∀ k t, r ≠ .present k (.link t)) : fs.LinksTo k t r.location := by
  generalize hs : Target.present k (.link t) = s at h
  -- both walks go the same way up to the link that the first one stops at
  induction h with
  | here n he =>
    cases hs
    rw [hd.directory] at he
    cases he
  | stay _ _ ih => exact ih hd hr.of_dot hs
  | up _ _ ih => exact ih hd.dropLast hr.of_parent hs
  | @down n d name rest s e hdir hp he hl hw ih =>
    cases e with
    | directory => exact ih (hd.snoc he) (hr.of_standing hp he hl) hs
    | file c =>
      obtain ⟨-, rfl⟩ := hw.of_file he
      cases hs
    | link t' => exact absurd rfl (hl t')
  | vacant => cases hs
  | link n hf hdir hp he =>
    cases hs
    obtain ⟨m, -, hr⟩ := hr.of_link hp he
    rw [List.append_nil] at hr
    rw [LinksTo, List.dropLast_concat]
    exact hr.heads hno
  | through hdir hp he _ _ ih =>
    obtain ⟨m, hm, hr⟩ := hr.of_link hp he
    obtain rfl := Nat.succ.inj hm
    exact ih (hd.base _) hr hs

/-- Once a link that leads to no directory has been removed, there is nothing at a path that led to the link. -/
theorem remove_link {l : Location} (h : Walks fs false n d names (.present k (.link t))) (hd : fs.Rooted d)
    (hk : k ≠ []) (hlink : fs.at? k = some (.link t)) (hleads : fs.LinksTo k t l) (hl : fs.at? l ≠ some .directory) :
    Walks (fs.remove k) false n d names (.vacant k) := by
  have hstays {m : Location} {e : Entry} (he : fs.at? m = some e) (hne : ∀ t, e ≠ .link t) :
      (fs.remove k).at? m = some e := by
    rw [at?_remove fs m hk, if_neg, he]
    rintro rfl
    exact hne t (Option.some.inj (he.symm.trans hlink))
  generalize hs : Target.present k (.link t) = s at h
  -- the walk goes as before until it comes to the link
  induction h with
  | here n he =>
    cases hs
    rw [hd.directory] at he
    cases he
  | stay hdir _ ih => exact .stay (hstays hdir (by simp)) (ih hd hs)
  | up hdir _ ih => exact .up (hstays hdir (by simp)) (ih hd.dropLast hs)
  | @down n d name rest s e hdir hp he hno hw ih =>
    cases e with
    | directory => exact .down (hstays hdir (by simp)) hp (hstays he hno) hno (ih (hd.snoc he) hs)
    | file c =>
      obtain ⟨-, rfl⟩ := hw.of_file he
      cases hs
    | link t' => exact absurd rfl (hno t')
  | vacant => cases hs
  | link n _ hdir hp he =>
    cases hs
    exact .vacant n (hstays hdir (by simp)) hp (by rw [at?_remove fs _ hk, if_pos rfl])
  | @through n d name rest t' s hdir hp he hr hw ih =>
    by_cases hsame : d ++ [name] = k
    · -- the link would have to lead to a directory, as more names follow
      subst hsame
      rw [he, Option.some.injEq, Entry.link.injEq] at hlink
      subst hlink
      obtain ⟨m, l', hl', hrooted, -⟩ := hw.split (by simpa using hr) (hd.base t')
      rw [LinksTo, List.dropLast_concat] at hleads
      obtain rfl := hl'.unique hleads
      exact absurd hrooted.directory hl
    · refine .through (hstays hdir (by simp)) hp ?_ hr (ih (hd.base t') hs)
      rw [at?_remove fs _ hk, if_neg hsame, he]

end Walks

variable {fs : FileSystem} {q : Path} {l k : Location} {c : Bytes} {t : Path}

/-- Removing the file that has been made at a path leaves nothing there. What is removed is the file, or the link in its
place. -/
theorem removeFile_of_made (h : fs.resolve q true = .ok (.present l (.file c))) :
    ∃ k, k ≠ [] ∧ fs.removeFile q = .ok (fs.remove k) ∧ (fs.remove k).resolve q false = .ok (.vacant k) ∧
      (k = l ∨ ∃ t, fs.at? k = some (.link t)) := by
  obtain ⟨hnul, hempty, hw⟩ := resolve_iff.mp h
  have hfile := hw.of_present
  rcases hw.stops with hw' | ⟨k, t, hw'⟩
  · have hq : fs.resolve q false = .ok (.present l (.file c)) := resolve_iff.mpr ⟨hnul, hempty, hw'⟩
    have hne := (at?_place hq rfl).1
    have halters : Alters (· = l) fs (fs.remove l) := .remove hne (e := some c) hfile
    exact ⟨l, hne, by rw [removeFile, hq], resolve_grows halters.grows hq rfl (c := none) (by
      rw [at?_remove fs l hne, if_pos rfl]; rfl), .inl rfl⟩
  · have hq : fs.resolve q false = .ok (.present k (.link t)) := resolve_iff.mpr ⟨hnul, hempty, hw'⟩
    have hlink := hw'.of_present
    have hk : k ≠ [] := by
      rintro rfl
      cases hlink
    have hleads := hw'.leads fs.rooted_nil hw (by simp)
    refine ⟨k, hk, by rw [removeFile, hq], resolve_iff.mpr ⟨hnul, hempty, ?_⟩, .inr ⟨t, hlink⟩⟩
    exact hw'.remove_link fs.rooted_nil hk hlink hleads (by simp [Target.location, hfile])

end FileSystem

namespace Renderer

open FileSystem

variable {file q : Path} {host : Script.Host} {render : Command.Stage → Template.Rendering Command.Stage} {w y v : World}
  {l : Location} {e : Error}

/-- An output that has been opened and then fails is taken back: nothing is left at its path, and no other file is made or
changes. But where a link stood at the path, the link is what is removed, and the file that it leads to is left with what
had been rendered. -/
theorem failed_output_taken_back (hopen : (openOutput q).on w = (.ok l, y))
    (h : (renderFile file q host render).on w = (.error e, v)) :
    ∃ k, v.files.resolve q false = .ok (.vacant k) ∧ (k = l ↔ ∀ t, w.files.at? k ≠ some (.link t)) ∧
      (∀ m ≠ l, ∀ c, v.files.at? m = some (.file c) ↔ w.files.at? m = some (.file c)) ∧
      (k ≠ l → v.files.at? l = some (.file (Utf8.encode (render (host, w.journal)).text))) := by
  obtain ⟨fs, r, hdirs, hr, hplace, rfl⟩ := openOutput_ok hopen
  unfold renderFile at h
  rw [Run.bind_on_ok hopen, Run.bind_on_ok (Run.get_on _)] at h
  obtain ⟨halters, hmade⟩ := fill hdirs hr hplace (Utf8.encode (render (host, w.journal)).text)
  have hleft := settle_error h
  generalize hgs : (fs.put l (.file [])).put l (.file (Utf8.encode (render (host, w.journal)).text)) = gs
    at halters hmade hleft
  have hfile := at?_of_resolve hmade
  have hlinks (k : Location) (t : Path) := halters.grows.links k t
  obtain ⟨k, hk, hremoved, hvacant, hwhich⟩ := removeFile_of_made hmade
  replace hleft : v.files = gs.remove k := by rw [hleft, takenBack, hremoved]
  rw [hleft]
  refine ⟨k, hvacant, ?_, fun m hm c => ?_, fun hne => ?_⟩
  · constructor
    · rintro rfl t ht
      rw [(hlinks k t).mpr ht] at hfile
      cases hfile
    · intro hno
      rcases hwhich with hsame | ⟨t, ht⟩
      · exact hsame
      · exact absurd ((hlinks k t).mp ht) (hno t)
  · rw [at?_remove gs m hk]
    split
    · rename_i hmk
      subst hmk
      rcases hwhich with hsame | ⟨t, ht⟩
      · exact absurd hsame hm
      · simp [(hlinks m t).mp ht]
    · exact halters.file_iff hm c
  · rw [at?_remove gs l hk, if_neg (Ne.symm hne), hfile]

/-- A template that cannot be rendered to its end, and at the place of its output a link to a file. -/
def linked : World :=
  let texts := World.ofTexts [["t"], ["o"], ["k"]]
    [(["t", "a.txt.tmpl"], "start \x7b\x7b missing \x7d\x7d"), (["k", "old.txt"], "precious")]
  { texts with files := texts.files.put [Utf8.encode "o", Utf8.encode "a.txt"] (.link (.ofString "../k/old.txt")) }

/-- A rendering that comes half way. -/
def halfway (stage : Command.Stage) : Template.Rendering Command.Stage :=
  ⟨"start ", some (.of (.unknownVariable "missing" "a.txt.tmpl")), ⟨[], []⟩, stage⟩

theorem linked_opens : ((openOutput (.ofString "/o/a.txt")).on linked).1.isOk = true := by
  decide

/-- What `failed_output_taken_back` says of a rendering that is to go where the link stands. -/
theorem linked_taken_back : ∃ l y e v, (openOutput (.ofString "/o/a.txt")).on linked = (.ok l, y) ∧
    (renderFile (.ofString "/t/a.txt.tmpl") (.ofString "/o/a.txt") (ofOptions .default).host halfway).on linked =
      (.error e, v) ∧
    ∃ k, v.files.resolve (.ofString "/o/a.txt") false = .ok (.vacant k) ∧
      (k = l ↔ ∀ t, linked.files.at? k ≠ some (.link t)) ∧
      (∀ m ≠ l, ∀ c, v.files.at? m = some (.file c) ↔ linked.files.at? m = some (.file c)) ∧
      (k ≠ l → v.files.at? l = some (.file (Utf8.encode "start "))) := by
  have hopens := linked_opens
  rcases hopen : (openOutput (.ofString "/o/a.txt")).on linked with ⟨e | l, y⟩
  · simp [hopen, Except.isOk, Except.toBool] at hopens
  · have hfault : (halfway ((ofOptions .default).host, y.journal)).fault =
        some (.of (.unknownVariable "missing" "a.txt.tmpl")) := rfl
    obtain ⟨journal, hfails⟩ := settle_of_some (.ofString "/t/a.txt.tmpl") (.ofString "/o/a.txt") l y hfault
    have hrun : (renderFile (.ofString "/t/a.txt.tmpl") (.ofString "/o/a.txt") (ofOptions .default).host halfway).on linked =
        _ := (Run.bind_on_ok hopen).trans hfails
    exact ⟨l, y, _, _, rfl, hrun, failed_output_taken_back hopen hrun⟩

/-- Whether a run has failed and has left this in a file. -/
def leavesText (run : Except Error RenderReport × World) (p : Path) (text : String) : Bool :=
  match run with
  | (.error _, v) =>
    match v.files.readBytes p with
    | .ok content => content == Utf8.encode text
    | .error _ => false
  | _ => false

theorem of_leavesText {run : Except Error RenderReport × World} {p : Path} {text : String}
    (h : leavesText run p text = true) :
    ∃ e v, run = (.error e, v) ∧ v.files.readBytes p = .ok (Utf8.encode text) := by
  unfold leavesText at h
  split at h
  · rename_i e v
    split at h
    · rename_i content hread
      exact ⟨e, v, rfl, by rw [hread, beq_iff_eq.mp h]⟩
    · cases h
  · cases h

set_option maxRecDepth 100000 in
theorem linked_leaves : leavesText (((ofOptions .default).render (.ofString "/t") (.ofString "/o") .null).on linked)
    (.ofString "/k/old.txt") "start " = true := by
  decide +kernel

/-- The run fails, and of the file that the link led to nothing is left but what there was of the output. -/
theorem linked_spoilt : linked.files.readBytes (.ofString "/k/old.txt") = .ok (Utf8.encode "precious") ∧
    ∃ e v, ((ofOptions .default).render (.ofString "/t") (.ofString "/o") .null).on linked = (.error e, v) ∧
      v.files.readBytes (.ofString "/k/old.txt") = .ok (Utf8.encode "start ") :=
  ⟨rfl, of_leavesText linked_leaves⟩

end Renderer
end ApiStencil
