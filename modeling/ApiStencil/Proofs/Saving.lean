import ApiStencil.Config.File
import ApiStencil.Proofs.Changes
import ApiStencil.Proofs.JsonSettings
import ApiStencil.Proofs.TomlSettings
import ApiStencil.Proofs.Utf8
import ApiStencil.Proofs.YamlSettings
/-!
A configuration that has been saved is loaded again as it was. In each format the text of a configuration is read as
the configuration, and what has been written to a file is what is read from it.
-/
set_option autoImplicit false

namespace ApiStencil

/-- What has been written is read, whether or not a file was there. -/
theorem FileSystem.readText_writeBytes {fs gs : FileSystem} {p : Path} {s : String}
    (h : fs.writeBytes p (Utf8.encode s) = .ok gs) : gs.readText p = .ok s := by
  unfold writeBytes at h
  cases hcreate : fs.createFile p with
  | error e => simp [hcreate] at h
  | ok x =>
    obtain ⟨hs, l⟩ := x
    simp only [hcreate, Except.ok.injEq] at h
    subst h
    obtain ⟨rfl, r, hr, hplace⟩ := createFile_ok hcreate
    obtain ⟨hne, old, hold⟩ := at?_place hr hplace
    have hopen : Alters (· = l) fs (fs.put l (.file [])) := .put [] hne hold
    have hfill := hopen.trans (.put (Utf8.encode s) hne (e := some []) (at?_put_self fs _ hne))
    have hresolve := resolve_grows hfill.grows hr hplace (c := some (Utf8.encode s)) (at?_put_self _ _ hne)
    have hbytes := readBytes_iff.mpr ⟨l, hresolve⟩
    simp only [readText, hbytes, Utf8.decode?_encode]

theorem Run.eq_ok_of_toBool {α : Type} {x : Run α} {w : World} (h : (x.on w).1.toBool = true) :
    ∃ a, x.on w = (.ok a, (x.on w).2) := by
  rcases hx : x.on w with ⟨r, v⟩
  rw [hx] at h
  cases r with
  | error e => cases h
  | ok a => exact ⟨a, rfl⟩

namespace Config

variable {c : Config} {p : Path} {w : World}

theorem Format.parse_render {f : Format} {s : String} (hc : ∀ n ∈ c.scriptTimeoutMs, n ≤ maxCount)
    (h : f.render c = .ok s) : f.parse s = .ok c := by
  cases f with
  | json =>
    have htext : JsonText.render c = s := Except.ok.inj h
    rw [← htext, parse, JsonText.parse_render hc]
    rfl
  | toml =>
    simp only [render] at h
    split at h
    next t ht =>
      rw [← Except.ok.inj h, parse, TomlText.parse_render ht]
      rfl
    next => cases h
  | yaml =>
    have htext : YamlText.render c = s := Except.ok.inj h
    rw [← htext, parse, YamlText.parse_render hc]
    rfl

/-- Only a format with smaller integers refuses a configuration. -/
theorem Format.render_error {f : Format} :
    (∃ e, f.render c = .error e) ↔ f = .toml ∧ ∃ n, c.scriptTimeoutMs = some n ∧ Toml.maxInteger < n := by
  cases f with
  | json => simp [render]
  | toml =>
    rw [← TomlText.render?_none]
    simp only [render]
    split <;> simp_all
  | yaml => simp [render]

/-- A configuration that has been saved stands in the file as its text. -/
theorem save_ok {v : World} (h : (save c p).on w = (.ok (), v)) :
    ∃ s, (Format.ofPath p).render c = .ok s ∧ v.files.readText p = .ok s := by
  obtain ⟨s, u, hrender, h⟩ := Run.bind_on_eq_ok h
  obtain ⟨htext, rfl⟩ := Run.ofExcept_on_eq hrender
  obtain ⟨fs, u, hfiles, h⟩ := Run.bind_on_eq_ok h
  obtain ⟨hfs, rfl⟩ := Prod.mk.inj hfiles
  obtain rfl := Except.ok.inj hfs
  obtain ⟨gs, x, hwrite, h⟩ := Run.bind_on_eq_ok h
  obtain ⟨hgs, rfl⟩ := Run.ofExcept_on_eq hwrite
  obtain ⟨-, rfl⟩ := Prod.mk.inj h
  cases hbytes : w.files.writeBytes p (Utf8.encode s) with
  | error e =>
    rw [hbytes] at hgs
    cases hgs
  | ok hs =>
    rw [hbytes] at hgs
    obtain rfl : hs = gs := Except.ok.inj hgs
    exact ⟨s, htext, FileSystem.readText_writeBytes hbytes⟩

/-- What is saved is loaded again, whichever format the path asks for; and where the format cannot hold the
configuration, which is so only of a timeout beyond its integers, no file is touched. -/
theorem load_saved (hc : ∀ n ∈ c.scriptTimeoutMs, n ≤ maxCount) (p : Path) (w : World) :
    (∀ v, (save c p).on w = (.ok (), v) → (load p).on v = (.ok c, v)) ∧
      (∀ e, (Format.ofPath p).render c = .error e → (save c p).on w = (.error e, w)) ∧
      ((∃ e, (Format.ofPath p).render c = .error e) ↔
        Format.ofPath p = .toml ∧ ∃ n, c.scriptTimeoutMs = some n ∧ Toml.maxInteger < n) := by
  refine ⟨fun v h => ?_, fun e h => ?_, Format.render_error⟩
  · obtain ⟨s, hrender, hread⟩ := save_ok h
    have htext : (Run.ofExcept ((v.files.readText p).mapError Error.io)).on v = (.ok s, v) := by
      rw [Run.ofExcept_on, hread]
      rfl
    refine (Run.bind_on_ok (Run.files_on v)).trans ((Run.bind_on_ok htext).trans ?_)
    rw [Run.ofExcept_on, Format.parse_render hc hrender]
  · have hrender : (Run.ofExcept ((Format.ofPath p).render c)).on w = (.error e, w) := by rw [Run.ofExcept_on, h]
    exact Run.bind_on_error hrender

/-- Texts that mean something else where they stand bare, and a timeout that only two of the formats can hold. -/
def unruly : Config :=
  { documentPath := "null"
    templateDir := "a: b # \"c\"\n\n"
    outputDir := ""
    verify := true
    templateExtension := "0x1F"
    scriptExtensions := ["~", "- \t'", "line\n  line"]
    scriptTimeoutMs := some maxCount }

/-- A file with an extension that is no text. -/
def unreadable : Path := ⟨[47, 99, 46, 255]⟩

/-- A world with one file in it, which is to be written over. -/
def written : World := ⟨⟨[([unreadable.bytes.tail], .file [35, 10])], ⟨[Path.slash]⟩⟩, .empty⟩

theorem unruly_saved : ((save unruly unreadable).on written).1.toBool = true ∧
    ((save unruly (.ofString "/c.Json")).on written).1.toBool = true := by
  decide +kernel

theorem unruly_is_loaded :
    (∃ v, (save unruly unreadable).on written = (.ok (), v) ∧ (load unreadable).on v = (.ok unruly, v)) ∧
      (∃ v, (save unruly (.ofString "/c.Json")).on written = (.ok (), v) ∧
        (load (.ofString "/c.Json")).on v = (.ok unruly, v)) ∧
      ∃ e, (save unruly (.ofString "/c.TOML")).on written = (.error e, written) := by
  have hc : ∀ n ∈ unruly.scriptTimeoutMs, n ≤ maxCount := by simp [unruly]
  obtain ⟨⟨⟩, hyaml⟩ := Run.eq_ok_of_toBool unruly_saved.1
  obtain ⟨⟨⟩, hjson⟩ := Run.eq_ok_of_toBool unruly_saved.2
  obtain ⟨-, hkept, hrefused⟩ := load_saved hc (.ofString "/c.TOML") written
  obtain ⟨e, he⟩ := hrefused.mpr ⟨by decide +kernel, maxCount, rfl, by decide⟩
  exact ⟨⟨_, hyaml, (load_saved hc unreadable written).1 _ hyaml⟩,
    ⟨_, hjson, (load_saved hc (.ofString "/c.Json") written).1 _ hjson⟩, e, hkept e he⟩

end Config
end ApiStencil
