import ApiStencil.Proofs.Preparing
/-!
What becomes of a command that fails while a template is rendered. It ends the run, and the template has no
output, unless a condition has passed it over.
-/
set_option autoImplicit false

namespace ApiStencil

open FileSystem

theorem CallFailure.chain_error (f : CallFailure) :
    f.error.chain = s!"Template command '{f.command}' from {f.script.display} failed: {f.thrown}" := by
  rw [show f.error.chain = f.error.message from String.intercalate_singleton]
  unfold CallFailure.error Error.message
  with_reducible rfl

namespace Template

/-- A fault that is a failed call ends in the words for it. -/
theorem Fault.text_of_command {f : Fault} {failure : CallFailure} (h : f.cause = .command failure) :
    ∃ front, f.text = front ++ failure.error.chain := by
  rw [text, messages, h]
  show ∃ front, String.intercalate ": " (f.context ++ [failure.error.chain]) = front ++ failure.error.chain
  cases hc : f.context with
  | nil => exact ⟨"", by simp⟩
  | cons c cs =>
    rw [String.intercalate_append_of_ne_nil (by simp) (by simp)]
    exact ⟨String.intercalate ": " (c :: cs) ++ ": ", by simp⟩

theorem Cause.of_command? {c : Cause} {failure : CallFailure} (h : c.command? = some failure) :
    c = .command failure ∨ ∃ words cause, c = .hidden words cause := by
  cases c with
  | problem p => cases h
  | command f =>
    cases h
    exact .inl rfl
  | hidden words cause => exact .inr ⟨words, cause, rfl⟩

/-- The failed call that a rendering ends in. -/
def Rendering.fatal? {W : Type} (r : Rendering W) : Option CallFailure := r.fault.bind Fault.command?

theorem Rendering.accounts_of {W : Type} (env : Env W) {done : Except Fault Unit × State W × Ledger}
    (h : done.2.2.Accounts (Template.fatal? done.1)) : (Rendering.of env done).ledger.Accounts (Rendering.of env done).fatal? := by
  obtain ⟨_ | _, st, ledger⟩ := done
  · exact h
  · exact h

/-- Each call that has failed has been passed over, but for the one that the rendering ends in. -/
theorem Set.render_accounts {W : Type} (set : Set) (commands : Commands W) (context : List (String × Json))
    (t : Template) (world : W) :
    (set.render commands context t world).ledger.Accounts (set.render commands context t world).fatal? :=
  Rendering.accounts_of _ (Eval.accounts _ _ _ rfl)

end Template

namespace Renderer

/-- A run comes to the template in `file`: all has been read, the templates in `pre` have been rendered, and
the output is open. -/
structure Reaches (r : Renderer) (templates out : Path) (data : Json) (w : World) (p : Prepared)
    (pre : List (Path × Template)) (file : Path) (t : Template) (post : List (Path × Template)) (u : World)
    (host : Script.Host) (q : Path) (l : Location) (y : World) : Prop where
  prepared : (r.prepare templates out).on w = (.ok p, u)
  all : p.templates = pre ++ (file, t) :: post
  mapped : Path.outputOf p.dir.root file out r.options.templateExtension = .ok q
  opened : ∃ targets x, (renderFiles r p out (context data) pre p.host).on u = (.ok (targets, host), x) ∧
    (openOutput q).on x = (.ok l, y)

section Reaches

variable {r : Renderer} {templates out : Path} {data : Json} {w : World} {p : Prepared}
  {pre : List (Path × Template)} {file : Path} {t : Template} {post : List (Path × Template)} {u : World}
  {host : Script.Host} {q : Path} {l : Location} {y : World}

/-- Rendering the template at hand is settling what has been rendered of it. -/
theorem Reaches.renderFile_on (h : Reaches r templates out data w p pre file t post u host q l y) :
    ∃ targets x, (renderFiles r p out (context data) pre p.host).on u = (.ok (targets, host), x) ∧
      (renderFile file q host (p.rendering (context data) t)).on x =
        (settle file q l (p.rendering (context data) t (host, y.journal))).on y := by
  obtain ⟨targets, x, hpre, hopen⟩ := h.opened
  refine ⟨targets, x, hpre, ?_⟩
  unfold renderFile
  rw [Run.bind_on_ok hopen, Run.bind_on_ok (Run.get_on y)]

/-- Where the template at hand fails, so do the templates up to it with any others behind. -/
theorem Reaches.renderFiles_error (h : Reaches r templates out data w p pre file t post u host q l y) {e : Error}
    {v : World} (hsettle : (settle file q l (p.rendering (context data) t (host, y.journal))).on y = (.error e, v))
    (rest : List (Path × Template)) :
    (renderFiles r p out (context data) (pre ++ (file, t) :: rest) p.host).on u = (.error e, v) := by
  obtain ⟨targets, x, hpre, hrender⟩ := h.renderFile_on
  rw [renderFiles_append_on hpre, renderFiles, Run.bind_on, Run.ofExcept_on, h.mapped]
  dsimp only
  rw [Run.bind_on_error (hrender.trans hsettle)]

theorem Reaches.renderFiles_ok (h : Reaches r templates out data w p pre file t post u host q l y) {mid : Script.Host}
    {v : World} (hsettle : (settle file q l (p.rendering (context data) t (host, y.journal))).on y = (.ok mid, v)) :
    ∃ targets, (renderFiles r p out (context data) (pre ++ [(file, t)]) p.host).on u = (.ok (targets, mid), v) := by
  obtain ⟨targets, x, hpre, hrender⟩ := h.renderFile_on
  rw [renderFiles_append_on hpre, renderFiles, Run.bind_on, Run.ofExcept_on, h.mapped]
  dsimp only
  rw [Run.bind_on_ok (hrender.trans hsettle)]
  exact ⟨_, rfl⟩

theorem Reaches.render_error (h : Reaches r templates out data w p pre file t post u host q l y) {e : Error} {v : World}
    (hsettle : (settle file q l (p.rendering (context data) t (host, y.journal))).on y = (.error e, v)) :
    (r.render templates out data).on w = (.error e, v) := by
  unfold render
  rw [Run.bind_on_ok h.prepared]
  unfold write
  rw [h.all, Run.bind_on_error (h.renderFiles_error hsettle post)]

/-- What has been taken back is gone, when no link is at the path of the output. -/
theorem Reaches.takenBack_vacant (h : Reaches r templates out data w p pre file t post u host q l y)
    (hno : ∀ k t, y.files.resolve q false ≠ .ok (.present k (.link t))) (c : Bytes) :
    (takenBack (y.files.put l (.file c)) q).resolve q false = .ok (.vacant l) := by
  obtain ⟨targets, x, -, hopen⟩ := h.opened
  obtain ⟨fs, target, -, htarget, hplace, rfl⟩ := openOutput_ok hopen
  obtain ⟨hne, old, hold⟩ := at?_place htarget hplace
  have hopened : Alters (· = l) fs (fs.put l (.file [])) := .put [] hne hold
  have hempty : (fs.put l (.file [])).resolve q true = .ok (.present l (.file [])) :=
    resolve_grows hopened.grows htarget hplace (c := some []) (at?_put_self fs _ hne)
  have hfilled : Alters (· = l) (fs.put l (.file [])) ((fs.put l (.file [])).put l (.file c)) :=
    .put c hne (e := some []) (at?_put_self fs _ hne)
  have hwritten := resolve_grows hfilled.grows (resolve_notFollowing hempty hno) rfl (c := some c) (at?_put_self _ _ hne)
  exact (takenBack_of_file hwritten).2

/-- Of the calls that fail while a template is rendered, all are passed over but for the one that the
rendering ends in. That one ends the run: no template behind is rendered and the output is gone, when no link
is at its path. The words for it are the last ones of the message, unless they are hidden by others. Where the
rendering ends in no fault, the run goes on. -/
theorem failed_call_ends_render (h : Reaches r templates out data w p pre file t post u host q l y)
    (hno : ∀ k t, y.files.resolve q false ≠ .ok (.present k (.link t))) :
    (p.rendering (context data) t (host, y.journal)).ledger.failed =
        (p.rendering (context data) t (host, y.journal)).fatal?.toList ++
          (p.rendering (context data) t (host, y.journal)).ledger.passedOver ∧
      (∀ failure, (p.rendering (context data) t (host, y.journal)).fatal? = some failure →
        ∃ fault v, (p.rendering (context data) t (host, y.journal)).fault = some fault ∧
          (r.render templates out data).on w = (.error (.templateRender file fault.text), v) ∧
          (renderFiles r p out (context data) (pre ++ [(file, t)]) p.host).on u =
            (.error (.templateRender file fault.text), v) ∧
          v.files.resolve q false = .ok (.vacant l) ∧
          ((∃ front, fault.text = front ++
              s!"Template command '{failure.command}' from {failure.script.display} failed: {failure.thrown}") ∨
            ∃ words cause, fault.cause = .hidden words cause)) ∧
      ((p.rendering (context data) t (host, y.journal)).fault = none →
        ∃ targets mid v,
          (renderFiles r p out (context data) (pre ++ [(file, t)]) p.host).on u = (.ok (targets, mid), v)) := by
  refine ⟨Template.Set.render_accounts _ _ _ _ _, fun failure hfatal => ?_, fun hnone => ?_⟩
  · obtain ⟨fault, hfault, hcommand⟩ := Option.bind_eq_some_iff.mp hfatal
    obtain ⟨journal, hsettle⟩ := settle_of_some file q l y hfault
    refine ⟨fault, _, hfault, h.render_error hsettle, h.renderFiles_error hsettle [], h.takenBack_vacant hno _, ?_⟩
    rcases Template.Cause.of_command? hcommand with hc | hhidden
    · left
      rw [← failure.chain_error]
      exact Template.Fault.text_of_command hc
    · exact .inr hhidden
  · obtain ⟨journal, hsettle⟩ := settle_of_none file q l y hnone
    obtain ⟨targets, hok⟩ := h.renderFiles_ok hsettle
    exact ⟨targets, _, _, hok⟩

theorem Reaches.render_ok (h : Reaches r templates out data w p pre file t [] u host q l y)
    (hnone : (p.rendering (context data) t (host, y.journal)).fault = none) :
    ∃ report v, (r.render templates out data).on w = (.ok report, v) ∧
      v.files = y.files.put l (.file (Utf8.encode (p.rendering (context data) t (host, y.journal)).text)) := by
  obtain ⟨journal, hsettle⟩ := settle_of_none file q l y hnone
  obtain ⟨targets, hfiles⟩ := h.renderFiles_ok hsettle
  rw [← h.all] at hfiles
  unfold render
  rw [Run.bind_on_ok h.prepared]
  unfold write
  rw [Run.bind_on_ok hfiles]
  exact ⟨_, _, rfl, rfl⟩

end Reaches

/-- Checks what a run comes to at its only template. -/
def atOnly (r : Renderer) (out : Path) (check : Prepared → Template → Path → World → Bool)
    (prepared : Except Error Prepared × World) : Bool :=
  match prepared with
  | (.ok p, u) =>
    match p.templates with
    | [(file, t)] =>
      match Path.outputOf p.dir.root file out r.options.templateExtension with
      | .ok q =>
        match (openOutput q).on u with
        | (.ok _, y) => check p t q y
        | _ => false
      | .error _ => false
    | _ => false
  | _ => false

theorem reaches_of_atOnly {r : Renderer} {templates out : Path} (data : Json) {w : World}
    {check : Prepared → Template → Path → World → Bool}
    (h : atOnly r out check ((r.prepare templates out).on w) = true) :
    ∃ p file t u q l y, Reaches r templates out data w p [] file t [] u p.host q l y ∧ check p t q y = true := by
  unfold atOnly at h
  split at h
  · rename_i p u hprepare
    split at h
    · rename_i file t hall
      split at h
      · rename_i q hq
        split at h
        · rename_i l y hopen
          exact ⟨p, file, t, u, q, l, y, ⟨hprepare, hall, hq, [], u, rfl, hopen⟩, h⟩
        · cases h
      · cases h
    · cases h
  · cases h

/-- A template and a script whose command throws. -/
def throwing (template : String) : World :=
  .ofTexts [["t"]]
    [(["t", "a.txt.tmpl"], template), (["t", "s.js"], "registerTemplateCommand('boom', () => \x7b throw 'bang' \x7d)")]

/-- What the command fails with. -/
def bang : CallFailure := ⟨"boom", .ofString "/t/s.js", "bang"⟩

/-- A condition on what the command makes of a variable. -/
def asking : World := throwing "\x7b% if x | boom %\x7dyes\x7b% else %\x7dno\x7b% endif %\x7d"

/-- A sum of what the command makes of nothing. -/
def adding : World := throwing "\x7b\x7b boom() + 1 \x7d\x7d"

/-- The same call on its own. -/
def telling : World := throwing "\x7b\x7b boom() \x7d\x7d"

def oneData : Json := .object [("x", .number (.int 1))]

set_option maxRecDepth 100000 in
/-- The call fails in all three. The condition passes it over, the sum puts other words in place of its own, and on its
own it ends the rendering. -/
theorem throwing_fails :
    atOnly (ofOptions .default) (.ofString "/o")
        (fun p t _ y =>
          (p.rendering (context oneData) t (p.host, y.journal)).ledger.failed == [bang] &&
            (p.rendering (context oneData) t (p.host, y.journal)).fault.isNone &&
            (p.rendering (context oneData) t (p.host, y.journal)).text == "no")
        (((ofOptions .default).prepare (.ofString "/t") (.ofString "/o")).on asking) = true ∧
      atOnly (ofOptions .default) (.ofString "/o")
        (fun p t _ y =>
          (p.rendering (context oneData) t (p.host, y.journal)).ledger.failed == [bang] &&
            (p.rendering (context oneData) t (p.host, y.journal)).fault.any fun f =>
              f.text == "Failed to render 'a.txt.tmpl': Function call 'boom' failed")
        (((ofOptions .default).prepare (.ofString "/t") (.ofString "/o")).on adding) = true ∧
      atOnly (ofOptions .default) (.ofString "/o")
        (fun p t q y => (p.rendering (context .null) t (p.host, y.journal)).fatal? == some bang &&
          match y.files.resolve q false with
          | .ok (.present _ (.link _)) => false
          | _ => true)
        (((ofOptions .default).prepare (.ofString "/t") (.ofString "/o")).on telling) = true := by
  decide +kernel

/-- A command that fails in a condition is passed over: the run goes well, and there is an output. One that
fails in a sum ends the run, but the message does not say why. -/
theorem failed_calls_get_lost :
    (∃ p file t u q l y report v,
      Reaches (ofOptions .default) (.ofString "/t") (.ofString "/o") oneData asking p [] file t [] u p.host q l y ∧
        (p.rendering (context oneData) t (p.host, y.journal)).ledger.failed = [bang] ∧
        ((ofOptions .default).render (.ofString "/t") (.ofString "/o") oneData).on asking = (.ok report, v) ∧
        v.files.at? l = some (.file (Utf8.encode "no"))) ∧
      ∃ p file t u q l y v,
        Reaches (ofOptions .default) (.ofString "/t") (.ofString "/o") oneData adding p [] file t [] u p.host q l y ∧
          (p.rendering (context oneData) t (p.host, y.journal)).ledger.failed = [bang] ∧
          ((ofOptions .default).render (.ofString "/t") (.ofString "/o") oneData).on adding =
            (.error (.templateRender file "Failed to render 'a.txt.tmpl': Function call 'boom' failed"), v) := by
  constructor
  · obtain ⟨p, file, t, u, q, l, y, hreaches, hcheck⟩ := reaches_of_atOnly oneData throwing_fails.1
    simp only [Bool.and_eq_true, beq_iff_eq, Option.isNone_iff_eq_none] at hcheck
    obtain ⟨⟨hfailed, hnone⟩, htext⟩ := hcheck
    obtain ⟨report, v, hrender, hfiles⟩ := hreaches.render_ok hnone
    refine ⟨p, file, t, u, q, l, y, report, v, hreaches, hfailed, hrender, ?_⟩
    obtain ⟨targets, x, -, hopen⟩ := hreaches.opened
    obtain ⟨fs, target, -, htarget, hplace, -⟩ := openOutput_ok hopen
    rw [hfiles, htext]
    exact at?_put_self _ _ (at?_place htarget hplace).1
  · obtain ⟨p, file, t, u, q, l, y, hreaches, hcheck⟩ := reaches_of_atOnly oneData throwing_fails.2.1
    rw [Bool.and_eq_true, beq_iff_eq, Option.any_eq_true] at hcheck
    obtain ⟨hfailed, fault, hfault, htext⟩ := hcheck
    obtain ⟨journal, hsettle⟩ := settle_of_some file q l y hfault
    rw [beq_iff_eq.mp htext] at hsettle
    exact ⟨p, file, t, u, q, l, y, _, hreaches, hfailed, hreaches.render_error hsettle⟩

/-- What `failed_call_ends_render` says of the call on its own. -/
theorem telling_fails : ∃ p file t u q l y, ∃ fault : Template.Fault, ∃ v,
    Reaches (ofOptions .default) (.ofString "/t") (.ofString "/o") .null telling p [] file t [] u p.host q l y ∧
      (p.rendering (context .null) t (p.host, y.journal)).fatal? = some bang ∧
      ((ofOptions .default).render (.ofString "/t") (.ofString "/o") .null).on telling =
        (.error (.templateRender file fault.text), v) ∧
      v.files.resolve q false = .ok (.vacant l) := by
  obtain ⟨p, file, t, u, q, l, y, hreaches, hcheck⟩ := reaches_of_atOnly .null throwing_fails.2.2
  rw [Bool.and_eq_true, beq_iff_eq] at hcheck
  obtain ⟨hfatal, hlink⟩ := hcheck
  have hno (k : Location) (target : Path) : y.files.resolve q false ≠ .ok (.present k (.link target)) := by
    intro hk
    simp [hk] at hlink
  obtain ⟨-, hends, -⟩ := failed_call_ends_render hreaches hno
  obtain ⟨fault, v, -, hrender, -, hvacant, -⟩ := hends bang hfatal
  exact ⟨p, file, t, u, q, l, y, fault, v, hreaches, hfatal, hrender, hvacant⟩

end Renderer
end ApiStencil
