import ApiStencil.Yaml.Token.Lexer
/-!
Tokens are found ahead of the place where they are taken. How far ahead makes no difference: what a lexer finds is
the same before and after its first token is taken, unless a key may still begin before that token.
-/
set_option autoImplicit false

namespace ApiStencil.Yaml.Lexer

/-- The lexer before its last token was taken. -/
def under (t : Token) (l : Lexer) : Lexer := { l with queue := t :: l.queue, taken := l.taken - 1 }

/-- No key begins before tokens that have been taken. -/
def Sound (l : Lexer) : Prop := ∀ c ∈ l.candidate :: l.outer, ∀ x ∈ c, l.taken ≤ x.number

/-- A step that does not depend on the last token that was taken. -/
structure Steady (f : Lexer → Except Fault Lexer) : Prop where
  commutes (t : Token) {l : Lexer} (hl : l.Sound) (ht : 0 < l.taken) : f (l.under t) = (f l).map (under t)
  sound {l l' : Lexer} (hl : l.Sound) (h : f l = .ok l') : l'.Sound ∧ l'.taken = l.taken

namespace Steady

theorem bind {f g : Lexer → Except Fault Lexer} (hf : Steady f) (hg : Steady g) : Steady fun l => f l >>= g where
  commutes t l hl ht := by
    rw [hf.commutes t hl ht]
    cases h : f l with
    | error e => rfl
    | ok l₁ =>
      obtain ⟨hs, heq⟩ := hf.sound hl h
      exact hg.commutes t hs (heq ▸ ht)
  sound {l l'} hl h := by
    cases h₁ : f l with
    | error e => simp [h₁, Bind.bind, Except.bind] at h
    | ok l₁ =>
      obtain ⟨hs, heq⟩ := hf.sound hl h₁
      have h₂ : g l₁ = .ok l' := by simpa [h₁, Bind.bind, Except.bind] using h
      obtain ⟨hs', heq'⟩ := hg.sound hs h₂
      exact ⟨hs', heq'.trans heq⟩

/-- A step that cannot fail. -/
theorem pure {f : Lexer → Lexer}
    (hu : ∀ (t : Token) {l : Lexer}, l.Sound → 0 < l.taken → f (l.under t) = (f l).under t)
    (hs : ∀ {l : Lexer}, l.Sound → (f l).Sound ∧ (f l).taken = l.taken) : Steady fun l => .ok (f l) where
  commutes t l hl ht := by rw [hu t hl ht]; rfl
  sound hl h := by
    obtain rfl := Except.ok.inj h
    exact hs hl

/-- A step that goes on with what it has read of the text. -/
theorem read {α : Type} {r : Lexer → Except Fault α} {g : α → Lexer → Except Fault Lexer}
    (hr : ∀ t l, r (Lexer.under t l) = r l) (hg : ∀ a, Steady (g a)) : Steady fun l => r l >>= fun a => g a l where
  commutes t l hl ht := by
    rw [hr]
    cases r l with
    | error e => rfl
    | ok a => exact (hg a).commutes t hl ht
  sound {l l'} hl h := by
    cases h' : r l with
    | error e => simp [h', Bind.bind, Except.bind] at h
    | ok a => exact (hg a).sound hl (by simpa [h', Bind.bind, Except.bind] using h)

theorem ite {p : Lexer → Bool} {f g : Lexer → Except Fault Lexer} (hp : ∀ t l, p (Lexer.under t l) = p l)
    (hf : Steady f) (hg : Steady g) : Steady fun l => if p l then f l else g l where
  commutes t l hl ht := by
    rw [hp]
    split
    · exact hf.commutes t hl ht
    · exact hg.commutes t hl ht
  sound hl h := by
    split at h
    · exact hf.sound hl h
    · exact hg.sound hl h

theorem fail {e : Lexer → Fault} (he : ∀ t l, e (Lexer.under t l) = e l) : Steady fun l => .error (e l) where
  commutes t l hl ht := by rw [he]; rfl
  sound hl h := nomatch h

/-- A step that leaves the tokens and the candidates alone. -/
theorem keeps {f : Lexer → Lexer} (hu : ∀ t l, f (Lexer.under t l) = (f l).under t)
    (hc : ∀ l, (f l).candidate = l.candidate) (ho : ∀ l, (f l).outer = l.outer) (ht : ∀ l, (f l).taken = l.taken) :
    Steady fun l => .ok (f l) :=
  pure (fun t l _ _ => hu t l) fun {l} hl => ⟨by rw [Sound, hc, ho, ht]; exact hl, ht l⟩

end Steady

/-! Candidates. -/

theorem fresh_cases {l : Lexer} {c c' : Option Candidate} (h : l.fresh c = .ok c') : c' = none ∨ c' = c := by
  cases c with
  | none => exact .inl (Except.ok.inj h).symm
  | some c =>
    simp only [fresh] at h
    split at h
    · split at h
      · cases h
      · exact .inl (Except.ok.inj h).symm
    · exact .inr (Except.ok.inj h).symm

theorem mem_of_fresh {l : Lexer} {cs cs' : List (Option Candidate)} (h : cs.mapM l.fresh = .ok cs') {c : Candidate}
    (hc : some c ∈ cs') : some c ∈ cs := by
  induction cs generalizing cs' with
  | nil =>
    obtain rfl := Except.ok.inj h
    simp at hc
  | cons d cs ih =>
    rw [List.mapM_cons] at h
    cases hd : l.fresh d with
    | error e => simp [hd, Bind.bind, Except.bind] at h
    | ok d' =>
      cases hcs : cs.mapM l.fresh with
      | error e => simp [hd, hcs, Bind.bind, Except.bind] at h
      | ok ds =>
        simp only [hd, hcs, Bind.bind, Except.bind, Pure.pure, Except.pure] at h
        obtain rfl := Except.ok.inj h
        rcases List.mem_cons.mp hc with rfl | hc
        · rcases fresh_cases hd with h | h
          · cases h
          · exact h ▸ List.mem_cons_self
        · exact List.mem_cons_of_mem _ (ih hcs hc)

theorem steady_dropStale : Steady dropStale where
  commutes t l hl ht := by
    have hf : (l.under t).fresh = l.fresh := rfl
    show ((l.outer.reverse.mapM (l.under t).fresh >>= fun outer => (l.under t).fresh l.candidate >>= fun candidate =>
      Pure.pure { l.under t with outer := outer.reverse, candidate }) : Except Fault Lexer) = _
    rw [hf, dropStale]
    cases l.outer.reverse.mapM l.fresh with
    | error e => rfl
    | ok outer =>
      cases hc : l.fresh l.candidate with
      | error e => simp [Bind.bind, Except.bind, Except.map]
      | ok c => simp [Bind.bind, Except.bind, Except.map, Pure.pure, Except.pure, under]
  sound {l l'} hl h := by
    rw [dropStale] at h
    cases ho : l.outer.reverse.mapM l.fresh with
    | error e => simp [ho, Bind.bind, Except.bind] at h
    | ok outer =>
      cases hc : l.fresh l.candidate with
      | error e => simp [ho, hc, Bind.bind, Except.bind] at h
      | ok c =>
        simp only [ho, hc, Bind.bind, Except.bind, Pure.pure, Except.pure] at h
        obtain rfl := Except.ok.inj h
        refine ⟨fun d hd x hx => ?_, rfl⟩
        obtain rfl := Option.mem_def.mp hx
        rcases List.mem_cons.mp hd with hd | hd
        · rcases fresh_cases hc with h | h
          · exact absurd (hd.trans h) (by simp)
          · exact hl (some x) (by rw [hd, ← h]; exact List.mem_cons_self) x rfl
        · refine hl (some x) (List.mem_cons_of_mem _ ?_) x rfl
          exact List.mem_reverse.mp (mem_of_fresh ho (List.mem_reverse.mp hd))

theorem Sound.without {l : Lexer} (hl : l.Sound) : Sound { l with candidate := none } := by
  intro c hc x hx
  rcases List.mem_cons.mp hc with rfl | hc
  · cases hx
  · exact hl c (List.mem_cons_of_mem _ hc) x hx

theorem steady_dropCandidate : Steady dropCandidate where
  commutes t l hl ht := by
    obtain ⟨k, q, n, i, a, c, o⟩ := l
    cases c with
    | none => rfl
    | some c =>
      obtain ⟨required, number, m⟩ := c
      cases required <;> rfl
  sound {l l'} hl h := by
    rw [dropCandidate] at h
    split at h
    · split at h
      · cases h
      · obtain rfl := Except.ok.inj h
        exact ⟨hl.without, rfl⟩
    · obtain rfl := Except.ok.inj h
      exact ⟨hl, rfl⟩

theorem steady_saveCandidate : Steady saveCandidate := by
  refine .ite (p := fun l => !l.keyAllowed) (fun _ _ => rfl) (.keeps (fun _ _ => rfl) (fun _ => rfl) (fun _ => rfl) fun _ => rfl) ?_
  refine .read (r := fun l => .ok (!l.inFlow && l.indents.head? == some l.cursor.mark.column))
    (g := fun required l => l.dropCandidate >>= fun l =>
      .ok { l with candidate := some ⟨required, l.taken + l.queue.length, l.cursor.mark⟩ })
    (fun _ _ => rfl) fun required => ?_
  refine .bind steady_dropCandidate (.pure (fun t l hl ht => ?_) fun hl => ⟨?_, rfl⟩)
  · have : (l.taken - 1) + (l.queue.length + 1) = l.taken + l.queue.length := by omega
    simp [under, this]
  · intro c hc x hx
    rcases List.mem_cons.mp hc with rfl | hc
    · obtain rfl := Option.some.inj hx
      exact Nat.le_add_right _ _
    · exact hl c (List.mem_cons_of_mem _ hc) x hx

/-! Tokens. -/

theorem Sound.cast {l l' : Lexer} (hl : l.Sound) (hc : l'.candidate = l.candidate) (ho : l'.outer = l.outer)
    (ht : l'.taken = l.taken) : l'.Sound := by
  rw [Sound, hc, ho, ht]
  exact hl

theorem insertAt_under (t u : Token) {l : Lexer} (ht : 0 < l.taken) {n : Nat} (hn : l.taken ≤ n) :
    (l.under t).insertAt n u = (l.insertAt n u).under t := by
  have : n - (l.taken - 1) = (n - l.taken) + 1 := by omega
  simp [insertAt, under, this]

theorem roll_under (t : Token) {l : Lexer} (ht : 0 < l.taken) (column : Nat) {n : Option Nat}
    (hn : ∀ i ∈ n, l.taken ≤ i) (kind : Token.Kind) (m : Mark) :
    (l.under t).roll column n kind m = (l.roll column n kind m).under t := by
  by_cases h : l.inFlow || l.indents.head?.any (column ≤ ·)
  · exact (if_pos h).trans (congrArg (under t) (if_pos h).symm)
  · refine (if_neg h).trans (Eq.trans ?_ (congrArg (under t) (if_neg h).symm))
    cases n with
    | none => rfl
    | some i => exact insertAt_under t _ (l := { l with indents := column :: l.indents }) ht (hn i rfl)

theorem roll_candidates (l : Lexer) (column : Nat) (n : Option Nat) (kind : Token.Kind) (m : Mark) :
    (l.roll column n kind m).candidate = l.candidate ∧ (l.roll column n kind m).outer = l.outer ∧
      (l.roll column n kind m).taken = l.taken := by
  rw [roll]
  split
  · exact ⟨rfl, rfl, rfl⟩
  · cases n <;> exact ⟨rfl, rfl, rfl⟩

theorem steady_rollHere (kind : Token.Kind) (what : String) : Steady fun l => l.rollHere kind what := by
  refine .ite (p := inFlow) (fun _ _ => rfl) (.keeps (fun _ _ => rfl) (fun _ => rfl) (fun _ => rfl) fun _ => rfl) ?_
  refine .ite (p := fun l => !l.keyAllowed) (fun _ _ => rfl) (.fail fun _ _ => rfl) ?_
  refine .pure (fun t l _ ht => roll_under t ht _ (by simp) kind _) fun {l} hl => ?_
  obtain ⟨hc, ho, ht⟩ := roll_candidates l l.cursor.mark.column none kind l.cursor.mark
  exact ⟨hl.cast hc ho ht, ht⟩

theorem unrollAll_under (t : Token) (l : Lexer) : (l.under t).unrollAll = l.unrollAll.under t := by
  obtain ⟨k, q, n, i, a, c, o⟩ := l
  cases o <;> rfl

theorem unrollAll_candidates (l : Lexer) :
    l.unrollAll.candidate = l.candidate ∧ l.unrollAll.outer = l.outer ∧ l.unrollAll.taken = l.taken := by
  rw [unrollAll]
  split <;> exact ⟨rfl, rfl, rfl⟩

theorem steady_unrollAll : Steady fun l => .ok l.unrollAll :=
  .keeps unrollAll_under (fun l => (unrollAll_candidates l).1) (fun l => (unrollAll_candidates l).2.1)
    fun l => (unrollAll_candidates l).2.2

theorem steady_unroll : Steady fun l => .ok (l.unroll l.cursor.mark.column) := by
  refine .keeps (fun t l => ?_) (fun l => ?_) (fun l => ?_) fun l => ?_
  · obtain ⟨k, q, n, i, a, c, o⟩ := l
    cases o <;> rfl
  all_goals
    rw [unroll]
    split <;> rfl

theorem steady_leave : Steady fun l => l.unrollAll.dropCandidate := .bind steady_unrollAll steady_dropCandidate

/-- The end of the text stands at the front of a line. -/
def lastMark (l : Lexer) : Mark :=
  if l.cursor.mark.column == 0 then l.cursor.mark else ⟨l.cursor.mark.index, l.cursor.mark.line + 1, 0⟩

theorem steady_endStream : Steady endStream := by
  refine Steady.read (r := fun l => .ok l.lastMark) (g := fun m l =>
    (Except.ok { l with cursor := ⟨[], m⟩ } : Except Fault Lexer) >>= fun l => l.unrollAll.dropCandidate >>= fun l =>
      .ok (({ l with keyAllowed := false }).push ⟨.streamEnd, m, m⟩)) (fun _ _ => rfl) fun m => ?_
  exact .bind (.keeps (fun _ _ => rfl) (fun _ => rfl) (fun _ => rfl) fun _ => rfl)
    (.bind steady_leave (.keeps (fun _ _ => rfl) (fun _ => rfl) (fun _ => rfl) fun _ => rfl))

theorem steady_endDocument : Steady endDocument :=
  .bind steady_leave (.keeps (fun _ _ => rfl) (fun _ => rfl) (fun _ => rfl) fun _ => rfl)

theorem steady_directive : Steady directive :=
  .bind steady_endDocument (.read (fun _ _ => rfl) fun _ =>
    .keeps (fun _ _ => rfl) (fun _ => rfl) (fun _ => rfl) fun _ => rfl)

theorem steady_rule (kind : Token.Kind) : Steady fun l => l.endDocument.map (·.mark kind 3) where
  commutes t l hl ht := by
    rw [steady_endDocument.commutes t hl ht]
    cases l.endDocument <;> rfl
  sound {l l'} hl h := by
    cases h' : l.endDocument with
    | error e => simp [h', Except.map] at h
    | ok l₁ =>
      obtain ⟨hs, heq⟩ := steady_endDocument.sound hl h'
      rw [h'] at h
      obtain rfl := Except.ok.inj h
      exact ⟨hs, heq⟩

theorem steady_openFlow (kind : Token.Kind) : Steady fun l => l.openFlow kind := by
  refine .bind steady_saveCandidate (.pure (fun _ _ _ _ => rfl) fun hl => ⟨?_, rfl⟩)
  intro c hc x hx
  rcases List.mem_cons.mp hc with rfl | hc
  · cases hx
  · exact hl c hc x hx

theorem steady_closeFlow (kind : Token.Kind) : Steady fun l => l.closeFlow kind := by
  refine .bind steady_dropCandidate (.pure (fun t l _ _ => ?_) fun {l} hl => ?_)
  all_goals obtain ⟨k, q, n, i, a, c, o⟩ := l
  · cases o <;> rfl
  · cases o with
    | nil => exact ⟨hl, rfl⟩
    | cons d o => exact ⟨fun c hc => hl c (List.mem_cons_of_mem _ hc), rfl⟩

theorem steady_flowEntry : Steady flowEntry :=
  .bind steady_dropCandidate (.keeps (fun _ _ => rfl) (fun _ => rfl) (fun _ => rfl) fun _ => rfl)

theorem steady_blockEntry : Steady blockEntry :=
  .bind (steady_rollHere _ _) (.bind steady_dropCandidate
    (.keeps (fun _ _ => rfl) (fun _ => rfl) (fun _ => rfl) fun _ => rfl))

theorem steady_key : Steady key :=
  .bind (steady_rollHere _ _) (.bind steady_dropCandidate
    (.keeps (fun _ _ => rfl) (fun _ => rfl) (fun _ => rfl) fun _ => rfl))

theorem steady_node (read : Cursor → Except Fault (Token.Kind × Cursor)) : Steady fun l => l.node read :=
  .bind steady_saveCandidate (.read (fun _ _ => rfl) fun _ =>
    .keeps (fun _ _ => rfl) (fun _ => rfl) (fun _ => rfl) fun _ => rfl)

theorem steady_plain : Steady plain :=
  .bind steady_saveCandidate (.read (fun _ _ => rfl) fun _ =>
    .keeps (fun _ _ => rfl) (fun _ => rfl) (fun _ => rfl) fun _ => rfl)

theorem steady_block (literal : Bool) : Steady fun l => l.block literal :=
  .bind steady_dropCandidate (.read (fun _ _ => rfl) fun _ =>
    .keeps (fun _ _ => rfl) (fun _ => rfl) (fun _ => rfl) fun _ => rfl)

/-- A candidate does not stand before the tokens that have been taken, and the key that it becomes does not either. -/
theorem steady_value : Steady value where
  commutes t l hl ht := by
    have hu : (l.under t).candidate = l.candidate := rfl
    -- the key goes in where the candidate stands, or has been noted before
    cases hc : l.candidate with
    | none =>
      rw [hc] at hu
      simp only [value, hc, hu]
      rw [(steady_rollHere .blockMapping "mapping values").commutes t hl ht]
      cases l.rollHere .blockMapping "mapping values" <;> rfl
    | some c =>
      have hn : l.taken ≤ c.number := hl (some c) (by simp [hc]) c rfl
      rw [hc] at hu
      simp only [value, hc, hu, insertAt_under t _ ht hn]
      rw [roll_under t (l := l.insertAt c.number ⟨.key, c.mark, c.mark⟩) ht _
        (fun i hi => Option.some.inj hi ▸ hn)]
      rfl
  sound {l l'} hl h := by
    rw [value] at h
    split at h
    next c hc =>
      obtain rfl := Except.ok.inj h
      obtain ⟨-, ho, ht⟩ := roll_candidates (l.insertAt c.number ⟨.key, c.mark, c.mark⟩) c.mark.column
        (some c.number) .blockMapping c.mark
      exact ⟨hl.without.cast rfl ho ht, ht⟩
    next hc =>
      cases h' : l.rollHere .blockMapping "mapping values" with
      | error e => simp [h', Bind.bind, Except.bind] at h
      | ok l₁ =>
        obtain ⟨hs, heq⟩ := (steady_rollHere _ _).sound hl h'
        rw [h'] at h
        obtain rfl := Except.ok.inj h
        exact ⟨hs, heq⟩

/-- What a lexer does, and what it would have done before a token was taken, are one steady step. -/
def Agrees (l : Lexer) (now : Except Fault Lexer) (before : Token → Except Fault Lexer) : Prop :=
  ∃ f, Steady f ∧ now = f l ∧ ∀ t, before t = f (l.under t)

theorem Steady.agrees {f : Lexer → Except Fault Lexer} (hf : Steady f) (l : Lexer) :
    l.Agrees (f l) fun t => f (l.under t) := ⟨f, hf, rfl, fun _ => rfl⟩

theorem Agrees.ite {l : Lexer} {b : Bool} {x y : Except Fault Lexer} {x' y' : Token → Except Fault Lexer}
    (hx : l.Agrees x x') (hy : l.Agrees y y') :
    l.Agrees (if b then x else y) fun t => if b then x' t else y' t := by
  cases b
  · exact hy
  · exact hx

/-- Which token is begun hangs on the text and on the brackets around alone. -/
theorem token_agrees (l : Lexer) : l.Agrees l.token fun t => (l.under t).token := by
  have hc (t : Token) : (l.under t).cursor = l.cursor := rfl
  have hf (t : Token) : (l.under t).inFlow = l.inFlow := rfl
  have hp (t : Token) (c : Char) (rest : List Char) : (l.under t).startsPlain c rest = l.startsPlain c rest := rfl
  simp only [token, hc, hf, hp]
  cases l.cursor.rest with
  | nil => exact steady_endStream.agrees l
  | cons c rest =>
    refine .ite (steady_directive.agrees l) ?_
    refine .ite ((steady_rule .documentStart).agrees l) ?_
    refine .ite ((steady_rule .documentEnd).agrees l) ?_
    refine .ite ((steady_openFlow .flowSequence).agrees l) ?_
    refine .ite ((steady_openFlow .flowMapping).agrees l) ?_
    refine .ite ((steady_closeFlow .flowSequenceEnd).agrees l) ?_
    refine .ite ((steady_closeFlow .flowMappingEnd).agrees l) ?_
    refine .ite (steady_flowEntry.agrees l) ?_
    refine .ite (steady_blockEntry.agrees l) ?_
    refine .ite (steady_key.agrees l) ?_
    refine .ite (steady_value.agrees l) ?_
    refine .ite ((steady_node _).agrees l) ?_
    refine .ite ((steady_node _).agrees l) ?_
    refine .ite ((steady_node _).agrees l) ?_
    refine .ite ((steady_block true).agrees l) ?_
    refine .ite ((steady_block false).agrees l) ?_
    refine .ite ((steady_node _).agrees l) ?_
    refine .ite ((steady_node _).agrees l) ?_
    refine .ite (steady_plain.agrees l) ?_
    exact (Steady.fail (e := fun l => l.cursor.problem "found character that cannot start any token"
      "while scanning for the next token" l.cursor.mark) fun _ _ => rfl).agrees l

theorem steady_token : Steady token where
  commutes t l hl ht := by
    obtain ⟨f, hf, heq, hu⟩ := token_agrees l
    rw [heq]
    exact (hu t).trans (hf.commutes t hl ht)
  sound {l l'} hl h := by
    obtain ⟨f, hf, heq, -⟩ := token_agrees l
    exact hf.sound hl (heq ▸ h)

theorem steady_skipSpace : Steady fun l => .ok (l.skipSpace l.cursor.reach) := by
  have hu (t : Token) (fuel : Nat) (l : Lexer) : (l.under t).skipSpace fuel = (l.skipSpace fuel).under t := by
    induction fuel generalizing l with
    | zero => rfl
    | succ fuel ih =>
      have hc : (l.under t).cursor = l.cursor := rfl
      have hf : (l.under t).inFlow = l.inFlow := rfl
      have hk : (l.under t).keyAllowed = l.keyAllowed := rfl
      simp only [skipSpace, hc, hf, hk]
      split
      · exact ih (l.skipLine _)
      · rfl
  have hkeep (fuel : Nat) (l : Lexer) : (l.skipSpace fuel).candidate = l.candidate ∧
      (l.skipSpace fuel).outer = l.outer ∧ (l.skipSpace fuel).taken = l.taken := by
    induction fuel generalizing l with
    | zero => exact ⟨rfl, rfl, rfl⟩
    | succ fuel ih =>
      rw [skipSpace]
      split
      · exact ih _
      · exact ⟨rfl, rfl, rfl⟩
  exact .keeps (fun t l => hu t _ l) (fun l => (hkeep _ l).1) (fun l => (hkeep _ l).2.1) fun l => (hkeep _ l).2.2

theorem steady_advance : Steady advance := by
  refine Steady.bind (f := fun l => (l.skipSpace l.cursor.reach).dropStale) (.bind steady_skipSpace steady_dropStale) ?_
  exact .bind steady_unroll steady_token

/-! Taking tokens. -/

/-- Finding `n` more tokens leads to the end of the text, and to `ts` in the queue if none is taken. The text has
enough characters for all but the last of them. -/
def Ends : Nat → List Token → Lexer → Prop
  | 0, ts, l => l.queue = ts ∧ l.candidate = none ∧ l.outer = []
  | n + 1, ts, l => n ≤ l.cursor.rest.length ∧ ∃ l', l.advance = .ok l' ∧ Ends n ts l'

/-- The tokens that are seen where each is looked at and then taken. -/
def Shows : List Token.Kind → Lexer → Prop
  | [], _ => True
  | k :: ks, l => ∃ t l', t.kind = k ∧ l.peek = .ok (t, l') ∧ l'.peek = .ok (t, l') ∧ Shows ks l'.drop

theorem fill_ready {l : Lexer} (h : l.isShort = false) (fuel : Nat) : l.fill fuel = .ok l := by
  cases fuel with
  | zero => rfl
  | succ fuel => rw [fill, h]; rfl

theorem Ends.ready {ts : List Token} {l : Lexer} (h : Ends 0 ts l) (hne : ts ≠ []) : l.isShort = false := by
  obtain ⟨hq, hc, ho⟩ := h
  have hempty : ts.isEmpty = false := by simpa using hne
  simp [isShort, hq, hc, ho, hempty]

theorem Ends.fill {ts : List Token} (hne : ts ≠ []) (fuel : Nat) {n : Nat} {l : Lexer} (h : Ends n ts l) (hl : l.Sound)
    (hn : n ≤ fuel) : ∃ n' l', l.fill fuel = .ok l' ∧ l'.isShort = false ∧ Ends n' ts l' ∧ l'.Sound := by
  induction fuel generalizing n l with
  | zero =>
    obtain rfl := Nat.le_zero.mp hn
    exact ⟨0, l, rfl, h.ready hne, h, hl⟩
  | succ fuel ih =>
    cases hs : l.isShort with
    | false => exact ⟨n, l, fill_ready hs _, hs, h, hl⟩
    | true =>
      cases n with
      | zero => simp [h.ready hne] at hs
      | succ n =>
        obtain ⟨-, l', hadvance, h'⟩ := h
        obtain ⟨m, l'', hfill, hrest⟩ := ih h' (steady_advance.sound hl hadvance).1 (Nat.le_of_succ_le_succ hn)
        exact ⟨m, l'', by rw [Lexer.fill, hs, hadvance]; exact hfill, hrest⟩

theorem Ends.le_reach {n : Nat} {ts : List Token} {l : Lexer} (h : Ends n ts l) : n ≤ l.reach := by
  cases n with
  | zero => exact Nat.zero_le _
  | succ n =>
    have := h.1
    simp only [reach, Cursor.reach]
    omega

/-- Where the first token can be taken, it has been found before those that will be found. -/
theorem Ends.under {n : Nat} {ts : List Token} {t : Token} {l : Lexer} (h : Ends n ts (l.under t)) (hl : l.Sound)
    (ht : 0 < l.taken) : ∃ ts', ts = t :: ts' ∧ Ends n ts' l := by
  induction n generalizing l with
  | zero => exact ⟨l.queue, h.1.symm, rfl, h.2⟩
  | succ n ih =>
    obtain ⟨hlength, l', hadvance, h'⟩ := h
    rw [steady_advance.commutes t hl ht] at hadvance
    cases h₁ : l.advance with
    | error e => simp [h₁, Except.map] at hadvance
    | ok l₁ =>
      rw [h₁] at hadvance
      obtain rfl := Except.ok.inj hadvance
      obtain ⟨hs, heq⟩ := steady_advance.sound hl h₁
      obtain ⟨ts', hts, hends⟩ := ih h' hs (heq ▸ ht)
      exact ⟨ts', hts, hlength, l₁, h₁, hends⟩

/-- Of a lexer that is not short the first token can be taken. -/
theorem drop_under {l : Lexer} (h : l.isShort = false) (hl : l.Sound) :
    ∃ t, l = l.drop.under t ∧ l.queue.head? = some t ∧ l.drop.Sound := by
  simp only [isShort, Bool.or_eq_false_iff] at h
  obtain ⟨k, q, n, i, a, c, o⟩ := l
  cases q with
  | nil => simp at h
  | cons t q =>
    refine ⟨t, rfl, rfl, fun d hd x hx => ?_⟩
    have hne : x.number ≠ n := by
      have := List.any_eq_false.mp h.2 d hd
      rw [Option.mem_def.mp hx] at this
      simpa using this
    have hle : n ≤ x.number := hl d hd x hx
    exact Nat.lt_of_le_of_ne hle (Ne.symm hne)

/-- The tokens of a text are seen in their order, however far ahead the lexer has to look. -/
theorem Ends.shows {n : Nat} {ts : List Token} {l : Lexer} (h : Ends n ts l) (hl : l.Sound) :
    Shows (ts.map (·.kind)) l := by
  induction ts generalizing n l with
  | nil => exact trivial
  | cons u ts ih =>
    obtain ⟨n', l', hfill, hshort, hends, hsound⟩ := Ends.fill (List.cons_ne_nil u ts) l.reach h hl h.le_reach
    obtain ⟨t, hunder, hhead, hdrop⟩ := drop_under hshort hsound
    rw [hunder] at hends
    obtain ⟨ts', hts, hends'⟩ := hends.under hdrop (Nat.succ_pos _)
    obtain ⟨rfl, rfl⟩ := List.cons.inj hts
    have hpeek (l₀ : Lexer) (hl₀ : l₀.fill l₀.reach = .ok l') : l₀.peek = .ok (u, l') := by
      obtain ⟨q, hq⟩ := List.head?_eq_some_iff.mp hhead
      rw [peek, hl₀]
      simp only [Bind.bind, Except.bind, hq]
      rfl
    exact ⟨u, l', rfl, hpeek l hfill, hpeek l' (fill_ready hshort _), ih hends' hdrop⟩

end ApiStencil.Yaml.Lexer
