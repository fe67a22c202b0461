import ApiStencil.Proofs.YamlLookahead
import ApiStencil.Yaml.Document
import Mathlib.Data.List.Forall2
/-!
Events of a mapping whose values are scalars and sequences of scalars, and the tree that they grow into. The grammar
is followed one step after another over the tokens that a lexer shows.
-/
set_option autoImplicit false

namespace ApiStencil.Yaml

namespace Grammar

theorem bind_of {α β : Type} {x : G α} {f : α → G β} {g g' : Grammar} {a : α} (h : x g = .ok (a, g')) :
    (x >>= f) g = f a g' := by
  show (x g >>= fun p => f p.1 p.2) = _
  rw [h]
  rfl

/-- Steps of the grammar, with the events that they give. -/
def Gives (g : Grammar) : List Event → Grammar → Prop
  | [], g' => g = g'
  | e :: es, g' => ∃ m g₁, step g = .ok ((e, m), g₁) ∧ g₁.Gives es g'

theorem Gives.append {g g₁ g₂ : Grammar} {es ds : List Event} (h : g.Gives es g₁) (h' : g₁.Gives ds g₂) :
    g.Gives (es ++ ds) g₂ := by
  induction es generalizing g with
  | nil =>
    obtain rfl : g = g₁ := h
    exact h'
  | cons e es ih =>
    obtain ⟨m, g', hstep, hrest⟩ := h
    exact ⟨m, g', hstep, ih hrest⟩

section Steps

variable {l : Lexer} {ks : List Token.Kind}

theorem peek_of {t : Token} {l' : Lexer} (h : l.peek = .ok (t, l')) (mode : Mode) (stack : List Mode)
    (opened : List Mark) (handles : List (String × String)) :
    peek ⟨l, mode, stack, opened, handles⟩ = .ok (t, ⟨l', mode, stack, opened, handles⟩) := by
  show (l.peek >>= fun p => _) = _
  rw [h]
  rfl

/-- The first token is looked at, and can be looked at again. -/
theorem look {k : Token.Kind} (h : l.Shows (k :: ks)) : ∃ start stop l', l'.Shows (k :: ks) ∧ l'.drop.Shows ks ∧
    ∀ mode stack opened handles, peek ⟨l, mode, stack, opened, handles⟩ =
      .ok (⟨k, start, stop⟩, ⟨l', mode, stack, opened, handles⟩) := by
  obtain ⟨⟨kind, start, stop⟩, l', hkind, hpeek, hagain, hrest⟩ := h
  obtain rfl : kind = k := hkind
  exact ⟨start, stop, l', ⟨_, l', rfl, hagain, hagain, hrest⟩, hrest, peek_of hpeek⟩

theorem next_of {g : Grammar} {r : Except Fault (Token × Grammar)} (h : peek { g with lexer := g.lexer.drop } = r) :
    next g = r := h

/-- Tokens of a node that has neither anchor nor tag. -/
def isBare : Token.Kind → Bool
  | .anchor _ | .tag _ _ | .alias _ => false
  | _ => true

theorem properties_bare {k : Token.Kind} (hk : isBare k = true) (h : l.Shows (k :: ks)) (fuel : Nat) :
    ∃ start stop l', l'.Shows (k :: ks) ∧ l'.drop.Shows ks ∧
      ∀ mode stack opened handles, properties fuel ⟨none, none⟩ ⟨l, mode, stack, opened, handles⟩ =
        .ok ((⟨none, none⟩, ⟨k, start, stop⟩), ⟨l', mode, stack, opened, handles⟩) := by
  obtain ⟨start, stop, l', hl', hdrop, hpeek⟩ := look h
  refine ⟨start, stop, l', hl', hdrop, fun mode stack opened handles => ?_⟩
  cases fuel with
  | zero => exact bind_of (hpeek ..)
  | succ fuel =>
    refine (bind_of (hpeek ..)).trans ?_
    cases k <;> first | rfl | cases hk

/-- A scalar is a whole node. -/
theorem node_scalar {s : String} {f : Form} (h : l.Shows (.scalar s f :: ks)) (block level : Bool) :
    ∃ p l', l'.Shows ks ∧ ∀ mode m stack opened handles, node block level ⟨l, mode, m :: stack, opened, handles⟩ =
      .ok ((.scalar none ⟨s, f, none⟩, p), ⟨l', m, stack, opened, handles⟩) := by
  obtain ⟨start, stop, l₁, h₁, -, hpeek⟩ := look h
  obtain ⟨start', stop', l₂, -, hrest, hproperties⟩ := properties_bare rfl h₁ 2
  refine ⟨start', l₂.drop, hrest, fun mode m stack opened handles => ?_⟩
  refine (bind_of (hpeek ..)).trans ((bind_of (hproperties ..)).trans ?_)
  cases level <;> rfl

/-- How a node begins that is a collection: the token by which it is known, and what is expected in it. -/
inductive Begins : Token.Kind → Bool → Mode → Event → Prop
  | brackets : Begins .flowSequence true (.flowItem true) (.sequence none none)
  | items : Begins .blockEntry true .levelItem (.sequence none none)
  | mapping : Begins .blockMapping false (.blockKey true) (.mapping none none)

/-- A collection begins where its first token is looked at; the token stays. -/
theorem node_begins {k : Token.Kind} {level : Bool} {m : Mode} {e : Event} (hk : Begins k level m e)
    (h : l.Shows (k :: ks)) :
    ∃ p l', l'.Shows (k :: ks) ∧ ∀ mode stack opened handles, node true level ⟨l, mode, stack, opened, handles⟩ =
      .ok ((e, p), ⟨l', m, stack, opened, handles⟩) := by
  obtain ⟨start, stop, l₁, h₁, -, hpeek⟩ := look h
  have hbare : isBare k = true := by cases hk <;> rfl
  obtain ⟨start', stop', l₂, h₂, -, hproperties⟩ := properties_bare hbare h₁ 2
  refine ⟨start', l₂, h₂, fun mode stack opened handles => ?_⟩
  cases hk <;> exact (bind_of (hpeek ..)).trans (bind_of (hproperties ..))

variable (stack : List Mode) (opened : List Mark) (handles : List (String × String))

/-! Keys and values. -/

/-- A key, once the mapping has been entered. -/
theorem blockKey_scalar {first : Bool} {g : Grammar} {mode : Mode} {s : String} {f : Form}
    (hbegin : begin_ first g = .ok ((), ⟨l, mode, stack, opened, handles⟩)) (h : l.Shows (.key :: .scalar s f :: ks)) :
    ∃ p l', l'.Shows ks ∧ blockKey first g =
      .ok ((.scalar none ⟨s, f, none⟩, p), ⟨l', .blockValue, stack, opened, handles⟩) := by
  obtain ⟨start, stop, l₁, -, h₁, hpeek⟩ := look h
  obtain ⟨_, _, l₂, h₂, -, hnext⟩ := look h₁
  obtain ⟨p, l', hrest, hnode⟩ := node_scalar h₂ true true
  refine ⟨p, l', hrest, ?_⟩
  rw [blockKey]
  refine (bind_of hbegin).trans ((bind_of (hpeek ..)).trans ?_)
  show (next >>= _) _ = _
  refine (bind_of (next_of (hnext ..))).trans (Eq.trans ?_ (hnode mode .blockValue stack opened handles))
  rfl

theorem step_key {s : String} {f : Form} (h : l.Shows (.key :: .scalar s f :: ks)) :
    ∃ p l', l'.Shows ks ∧ step ⟨l, .blockKey false, stack, opened, handles⟩ =
      .ok ((.scalar none ⟨s, f, none⟩, p), ⟨l', .blockValue, stack, opened, handles⟩) := by
  have hbegin : begin_ false ⟨l, .blockKey false, stack, opened, handles⟩ =
      .ok ((), ⟨l, .blockKey false, stack, opened, handles⟩) := rfl
  obtain ⟨p, l', hrest, hkey⟩ := blockKey_scalar _ _ _ hbegin h
  exact ⟨p, l', hrest, hkey⟩

/-- The first key of a mapping. -/
theorem step_firstKey {s : String} {f : Form} (h : l.Shows (.blockMapping :: .key :: .scalar s f :: ks)) :
    ∃ m p l', l'.Shows ks ∧ step ⟨l, .blockKey true, stack, opened, handles⟩ =
      .ok ((.scalar none ⟨s, f, none⟩, p), ⟨l', .blockValue, stack, m :: opened, handles⟩) := by
  obtain ⟨start, stop, l₁, -, h₁, hpeek⟩ := look h
  have hbegin : begin_ true ⟨l, .blockKey true, stack, opened, handles⟩ =
      .ok ((), ⟨l₁.drop, .blockKey true, stack, start :: opened, handles⟩) := bind_of (hpeek ..)
  obtain ⟨p, l', hrest, hkey⟩ := blockKey_scalar _ _ _ hbegin h₁
  exact ⟨start, p, l', hrest, hkey⟩

/-- A scalar as a value. -/
theorem step_value {s : String} {f : Form} (h : l.Shows (.value :: .scalar s f :: ks)) :
    ∃ p l', l'.Shows ks ∧ step ⟨l, .blockValue, stack, opened, handles⟩ =
      .ok ((.scalar none ⟨s, f, none⟩, p), ⟨l', .blockKey false, stack, opened, handles⟩) := by
  obtain ⟨start, stop, l₁, -, h₁, hpeek⟩ := look h
  obtain ⟨_, _, l₂, h₂, -, hnext⟩ := look h₁
  obtain ⟨p, l', hrest, hnode⟩ := node_scalar h₂ true true
  refine ⟨p, l', hrest, ?_⟩
  show blockValue _ = _
  rw [blockValue]
  refine (bind_of (hpeek ..)).trans ?_
  show (next >>= _) _ = _
  refine (bind_of (next_of (hnext ..))).trans (Eq.trans ?_ (hnode .blockValue (.blockKey false) stack opened handles))
  rfl

/-- A sequence as a value: between brackets, or with its items in the column of the key. -/
theorem step_valueBegins {k : Token.Kind} {m : Mode} (hk : Begins k true m (.sequence none none))
    (h : l.Shows (.value :: k :: ks)) :
    ∃ p l', l'.Shows (k :: ks) ∧ step ⟨l, .blockValue, stack, opened, handles⟩ =
      .ok ((.sequence none none, p), ⟨l', m, .blockKey false :: stack, opened, handles⟩) := by
  obtain ⟨start, stop, l₁, -, h₁, hpeek⟩ := look h
  obtain ⟨_, _, l₂, h₂, -, hnext⟩ := look h₁
  obtain ⟨p, l', hrest, hnode⟩ := node_begins hk h₂
  refine ⟨p, l', hrest, ?_⟩
  show blockValue _ = _
  rw [blockValue]
  refine (bind_of (hpeek ..)).trans ?_
  show (next >>= _) _ = _
  refine (bind_of (next_of (hnext ..))).trans (Eq.trans ?_ (hnode .blockValue (.blockKey false :: stack) opened handles))
  cases hk <;> rfl

/-- Brackets with nothing between them end their sequence. -/
theorem step_brackets (m : Mode) (h : l.Shows (.flowSequence :: .flowSequenceEnd :: ks)) :
    ∃ p l', l'.Shows ks ∧ step ⟨l, .flowItem true, m :: stack, opened, handles⟩ =
      .ok ((.sequenceEnd, p), ⟨l', m, stack, opened, handles⟩) := by
  obtain ⟨start, stop, l₁, -, h₁, hpeek⟩ := look h
  obtain ⟨p, q, l₂, -, h₂, hnext⟩ := look h₁
  refine ⟨p, l₂.drop, h₂, ?_⟩
  show flowItem true _ = _
  rw [flowItem]
  have hbegin : begin_ true ⟨l, .flowItem true, m :: stack, opened, handles⟩ =
      .ok ((), ⟨l₁.drop, .flowItem true, m :: stack, start :: opened, handles⟩) := bind_of (hpeek ..)
  refine (bind_of hbegin).trans ?_
  exact (bind_of (bind_of (hnext ..))).trans rfl

/-- An item of a sequence in the column of its key. -/
theorem step_item {s : String} {f : Form} (h : l.Shows (.blockEntry :: .scalar s f :: ks)) :
    ∃ p l', l'.Shows ks ∧ step ⟨l, .levelItem, stack, opened, handles⟩ =
      .ok ((.scalar none ⟨s, f, none⟩, p), ⟨l', .levelItem, stack, opened, handles⟩) := by
  obtain ⟨start, stop, l₁, -, h₁, hpeek⟩ := look h
  obtain ⟨_, _, l₂, h₂, -, hnext⟩ := look h₁
  obtain ⟨p, l', hrest, hnode⟩ := node_scalar h₂ true false
  refine ⟨p, l', hrest, ?_⟩
  show levelItem _ = _
  rw [levelItem]
  refine (bind_of (hpeek ..)).trans ?_
  show (next >>= _) _ = _
  refine (bind_of (next_of (hnext ..))).trans (Eq.trans ?_ (hnode .levelItem .levelItem stack opened handles))
  rfl

/-- What follows an entry: another one, or the end of the mapping. -/
def EndsEntry (k : Token.Kind) : Prop := k = .key ∨ k = .blockEnd

/-- A sequence in the column of its key ends with the entry. -/
theorem step_itemsEnd {k : Token.Kind} (m : Mode) (hk : EndsEntry k) (h : l.Shows (k :: ks)) :
    ∃ p l', l'.Shows (k :: ks) ∧ step ⟨l, .levelItem, m :: stack, opened, handles⟩ =
      .ok ((.sequenceEnd, p), ⟨l', m, stack, opened, handles⟩) := by
  obtain ⟨start, stop, l₁, h₁, -, hpeek⟩ := look h
  refine ⟨start, l₁, h₁, ?_⟩
  show levelItem _ = _
  rw [levelItem]
  refine (bind_of (hpeek ..)).trans ?_
  rcases hk with rfl | rfl <;> rfl

theorem step_mappingEnd (m : Mode) (h : l.Shows (.blockEnd :: ks)) :
    ∃ p l', l'.Shows ks ∧ step ⟨l, .blockKey false, m :: stack, opened, handles⟩ =
      .ok ((.mappingEnd, p), ⟨l', m, stack, opened.drop 1, handles⟩) := by
  obtain ⟨start, stop, l₁, -, h₁, hpeek⟩ := look h
  refine ⟨start, l₁.drop, h₁, ?_⟩
  show blockKey false _ = _
  rw [blockKey]
  exact (bind_of (a := ()) rfl).trans (bind_of (hpeek ..))

/-! The document. -/

theorem step_documentStart (h : l.Shows (.blockMapping :: ks)) :
    ∃ p l', l'.Shows (.blockMapping :: ks) ∧ step ⟨l, .document true, stack, opened, handles⟩ =
      .ok ((.documentStart, p), ⟨l', .blockNode, .documentEnd :: stack, opened, defaultHandles⟩) := by
  obtain ⟨start, stop, l₁, h₁, -, hpeek⟩ := look h
  have hdirectives (fuel : Nat) : ∃ l₂, directives fuel false [] ⟨l₁, .document true, stack, opened, handles⟩ =
      .ok ([], ⟨l₂, .document true, stack, opened, handles⟩) ∧ l₂.Shows (.blockMapping :: ks) := by
    cases fuel with
    | zero => exact ⟨l₁, rfl, h₁⟩
    | succ fuel =>
      obtain ⟨_, _, l₂, h₂, -, hagain⟩ := look h₁
      exact ⟨l₂, bind_of (hagain ..), h₂⟩
  obtain ⟨l₂, hown, h₂⟩ := hdirectives l₁.reach
  refine ⟨start, l₂, h₂, ?_⟩
  show document true _ = _
  rw [document]
  refine (bind_of (hpeek ..)).trans ?_
  show (setHandles >>= _) _ = _
  have hset : setHandles ⟨l₁, .document true, stack, opened, handles⟩ =
      .ok ((), ⟨l₂, .document true, stack, opened, defaultHandles⟩) :=
    (bind_of (a := Grammar.mk l₁ (.document true) stack opened handles) rfl).trans (bind_of hown)
  exact (bind_of hset).trans rfl

theorem step_mapping (h : l.Shows (.blockMapping :: ks)) :
    ∃ p l', l'.Shows (.blockMapping :: ks) ∧ step ⟨l, .blockNode, stack, opened, handles⟩ =
      .ok ((.mapping none none, p), ⟨l', .blockKey true, stack, opened, handles⟩) := by
  obtain ⟨p, l', hrest, hnode⟩ := node_begins .mapping h
  exact ⟨p, l', hrest, hnode ..⟩

theorem step_documentEnd (h : l.Shows (.streamEnd :: ks)) :
    ∃ p l', l'.Shows (.streamEnd :: ks) ∧ step ⟨l, .documentEnd, stack, opened, handles⟩ =
      .ok ((.documentEnd, p), ⟨l', .document false, stack, opened, handles⟩) := by
  obtain ⟨start, stop, l₁, h₁, -, hpeek⟩ := look h
  refine ⟨start, l₁, h₁, ?_⟩
  show documentEnd _ = _
  rw [documentEnd]
  exact bind_of (hpeek ..)

theorem isFollowed_end (h : l.Shows (.streamEnd :: ks)) :
    isFollowed ⟨l, .document false, stack, opened, handles⟩ = false := by
  obtain ⟨start, stop, l₁, h₁, -, hpeek⟩ := look h
  have hpast (fuel : Nat) : pastEnds fuel ⟨l, .document false, stack, opened, handles⟩ =
      .ok (⟨.streamEnd, start, stop⟩, ⟨l₁, .document false, stack, opened, handles⟩) := by
    cases fuel with
    | zero => exact hpeek ..
    | succ fuel => exact bind_of (hpeek ..)
  have hstep : step.run ⟨l, .document false, stack, opened, handles⟩ =
      .ok ((.streamEnd, start), ⟨l₁.drop, .finished, stack, opened, handles⟩) := by
    show document false _ = _
    rw [document, if_neg (by decide)]
    refine (bind_of (a := Grammar.mk l (.document false) stack opened handles) rfl).trans ?_
    exact (bind_of (hpast _)).trans rfl
  rw [isFollowed, hstep]

end Steps

/-! Entries. -/

/-- What stands behind a key: one scalar, or a sequence of scalars. -/
inductive Content where
  | scalar (text : String) (form : Form)
  | sequence (items : List (String × Form))

def itemTokens (items : List (String × Form)) : List Token.Kind :=
  items.flatMap fun x => [.blockEntry, .scalar x.1 x.2]

def Content.tokens : Content → List Token.Kind
  | .scalar s f => [.scalar s f]
  | .sequence [] => [.flowSequence, .flowSequenceEnd]
  | .sequence (x :: items) => itemTokens (x :: items)

def itemEvents (items : List (String × Form)) : List Event := items.map fun x => .scalar none ⟨x.1, x.2, none⟩

def Content.events : Content → List Event
  | .scalar s f => [.scalar none ⟨s, f, none⟩]
  | .sequence items => .sequence none none :: (itemEvents items ++ [.sequenceEnd])

def entryTokens (e : String × Content) : List Token.Kind := .key :: .scalar e.1 .plain :: .value :: e.2.tokens

def entryEvents (e : String × Content) : List Event := .scalar none ⟨e.1, .plain, none⟩ :: e.2.events

section Entries

variable {ks : List Token.Kind} {k : Token.Kind} {l : Lexer}
variable (stack : List Mode) (opened : List Mark) (handles : List (String × String))

theorem gives_items (hk : EndsEntry k) (m : Mode) (items : List (String × Form))
    (h : l.Shows (itemTokens items ++ k :: ks)) :
    ∃ l', l'.Shows (k :: ks) ∧ Gives ⟨l, .levelItem, m :: stack, opened, handles⟩ (itemEvents items ++ [.sequenceEnd])
      ⟨l', m, stack, opened, handles⟩ := by
  induction items generalizing l with
  | nil =>
    obtain ⟨p, l', hrest, hstep⟩ := step_itemsEnd stack opened handles m hk h
    exact ⟨l', hrest, p, _, hstep, rfl⟩
  | cons x items ih =>
    obtain ⟨p, l₁, h₁, hstep⟩ := step_item (m :: stack) opened handles h
    obtain ⟨l', hrest, hgives⟩ := ih h₁
    exact ⟨l', hrest, p, _, hstep, hgives⟩

theorem gives_content (hk : EndsEntry k) (c : Content) (h : l.Shows (.value :: (c.tokens ++ k :: ks))) :
    ∃ l', l'.Shows (k :: ks) ∧ Gives ⟨l, .blockValue, stack, opened, handles⟩ c.events
      ⟨l', .blockKey false, stack, opened, handles⟩ := by
  cases c with
  | scalar s f =>
    obtain ⟨p, l', hrest, hstep⟩ := step_value stack opened handles h
    exact ⟨l', hrest, p, _, hstep, rfl⟩
  | sequence items =>
    cases items with
    | nil =>
      obtain ⟨p, l₁, h₁, hbegin⟩ := step_valueBegins stack opened handles .brackets h
      obtain ⟨q, l', hrest, hend⟩ := step_brackets stack opened handles (.blockKey false) h₁
      exact ⟨l', hrest, p, _, hbegin, q, _, hend, rfl⟩
    | cons x items =>
      obtain ⟨p, l₁, h₁, hbegin⟩ := step_valueBegins stack opened handles .items h
      obtain ⟨l', hrest, hitems⟩ := gives_items stack opened handles hk (.blockKey false) (x :: items) h₁
      exact ⟨l', hrest, p, _, hbegin, hitems⟩

theorem entries_front (es : List (String × Content)) (ks : List Token.Kind) :
    ∃ k ks', es.flatMap entryTokens ++ .blockEnd :: ks = k :: ks' ∧ EndsEntry k := by
  cases es with
  | nil => exact ⟨_, _, rfl, .inr rfl⟩
  | cons e es => exact ⟨_, _, rfl, .inl rfl⟩

theorem gives_entries (es : List (String × Content)) (h : l.Shows (es.flatMap entryTokens ++ .blockEnd :: ks)) :
    ∃ l', l'.Shows (.blockEnd :: ks) ∧ Gives ⟨l, .blockKey false, stack, opened, handles⟩ (es.flatMap entryEvents)
      ⟨l', .blockKey false, stack, opened, handles⟩ := by
  induction es generalizing l with
  | nil => exact ⟨l, h, rfl⟩
  | cons e es ih =>
    rw [List.flatMap_cons, List.append_assoc] at h
    obtain ⟨p, l₁, h₁, hkey⟩ := step_key stack opened handles h
    obtain ⟨k, ks', hfront, hk⟩ := entries_front es ks
    rw [hfront] at ih
    obtain ⟨l₂, h₂, hcontent⟩ := gives_content stack opened handles hk e.2 (hfront ▸ h₁)
    obtain ⟨l', hrest, hgives⟩ := ih h₂
    exact ⟨l', hrest, p, _, hkey, hcontent.append hgives⟩

/-- A document with a mapping. -/
theorem gives_document (e : String × Content) (es : List (String × Content))
    (h : l.Shows (.blockMapping :: ((e :: es).flatMap entryTokens ++ [.blockEnd, .streamEnd]))) :
    ∃ p l₁ l', step ⟨l, .document true, [], [], []⟩ =
        .ok ((.documentStart, p), ⟨l₁, .blockNode, [.documentEnd], [], defaultHandles⟩) ∧
      Gives ⟨l₁, .blockNode, [.documentEnd], [], defaultHandles⟩
        (.mapping none none :: ((e :: es).flatMap entryEvents ++ [.mappingEnd]))
        ⟨l', .documentEnd, [], [], defaultHandles⟩ ∧ l'.Shows [.streamEnd] := by
  obtain ⟨p, l₁, h₁, hstart⟩ := step_documentStart [] [] [] h
  obtain ⟨_, l₂, h₂, hmapping⟩ := step_mapping [.documentEnd] [] defaultHandles h₁
  rw [List.flatMap_cons, List.append_assoc] at h₂
  obtain ⟨m, _, l₃, h₃, hkey⟩ := step_firstKey [.documentEnd] [] defaultHandles h₂
  obtain ⟨k, ks', hfront, hk⟩ := entries_front es [.streamEnd]
  obtain ⟨l₄, h₄, hcontent⟩ := gives_content [.documentEnd] [m] defaultHandles hk e.2 (hfront ▸ h₃)
  obtain ⟨l₅, h₅, hentries⟩ := gives_entries [.documentEnd] [m] defaultHandles es (hfront ▸ h₄)
  obtain ⟨q, l', h', hend⟩ := step_mappingEnd [] [m] defaultHandles .documentEnd h₅
  refine ⟨p, l₁, l', hstart, ⟨_, _, hmapping, ?_⟩, h'⟩
  rw [List.flatMap_cons, List.append_assoc]
  exact ⟨_, _, hkey, hcontent.append (hentries.append ⟨q, _, hend, rfl⟩)⟩

end Entries
end Grammar

/-! Trees. -/

/-- What an event without an anchor adds to a tree. -/
def Event.part? : Event → Option Part
  | .scalar none v => some (.scalar v)
  | .sequence none tag => some (.sequence tag)
  | .mapping none tag => some (.mapping tag)
  | .sequenceEnd | .mappingEnd => some .finish
  | _ => none

theorem Intake.take_part {e : Event} {p : Part} (h : e.part? = some p) (i : Intake) (m : Mark) :
    i.take e m = .ok (i.add none p m) := by
  unfold Event.part? at h
  split at h <;> first | cases h; rfl | cases h

/-- The parts of events that have been found, each with some mark. -/
def Parted (es : List Event) (ps : List (Part × Mark)) : Prop := es.map Event.part? = ps.map fun p => some p.1

/-- Events are collected one after another, as long as they belong to the tree. -/
theorem Document.collect_gives {g g' : Grammar} {es : List Event} (h : g.Gives es g')
    (hes : ∀ e ∈ es, e.part?.isSome) (fuel : Nat) (i : Intake) :
    ∃ ps, Parted es ps ∧ collect (fuel + es.length) i g =
      collect fuel ⟨ps.reverse ++ i.parts, i.size + ps.length, i.anchors, i.targets⟩ g' := by
  induction es generalizing g i with
  | nil =>
    obtain rfl : g = g' := h
    exact ⟨[], rfl, rfl⟩
  | cons e es ih =>
    obtain ⟨m, g₁, hstep, hrest⟩ := h
    obtain ⟨p, hp⟩ := Option.isSome_iff_exists.mp (hes e (by simp))
    obtain ⟨ps, hparted, hcollect⟩ := ih hrest (fun d hd => hes d (List.mem_cons_of_mem _ hd)) (i.add none p m)
    refine ⟨(p, m) :: ps, by simpa [Parted, hp] using hparted, ?_⟩
    have hone : collect (fuel + (e :: es).length) i g = collect (fuel + es.length) (i.add none p m) g₁ := by
      rw [List.length_cons, ← Nat.add_assoc, collect]
      have hrun : Grammar.step.run g = .ok ((e, m), g₁) := hstep
      rw [hrun]
      have htake := Intake.take_part hp i m
      unfold Event.part? at hp
      split at hp <;> first | simp only [htake] | cases hp
    rw [hone, hcollect]
    simp [Intake.add, Nat.add_comm, Nat.add_left_comm]

namespace Growth

/-- A tree with parts added to it, the first one with number `n`. -/
def extend (target : Nat → Nat) (n : Nat) (ps : List (Part × Mark)) (g : Growth) : Growth :=
  (ps.zipIdx n).foldl (fun g p => g.step target p.2 p.1) g

theorem extend_cons (target : Nat → Nat) (n : Nat) (p : Part × Mark) (ps : List (Part × Mark)) (g : Growth) :
    extend target n (p :: ps) g = extend target (n + 1) ps (g.step target n p) := rfl

theorem extend_append (target : Nat → Nat) (n : Nat) (ps qs : List (Part × Mark)) (g : Growth) :
    extend target n (ps ++ qs) g = extend target (n + ps.length) qs (extend target n ps g) := by
  rw [extend, List.zipIdx_append, List.foldl_append]
  rfl

/-- Parts that add nodes to the innermost collection, and nothing else. -/
def Grows (ps : List (Part × Mark)) (ns : List Node) : Prop :=
  ∀ (target : Nat → Nat) (n : Nat) (g : Growth) (b : Branch) (rest : List Branch), g.branches = b :: rest →
    (extend target n ps g).branches = { b with children := ns.reverse ++ b.children } :: rest

theorem grows_nil : Grows [] [] := fun _ _ _ _ _ h => h

theorem Grows.append {ps qs : List (Part × Mark)} {ns ms : List Node} (h : Grows ps ns) (h' : Grows qs ms) :
    Grows (ps ++ qs) (ns ++ ms) := by
  intro target n g b rest hg
  rw [extend_append, h' target _ _ _ _ (h target n g b rest hg)]
  simp

theorem grows_scalar (v : Scalar) (m : Mark) : Grows [(.scalar v, m)] [.scalar v m] := by
  intro target n g b rest hg
  simp [extend, step, add, hg]

theorem branches_finish {g : Growth} {b c : Branch} {rest : List Branch} (h : g.branches = c :: b :: rest) :
    g.finish.branches = { b with children := c.node :: b.children } :: rest := by
  simp [finish, add, h]

theorem root_finish {g : Growth} {b : Branch} (h : g.branches = [b]) :
    g.finish.branches = [] ∧ g.finish.root = some b.node := by
  simp [finish, add, h]

theorem Grows.sequence {ps : List (Part × Mark)} {ns : List Node} (h : Grows ps ns) (tag : Option String) (m m' : Mark) :
    Grows ((.sequence tag, m) :: (ps ++ [(.finish, m')])) [.sequence tag ns m] := by
  intro target n g b rest hg
  have hinner := h target (n + 1) (g.step target n (.sequence tag, m)) ⟨n, false, tag, m, []⟩ (b :: rest)
    (by simp [step, hg])
  rw [extend_cons, extend_append]
  exact (branches_finish hinner).trans (by simp [Branch.node])

/-- The parts of a mapping make the whole tree. -/
theorem Grows.mapping {ps : List (Part × Mark)} {ns : List Node} (h : Grows ps ns) (tag : Option String) (m m' : Mark)
    (target : Nat → Nat) :
    (extend target 0 ((.mapping tag, m) :: (ps ++ [(.finish, m')])) .empty).branches = [] ∧
      (extend target 0 ((.mapping tag, m) :: (ps ++ [(.finish, m')])) .empty).root =
        some (.mapping tag (Node.pairs ns) m) := by
  have hinner := h target 1 (Growth.empty.step target 0 (.mapping tag, m)) ⟨0, true, tag, m, []⟩ [] rfl
  rw [extend_cons, extend_append]
  obtain ⟨hbranches, hroot⟩ := root_finish hinner
  exact ⟨hbranches, hroot.trans (by simp [Branch.node])⟩

end Growth

/-! Nodes of entries. -/

/-- A scalar with a text, however it is written and wherever it stands. -/
def Node.Says (n : Node) (s : String) (f : Form) : Prop := ∃ m, n = .scalar ⟨s, f, none⟩ m

/-- The node of what stands behind a key. -/
def Grammar.Content.Stands : Grammar.Content → Node → Prop
  | .scalar s f, n => n.Says s f
  | .sequence items, n => ∃ ns m, n = .sequence none ns m ∧ List.Forall₂ (fun x n => n.Says x.1 x.2) items ns

/-- Key and value of an entry. -/
def Grammar.StandsEntry (e : String × Grammar.Content) (p : Node × Node) : Prop :=
  p.1.Says e.1 .plain ∧ e.2.Stands p.2

open Grammar Growth

theorem parted_append {es ds : List Event} {ps : List (Part × Mark)} (h : Parted (es ++ ds) ps) :
    ∃ qs rs, ps = qs ++ rs ∧ Parted es qs ∧ Parted ds rs := by
  rw [Parted, List.map_append] at h
  obtain ⟨qs, rs, rfl, hq, hr⟩ := List.map_eq_append_iff.mp h.symm
  exact ⟨qs, rs, rfl, hq.symm, hr.symm⟩

theorem parted_cons {e : Event} {p : Part} (he : e.part? = some p) {es : List Event} {ps : List (Part × Mark)}
    (h : Parted (e :: es) ps) : ∃ m rs, ps = (p, m) :: rs ∧ Parted es rs := by
  cases ps with
  | nil => simp [Parted] at h
  | cons q ps =>
    simp only [Parted, List.map_cons, he, List.cons.injEq, Option.some.injEq] at h
    exact ⟨q.2, ps, by rw [h.1], h.2⟩

theorem parted_nil {ps : List (Part × Mark)} (h : Parted [] ps) : ps = [] := by
  cases ps with
  | nil => rfl
  | cons p ps => simp [Parted] at h

theorem grows_items (items : List (String × Form)) {ps : List (Part × Mark)} (h : Parted (itemEvents items) ps) :
    ∃ ns, Grows ps ns ∧ List.Forall₂ (fun x n => Node.Says n x.1 x.2) items ns := by
  induction items generalizing ps with
  | nil =>
    obtain rfl := parted_nil h
    exact ⟨[], grows_nil, .nil⟩
  | cons x items ih =>
    obtain ⟨m, rs, rfl, hrest⟩ := parted_cons rfl h
    obtain ⟨ns, hgrows, hsays⟩ := ih hrest
    exact ⟨_, (grows_scalar _ m).append hgrows, .cons ⟨m, rfl⟩ hsays⟩

theorem grows_content (c : Content) {ps : List (Part × Mark)} (h : Parted c.events ps) :
    ∃ n, Grows ps [n] ∧ c.Stands n := by
  cases c with
  | scalar s f =>
    obtain ⟨m, rs, rfl, hrest⟩ := parted_cons rfl h
    obtain rfl := parted_nil hrest
    exact ⟨_, grows_scalar _ m, m, rfl⟩
  | sequence items =>
    obtain ⟨m, rs, rfl, hrest⟩ := parted_cons rfl h
    obtain ⟨qs, ends, rfl, hitems, hend⟩ := parted_append hrest
    obtain ⟨m', rs, rfl, hnil⟩ := parted_cons rfl hend
    obtain rfl := parted_nil hnil
    obtain ⟨ns, hgrows, hsays⟩ := grows_items items hitems
    exact ⟨_, hgrows.sequence none m m', ns, m, rfl, hsays⟩

theorem grows_entries (es : List (String × Content)) {ps : List (Part × Mark)} (h : Parted (es.flatMap entryEvents) ps) :
    ∃ ns, Grows ps ns ∧ List.Forall₂ StandsEntry es (Node.pairs ns) := by
  induction es generalizing ps with
  | nil =>
    obtain rfl := parted_nil h
    exact ⟨[], grows_nil, .nil⟩
  | cons e es ih =>
    rw [List.flatMap_cons] at h
    obtain ⟨qs, rs, rfl, hentry, hrest⟩ := parted_append h
    obtain ⟨m, qs, rfl, hcontent⟩ := parted_cons rfl hentry
    obtain ⟨n, hvalue, hstands⟩ := grows_content e.2 hcontent
    obtain ⟨ns, hgrows, hentries⟩ := ih hrest
    exact ⟨_, ((grows_scalar _ m).append hvalue).append hgrows, .cons ⟨⟨m, rfl⟩, hstands⟩ hentries⟩

theorem part_content (c : Content) : ∀ e ∈ c.events, e.part?.isSome := by
  cases c with
  | scalar s f => simp [Content.events, Event.part?]
  | sequence items =>
    intro e he
    simp only [Content.events, itemEvents, List.mem_cons, List.mem_append, List.mem_map, List.not_mem_nil, or_false] at he
    rcases he with rfl | ⟨x, -, rfl⟩ | rfl <;> rfl

theorem part_entries (es : List (String × Content)) : ∀ e ∈ es.flatMap entryEvents, e.part?.isSome := by
  intro e he
  obtain ⟨x, -, hx⟩ := List.mem_flatMap.mp he
  rcases List.mem_cons.mp hx with rfl | hx
  · rfl
  · exact part_content x.2 e hx

/-- A tree of which nothing is open is the tree of the document. -/
theorem Intake.root_document {i : Intake} {n : Node}
    (hbranches : (extend (fun n => (i.targets.lookup n).getD 0) 0 i.parts.reverse .empty).branches = [])
    (hroot : (extend (fun n => (i.targets.lookup n).getD 0) 0 i.parts.reverse .empty).root = some n) :
    (i.document none none false).root = n := by
  have hgrow : grow (fun n => (i.targets.lookup n).getD 0) i.parts.reverse =
      extend (fun n => (i.targets.lookup n).getD 0) 0 i.parts.reverse .empty := rfl
  simp only [document, hgrow, hbranches, List.length_nil, cutAll, hroot, Option.getD_some]

/-- A text that is found as the tokens of a mapping is one document, with that mapping in it. -/
theorem Document.ofString_entries {s : String} (hallowed : firstControl? 0 s.toList = none) (e : String × Content)
    (es : List (String × Content))
    (h : (Lexer.ofString s).Shows (.blockMapping :: ((e :: es).flatMap entryTokens ++ [.blockEnd, .streamEnd])))
    (hfew : ((e :: es).flatMap entryEvents).length + 4 ≤ maxEvents * (s.length + 1)) :
    ∃ ps m, (Document.ofString s).root = .mapping none ps m ∧ List.Forall₂ StandsEntry (e :: es) ps ∧
      (Document.ofString s).fault = none ∧ (Document.ofString s).followed = false := by
  obtain ⟨p, l₁, l', hstart, hgives, hend⟩ := gives_document e es h
  obtain ⟨q, l₂, h₂, hdocumentEnd⟩ := step_documentEnd [] [] defaultHandles hend
  have hparts : ∀ d ∈ Event.mapping none none :: ((e :: es).flatMap entryEvents ++ [.mappingEnd]), d.part?.isSome := by
    intro d hd
    simp only [List.mem_cons, List.mem_append, List.not_mem_nil, or_false] at hd
    rcases hd with rfl | hd | rfl
    · rfl
    · exact part_entries (e :: es) d hd
    · rfl
  -- the events are few enough for all of them to be collected
  obtain ⟨k, hk⟩ := Nat.exists_eq_add_of_le hfew
  have hfuel : maxEvents * (s.length + 1) =
      (k + 1 + (Event.mapping none none :: ((e :: es).flatMap entryEvents ++ [.mappingEnd])).length) + 1 := by
    simp only [List.length_cons, List.length_append, List.length_nil]
    omega
  obtain ⟨ps, hparted, hcollect⟩ := collect_gives hgives hparts (k + 1) .empty
  have hdocument : Document.ofString s =
      (Intake.mk (ps.reverse ++ []) (0 + ps.length) [] []).document none none false := by
    have hrun : Grammar.step.run (.ofString s) = .ok ((.documentStart, p), ⟨l₁, .blockNode, [.documentEnd], [], defaultHandles⟩) :=
      hstart
    have hlast : Grammar.step.run ⟨l', .documentEnd, [], [], defaultHandles⟩ =
      .ok ((.documentEnd, q), ⟨l₂, .document false, [], [], defaultHandles⟩) := hdocumentEnd
    rw [Document.ofString, hallowed, hfuel]
    show collect _ _ _ = _
    rw [collect, hrun]
    refine hcollect.trans ?_
    rw [collect, hlast]
    simp only [isFollowed_end [] [] defaultHandles h₂]
    rfl
  -- the parts are the begin of the mapping, its entries and its end
  obtain ⟨m, rs, rfl, hrest⟩ := parted_cons rfl hparted
  obtain ⟨qs, ends, rfl, hentries, hends⟩ := parted_append hrest
  obtain ⟨m', rs, rfl, hnil⟩ := parted_cons rfl hends
  obtain rfl := parted_nil hnil
  obtain ⟨ns, hgrows, hstands⟩ := grows_entries (e :: es) hentries
  refine ⟨Node.pairs ns, m, ?_, hstands, by rw [hdocument]; rfl, by rw [hdocument]; rfl⟩
  obtain ⟨hbranches, hroot⟩ := hgrows.mapping none m m' fun n => (([] : List (Nat × Nat)).lookup n).getD 0
  rw [hdocument]
  exact Intake.root_document (by simpa using hbranches) (by simpa using hroot)

end ApiStencil.Yaml
