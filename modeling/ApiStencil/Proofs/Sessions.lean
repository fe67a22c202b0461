import ApiStencil.Proofs.Binding
/-!
Several scripts on one host. Whoever has loaded a script calls the commands that the load has given. What a
script answers depends on what has been asked of it, and not on what has been asked of others in between.
-/
set_option autoImplicit false

namespace ApiStencil.Script

/-- What is asked of a host on behalf of a script. -/
inductive Ask where
  /-- To run the script. -/
  | load (path : Path) (source : String)
  /-- To call one of the commands that the script has given when it was run last. -/
  | call (command : Nat) (args : List Json)

inductive Answer where
  /-- The names and the paths of the commands. -/
  | loaded (commands : List (String × Path))
  | refused (e : Error)
  | called (outcome : Except Error Json)
  | noSuchCommand

/-- A command as its script sees it: where its realm stands among others does not matter. -/
structure Facet where
  name : String
  path : Path
  slot : Nat
  realm : Option Realm

/-- The outcome of a call, the lines written meanwhile and the realm behind it. -/
def Facet.callUntil (f : Facet) (limit : Option Nat) (args : List Json) :
    Except Error Json × List Console.Line × Option Realm :=
  match f.realm with
  | none => (.error (.scriptCall f.name f.path "the command belongs to another host"), [], none)
  | some r =>
    let (outcome, lines, r) := r.callUntil limit f.slot args
    (outcome.mapError (.scriptCall f.name f.path ·), lines, some r)

def Facet.call (f : Facet) (timeoutMs : Option Nat) (args : List Json) :
    Except Error Json × List Console.Line × Option Realm :=
  f.callUntil (Realm.limit timeoutMs) args

/-- The commands of a script whose realm stands at a place. -/
def commandsAt (path : Path) (names : List String) (realm : Nat) : List Command :=
  names.zipIdx.map fun (name, slot) => ⟨name, path, realm, slot⟩

theorem realm_of_mem_commandsAt {path : Path} {names : List String} {realm : Nat} {c : Command}
    (h : c ∈ commandsAt path names realm) : c.realm = realm := by
  obtain ⟨_, _, rfl⟩ := List.mem_map.mp h
  rfl

namespace Host

/-- What a host does to all of its scripts alike. -/
def settings (h : Host) : Option Nat × Journal.Sink × (Path → String → Except Error String) :=
  (h.timeoutMs, h.sink, h.transform)

def facet (h : Host) (c : Command) : Facet := ⟨c.name, c.script, c.slot, h.realms[c.realm]?⟩

/-- What a load answers and reports, and the commands and the host behind it. -/
def loadingUntil (limit : Option Nat) (h : Host) (path : Path) (source : String) :
    Answer × Journal × List Command × Host :=
  match (h.loadUntil limit path source).on ⟨⟨[], ⟨[]⟩⟩, .empty⟩ with
  | (.ok (commands, k), w) => (.loaded (commands.map fun c => (c.name, c.script)), w.journal, commands, k)
  | (.error e, w) => (.refused e, w.journal, [], h)

def loading (h : Host) (path : Path) (source : String) : Answer × Journal × List Command × Host :=
  loadingUntil (Realm.limit h.timeoutMs) h path source

section Loading

variable {h : Host} {path : Path} {source text : String} {limit : Option Nat}

theorem loadingUntil_refused {e : Error} (htext : h.transform path source = .error e) :
    h.loadingUntil limit path source = (.refused e, .empty, [], h) := by
  rw [loadingUntil, loadUntil_refused _ htext]

theorem loadingUntil_ended {message : String} {lines : List Console.Line} (htext : h.transform path source = .ok text)
    (hstart : Realm.startUntil limit text = (.error message, lines)) :
    h.loadingUntil limit path source = (.refused (.scriptLoad path message), (Journal.empty.hear h.sink lines).add .error
      s!"load template script failed: {path.display}: {message}", [], h) := by
  rw [loadingUntil, loadUntil_ended _ htext hstart]

theorem loadingUntil_started {names : List String} {realm : Realm} {lines : List Console.Line}
    (htext : h.transform path source = .ok text)
    (hstart : Realm.startUntil limit text = (.ok (names, realm), lines)) :
    h.loadingUntil limit path source = (.loaded (names.map fun name => (name, path)), Journal.empty.hear h.sink lines,
      commandsAt path names h.realms.size, { h with realms := h.realms.push realm }) := by
  have hnames : (commandsAt path names h.realms.size).map (fun c => (c.name, c.script)) =
      names.map fun name => (name, path) := by
    rw [commandsAt, List.map_map, ← List.zipIdx_map_fst 0 names, List.map_map, List.zipIdx_map_fst]
    rfl
  rw [loadingUntil, loadUntil_started _ htext hstart, ← hnames]
  rfl

end Loading

/-- A load that fails leaves the host as it is; one that goes well adds a realm. Which of them it is and what is
answered is up to the settings. -/
theorem loadingUntil_of_settings {h k : Host} (hs : h.settings = k.settings) (limit : Option Nat) (path : Path)
    (source : String) :
    (∃ answer report, h.loadingUntil limit path source = (answer, report, [], h) ∧
      k.loadingUntil limit path source = (answer, report, [], k)) ∨
    ∃ answer report names realm,
      h.loadingUntil limit path source =
        (answer, report, commandsAt path names h.realms.size, { h with realms := h.realms.push realm }) ∧
      k.loadingUntil limit path source =
        (answer, report, commandsAt path names k.realms.size, { k with realms := k.realms.push realm }) := by
  obtain ⟨timeoutMs, sink, transform, realms⟩ := h
  obtain ⟨_, _, _, realms'⟩ := k
  cases hs
  cases htext : transform path source with
  | error e => exact .inl ⟨_, _, loadingUntil_refused htext, loadingUntil_refused htext⟩
  | ok text =>
    rcases hstart : Realm.startUntil limit text with ⟨message | ⟨names, realm⟩, lines⟩
    · exact .inl ⟨_, _, loadingUntil_ended htext hstart, loadingUntil_ended htext hstart⟩
    · exact .inr ⟨_, _, names, realm, loadingUntil_started htext hstart, loadingUntil_started htext hstart⟩

theorem loading_of_settings {h k : Host} (hs : h.settings = k.settings) (path : Path) (source : String) :
    (∃ answer report, h.loading path source = (answer, report, [], h) ∧
      k.loading path source = (answer, report, [], k)) ∨
    ∃ answer report names realm,
      h.loading path source =
        (answer, report, commandsAt path names h.realms.size, { h with realms := h.realms.push realm }) ∧
      k.loading path source =
        (answer, report, commandsAt path names k.realms.size, { k with realms := k.realms.push realm }) := by
  have hlimit : h.timeoutMs = k.timeoutMs := congrArg Prod.fst hs
  have hk : k.loading path source = k.loadingUntil (Realm.limit h.timeoutMs) path source := by rw [loading, hlimit]
  rw [hk]
  exact loadingUntil_of_settings hs _ path source

section Call

variable (h : Host) (c : Command) (args : List Json)

/-- What a call comes to is up to what its script sees of the command. -/
theorem callUntil_eq (limit : Option Nat) : h.callUntil limit c args =
    (((h.facet c).callUntil limit args).1, ((h.facet c).callUntil limit args).2.1,
      { h with realms := (((h.facet c).callUntil limit args).2.2).elim h.realms (h.realms.setIfInBounds c.realm ·) }) := by
  rw [callUntil, handleUntil, facet, Facet.callUntil]
  cases h.realms[c.realm]? with
  | none => rfl
  | some r =>
    dsimp only
    rcases r.callUntil limit c.slot args with ⟨_ | _, _, _⟩ <;> rfl

theorem call_eq : h.call c args =
    (((h.facet c).call h.timeoutMs args).1, ((h.facet c).call h.timeoutMs args).2.1,
      { h with realms := (((h.facet c).call h.timeoutMs args).2.2).elim h.realms (h.realms.setIfInBounds c.realm ·) }) :=
  h.callUntil_eq c args (Realm.limit h.timeoutMs)

theorem settings_callUntil (limit : Option Nat) : (h.callUntil limit c args).2.2.settings = h.settings := by
  rw [callUntil_eq]
  rfl

theorem settings_call : (h.call c args).2.2.settings = h.settings := h.settings_callUntil c args _

theorem size_call : (h.call c args).2.2.realms.size = h.realms.size := by
  rw [call_eq]
  dsimp only
  cases ((h.facet c).call h.timeoutMs args).2.2 with
  | none => rfl
  | some r => exact Array.size_setIfInBounds

theorem facet_call_of_ne {d : Command} (hd : c.realm ≠ d.realm) : (h.call c args).2.2.facet d = h.facet d := by
  rw [call_eq]
  cases ((h.facet c).call h.timeoutMs args).2.2 with
  | none => rfl
  | some r =>
    rw [facet, Option.elim_some, Array.getElem?_setIfInBounds_ne hd]
    rfl

theorem facet_callUntil_of_eq (limit : Option Nat) {d : Command} (hd : c.realm = d.realm) :
    (h.callUntil limit c args).2.2.facet d = { h.facet d with realm := ((h.facet c).callUntil limit args).2.2 } := by
  rw [callUntil_eq, facet, facet, facet, Facet.callUntil, ← hd]
  dsimp only
  cases hr : h.realms[c.realm]? with
  | none => rw [Option.elim_none, hr]
  | some r =>
    obtain ⟨hlt, -⟩ := Array.getElem?_eq_some_iff.mp hr
    rw [Option.elim_some, Array.getElem?_setIfInBounds_self_of_lt hlt]

theorem facet_call_of_eq {d : Command} (hd : c.realm = d.realm) : (h.call c args).2.2.facet d =
    { h.facet d with realm := ((h.facet c).call h.timeoutMs args).2.2 } :=
  h.facet_callUntil_of_eq c args (Realm.limit h.timeoutMs) hd

end Call

end Host

/-- A host, and the commands of each script on it. -/
structure Session (κ : Type) where
  host : Host
  held : κ → List Command

namespace Session

variable {κ : Type}

def new (h : Host) : Session κ := ⟨h, fun _ => []⟩

/-- The commands of a script as it sees them. -/
def facets (s : Session κ) (k : κ) : List Facet := (s.held k).map s.host.facet

/-- Each script has a realm of its own. -/
structure Apart (s : Session κ) : Prop where
  inside : ∀ k, ∀ c ∈ s.held k, c.realm < s.host.realms.size
  together : ∀ k, ∀ c ∈ s.held k, ∀ d ∈ s.held k, c.realm = d.realm
  apart : ∀ k k', k ≠ k' → ∀ c ∈ s.held k, ∀ d ∈ s.held k', c.realm ≠ d.realm

/-- What a script sees after a call of one of its commands. -/
theorem Apart.facets_call {s : Session κ} (hs : s.Apart) {k : κ} {c : Command} (hc : c ∈ s.held k) (args : List Json) :
    (s.held k).map (s.host.call c args).2.2.facet =
      (s.facets k).map fun f => { f with realm := ((s.host.facet c).call s.host.timeoutMs args).2.2 } := by
  rw [facets, List.map_map]
  exact List.map_congr_left fun d hd => s.host.facet_call_of_eq c args (hs.together k c hc d hd)

theorem apart_new (h : Host) : (new h : Session κ).Apart := ⟨nofun, nofun, nofun⟩

variable [DecidableEq κ]


/-- What comes of an ask: the answer, what is reported meanwhile, and the session behind it. -/
def ask (s : Session κ) (k : κ) : Ask → Answer × Journal × Session κ
  | .load path source =>
    let (answer, report, commands, host) := s.host.loading path source
    (answer, report, ⟨host, fun k' => if k' = k then commands else s.held k'⟩)
  | .call n args =>
    match (s.held k)[n]? with
    | none => (.noSuchCommand, .empty, s)
    | some c =>
      let (outcome, lines, host) := s.host.call c args
      (.called outcome, Journal.empty.hear s.host.sink lines, { s with host })

/-- What is answered and reported to each ask of a history. -/
def answers (s : Session κ) : List (κ × Ask) → List (κ × Answer × Journal)
  | [] => []
  | (k, a) :: rest => (k, (s.ask k a).1, (s.ask k a).2.1) :: (s.ask k a).2.2.answers rest

theorem settings_ask (s : Session κ) (k : κ) (a : Ask) : (s.ask k a).2.2.host.settings = s.host.settings := by
  cases a with
  | load path source =>
    obtain ⟨_, _, h, -⟩ | ⟨_, _, _, _, h, -⟩ := Host.loading_of_settings (Eq.refl s.host.settings) path source
    · simp only [ask, h]
    · simp only [ask, h]
      rfl
  | call n args =>
    rw [ask]
    split
    · rfl
    · exact s.host.settings_call _ args

section Apart

variable {s : Session κ}

/-- The commands of one script are replaced by those of a realm that is new. -/
theorem Apart.renew (hs : s.Apart) (k : κ) (path : Path) (names : List String) (realm : Realm) :
    Apart ⟨{ s.host with realms := s.host.realms.push realm },
      fun k' => if k' = k then commandsAt path names s.host.realms.size else s.held k'⟩ := by
  have hnew : ∀ c ∈ commandsAt path names s.host.realms.size, c.realm = s.host.realms.size :=
    fun c hc => realm_of_mem_commandsAt hc
  refine ⟨fun i c hc => ?_, fun i c hc d hd => ?_, fun i j hij c hc d hd => ?_⟩
  · rw [Array.size_push]
    dsimp only at hc
    split at hc
    · exact (hnew c hc).symm ▸ Nat.lt_succ_self _
    · exact Nat.lt_succ_of_lt (hs.inside i c hc)
  · dsimp only at hc hd
    split at hc
    · rw [if_pos ‹_›] at hd
      rw [hnew c hc, hnew d hd]
    · rw [if_neg ‹_›] at hd
      exact hs.together i c hc d hd
  · dsimp only at hc hd
    split at hc <;> split at hd
    · exact absurd (‹i = k›.trans ‹j = k›.symm) hij
    · rw [hnew c hc]
      exact (Nat.ne_of_lt (hs.inside j d hd)).symm
    · rw [hnew d hd]
      exact Nat.ne_of_lt (hs.inside i c hc)
    · exact hs.apart i j hij c hc d hd

theorem Apart.forget (hs : s.Apart) (k : κ) : Apart ⟨s.host, fun k' => if k' = k then [] else s.held k'⟩ := by
  have hsub : ∀ i, ∀ c ∈ (if i = k then [] else s.held i), c ∈ s.held i := by
    intro i c hc
    split at hc
    · cases hc
    · exact hc
  exact ⟨fun i c hc => hs.inside i c (hsub i c hc),
    fun i c hc d hd => hs.together i c (hsub i c hc) d (hsub i d hd),
    fun i j hij c hc d hd => hs.apart i j hij c (hsub i c hc) d (hsub j d hd)⟩

/-- No ask puts two scripts into one realm. -/
theorem Apart.ask (hs : s.Apart) (k : κ) (a : Ask) : (s.ask k a).2.2.Apart := by
  cases a with
  | load path source =>
    obtain ⟨_, _, h, -⟩ | ⟨_, _, names, realm, h, -⟩ :=
      Host.loading_of_settings (Eq.refl s.host.settings) path source
    · simp only [Session.ask, h]
      exact hs.forget k
    · simp only [Session.ask, h]
      exact hs.renew k path names realm
  | call n args =>
    rw [Session.ask]
    split
    · exact hs
    · rename_i c _
      exact ⟨fun i d hd => (s.host.size_call c args).symm ▸ hs.inside i d hd, hs.together, hs.apart⟩

/-- What is asked of a script does not change what another one sees. -/
theorem Apart.facets_ask_of_ne (hs : s.Apart) {k k' : κ} (hk : k ≠ k') (a : Ask) :
    (s.ask k a).2.2.facets k' = s.facets k' := by
  cases a with
  | load path source =>
    obtain ⟨_, _, h, -⟩ | ⟨_, _, names, realm, h, -⟩ :=
      Host.loading_of_settings (Eq.refl s.host.settings) path source
    · simp only [Session.ask, h, facets, if_neg hk.symm]
    · simp only [Session.ask, h, facets, if_neg hk.symm]
      refine List.map_congr_left fun d hd => ?_
      have hlt := hs.inside k' d hd
      rw [Host.facet, Host.facet, Array.getElem?_push_lt hlt, Array.getElem?_eq_getElem hlt]
  | call n args =>
    rw [Session.ask]
    split
    · rfl
    · rename_i c hc
      exact List.map_congr_left fun d hd =>
        s.host.facet_call_of_ne c args (hs.apart k k' hk c (List.mem_of_getElem? hc) d hd)

end Apart

/-- What a script answers, and what it sees then, is up to the settings and to what it has seen before. -/
theorem ask_of_facets {s t : Session κ} (hs : s.Apart) (ht : t.Apart) (hsettings : s.host.settings = t.host.settings)
    {k : κ} (hk : s.facets k = t.facets k) (a : Ask) :
    (s.ask k a).1 = (t.ask k a).1 ∧ (s.ask k a).2.1 = (t.ask k a).2.1 ∧
      (s.ask k a).2.2.facets k = (t.ask k a).2.2.facets k := by
  cases a with
  | load path source =>
    obtain ⟨_, _, h, h'⟩ | ⟨_, _, names, realm, h, h'⟩ := Host.loading_of_settings hsettings path source
    · simp only [ask, h, h', facets, if_true, List.map_nil, and_self]
    · simp only [ask, h, h', facets, if_true, true_and, commandsAt, List.map_map]
      refine List.map_congr_left fun z _ => ?_
      simp only [Function.comp_apply, Host.facet, Array.getElem?_push_size]
  | call n args =>
    have hlimit : s.host.timeoutMs = t.host.timeoutMs := congrArg Prod.fst hsettings
    have hsink : s.host.sink = t.host.sink := congrArg (·.2.1) hsettings
    have hn : ((s.held k)[n]?).map s.host.facet = ((t.held k)[n]?).map t.host.facet := by
      rw [← List.getElem?_map, ← List.getElem?_map]
      exact congrArg (·[n]?) hk
    rw [ask, ask]
    cases hc : (s.held k)[n]? with
    | none =>
      rw [hc, Option.map_none, eq_comm, Option.map_eq_none_iff] at hn
      rw [hn]
      exact ⟨rfl, rfl, hk⟩
    | some c =>
      rw [hc, Option.map_some, eq_comm, Option.map_eq_some_iff] at hn
      obtain ⟨d, hd, hfacet⟩ := hn
      rw [hd]
      refine ⟨?_, ?_, ?_⟩
      · simp only [Host.call_eq, hfacet, hlimit]
      · simp only [Host.call_eq, hfacet, hlimit, hsink]
      · show (s.held k).map (s.host.call c args).2.2.facet = (t.held k).map (t.host.call d args).2.2.facet
        rw [hs.facets_call (List.mem_of_getElem? hc), ht.facets_call (List.mem_of_getElem? hd), hk, hfacet, hlimit]

/-- Two sessions that look the same to some scripts give them the same answers, also if one of the sessions is
asked nothing else. -/
theorem answers_filter {s t : Session κ} (hs : s.Apart) (ht : t.Apart)
    (hsettings : s.host.settings = t.host.settings) (own : κ → Bool)
    (hown : ∀ k, own k = true → s.facets k = t.facets k) (asks : List (κ × Ask)) :
    (s.answers asks).filter (own ·.1) = t.answers (asks.filter (own ·.1)) := by
  induction asks generalizing s t with
  | nil => rfl
  | cons x rest ih =>
    obtain ⟨k, a⟩ := x
    rw [answers, List.filter_cons, List.filter_cons]
    by_cases hk : own k = true
    · rw [if_pos hk, if_pos hk, answers]
      obtain ⟨hanswer, hreport, hfacets⟩ := ask_of_facets hs ht hsettings (hown k hk) a
      rw [hanswer, hreport]
      refine congrArg _ (ih (hs.ask k a) (ht.ask k a) ?_ fun k' hk' => ?_)
      · rw [settings_ask, settings_ask, hsettings]
      · by_cases he : k = k'
        · exact he ▸ hfacets
        · rw [hs.facets_ask_of_ne he, ht.facets_ask_of_ne he, hown k' hk']
    · rw [if_neg hk, if_neg hk]
      refine ih (hs.ask k a) ht ((settings_ask s k a).trans hsettings) fun k' hk' => ?_
      have he : k ≠ k' := fun he => hk (he ▸ hk')
      rw [hs.facets_ask_of_ne he, hown k' hk']

/-- Whatever is loaded and called in whatever order, some of the scripts on a host without a time limit answer and
report just what they do on a host on which there are no others. -/
theorem scripts_keep_apart (sink : Journal.Sink) (transform : Path → String → Except Error String) (own : κ → Bool)
    (asks : List (κ × Ask)) :
    ((new (Host.new none sink transform)).answers asks).filter (own ·.1) =
      (new (Host.new none sink transform)).answers (asks.filter (own ·.1)) :=
  answers_filter (apart_new _) (apart_new _) rfl own (fun _ _ => rfl) asks

end Session
end ApiStencil.Script
