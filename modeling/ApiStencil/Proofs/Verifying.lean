import ApiStencil.OpenApi.Document
/-!
What a document has that is found to have the right shape: an object with a text for its version of the format, and
with a title and a version of its own. Which version of the format it names is not looked at.
-/
set_option autoImplicit false

namespace ApiStencil

namespace Json

theorem mem_of_lookup {name : String} {v : Json} {fields : List (String × Json)} (h : lookup name fields = some v) :
    (name, v) ∈ fields := by
  induction fields with
  | nil => cases h
  | cons x fields ih =>
    obtain ⟨n, w⟩ := x
    rw [lookup] at h
    split at h
    · rename_i hn
      rw [← beq_iff_eq.mp hn, Option.some.inj h]
      exact List.mem_cons_self
    · exact List.mem_cons_of_mem _ (ih h)

end Json

namespace OpenApi

theorem bind_ok_iff {α : Type} {a : Except String PUnit} {f : PUnit → Except String α} {r : α} :
    a >>= f = .ok r ↔ a = .ok ⟨⟩ ∧ f ⟨⟩ = .ok r := by
  cases a with
  | error e => simp [bind, Except.bind]
  | ok u => simp [bind, Except.bind]

/-- A loop of checks ends well when each of them does. -/
theorem forIn_ok_iff {α : Type} {step : α → PUnit → Except String (ForInStep PUnit)} (check : α → Except String Unit)
    (hstep : ∀ x, step x ⟨⟩ = check x >>= fun _ => pure (.yield ⟨⟩)) (xs : List α) :
    forIn xs PUnit.unit step = .ok ⟨⟩ ↔ ∀ x ∈ xs, check x = .ok () := by
  induction xs with
  | nil => simp [pure, Except.pure]
  | cons x xs ih =>
    rw [List.forIn_cons, hstep, List.forall_mem_cons, ← ih]
    cases check x with
    | error e => simp [bind, Except.bind]
    | ok u => simp [bind, Except.bind, pure, Except.pure]

section Fields

variable {check : Shape → Json → Except String Unit} {known : List Field} {fields : List (String × Json)}

/-- What is asked of one field that is there. -/
def checkField (check : Shape → Json → Except String Unit) (known : List Field) (x : String × Json) :
    Except String Unit :=
  match known.find? (·.name == x.1), x.2 with
  | some ⟨_, _, .optional⟩, .null | none, _ => .ok ()
  | some f, v => check f.shape v

/-- All fields that are there have to fit, and none that is needed may be missing. -/
theorem checkFields_ok_iff : checkFields check known fields = .ok () ↔
    (∀ x ∈ fields, checkField check known x = .ok ()) ∧
      ∀ f ∈ known, f.need = .required → (Json.lookup f.name fields).isSome = true := by
  rw [checkFields, bind_ok_iff, forIn_ok_iff (checkField check known) ?_]
  · refine and_congr_right fun _ => ?_
    cases hf : known.find? fun f => f.need == .required && (Json.lookup f.name fields).isNone with
    | none => simpa [Option.isSome_iff_ne_none] using hf
    | some f =>
      have hmissing := List.find?_some hf
      simp only [Bool.and_eq_true, beq_iff_eq, Option.isNone_iff_eq_none] at hmissing
      simp only [reduceCtorEq, false_iff]
      intro h
      have := h f (List.mem_of_find?_eq_some hf) hmissing.1
      rw [hmissing.2] at this
      cases this
  · rintro ⟨name, v⟩
    unfold checkField
    dsimp only
    cases known.find? (·.name == name) with
    | none => rfl
    | some f =>
      obtain ⟨_, shape, need⟩ := f
      cases need <;> cases v <;> rfl

theorem checkField_required {name : String} {shape : Shape}
    (hf : known.find? (·.name == name) = some (required name shape)) (v : Json) :
    checkField check known (name, v) = check shape v := by
  rw [checkField, hf]
  rfl

/-- A needed field is there, with a value of its shape. -/
theorem lookup_of_required (h : checkFields check known fields = .ok ()) (name : String) (shape : Shape)
    (hf : known.find? (·.name == name) = some (required name shape)) :
    ∃ v, Json.lookup name fields = some v ∧ check shape v = .ok () := by
  obtain ⟨hfit, hthere⟩ := checkFields_ok_iff.mp h
  obtain ⟨v, hv⟩ : ∃ v, Json.lookup name fields = some v :=
    Option.isSome_iff_exists.mp (hthere _ (List.mem_of_find?_eq_some hf) rfl)
  exact ⟨v, hv, (checkField_required hf v).symm.trans (hfit _ (Json.mem_of_lookup hv))⟩

/-- Fields with another value under a name. -/
def replaced (name : String) (v : Json) (fields : List (String × Json)) : List (String × Json) :=
  fields.map fun x => if x.1 = name then (name, v) else x

theorem lookup_replaced (name other : String) (v : Json) (fields : List (String × Json)) :
    Json.lookup other (replaced name v fields) =
      if other = name then (Json.lookup other fields).map fun _ => v else Json.lookup other fields := by
  induction fields with
  | nil => simp [replaced, Json.lookup]
  | cons x fields ih =>
    obtain ⟨n, w⟩ := x
    rw [replaced] at ih
    rw [replaced, List.map_cons]
    by_cases hn : n = name
    · by_cases hother : other = name
      · simp [Json.lookup, hn, hother]
      · have hdiffers : ¬name = other := fun he => hother he.symm
        simp [Json.lookup, hn, hother, hdiffers, ih]
    · by_cases hm : n = other
      · have hother : ¬other = name := fun he => hn (hm.trans he)
        simp [Json.lookup, hm, hother]
      · simp [Json.lookup, hn, hm, ih]

/-- A value of a needed field may be replaced by any that has the same shape. -/
theorem checkFields_replaced (h : checkFields check known fields = .ok ()) {name : String} {shape : Shape}
    (hf : known.find? (·.name == name) = some (required name shape)) {v : Json} (hv : check shape v = .ok ()) :
    checkFields check known (replaced name v fields) = .ok () := by
  obtain ⟨hfit, hthere⟩ := checkFields_ok_iff.mp h
  refine checkFields_ok_iff.mpr ⟨fun x hx => ?_, fun f hmem hneed => ?_⟩
  · obtain ⟨y, hy, rfl⟩ := List.mem_map.mp hx
    split
    · rw [checkField_required hf, hv]
    · exact hfit y hy
  · rw [lookup_replaced]
    split
    · simpa using hthere f hmem hneed
    · exact hthere f hmem hneed

end Fields

section Check

variable {form : Part → Form} {n : Nat} {v : Json}

theorem check_text (h : check form n .text v = .ok ()) : ∃ s, v = .string s := by
  cases n with
  | zero => cases h
  | succ n =>
    cases v with
    | string s => exact ⟨s, rfl⟩
    | _ => cases h

theorem check_string (h : check form n .text v = .ok ()) (s : String) : check form n .text (.string s) = .ok () := by
  cases n with
  | zero => cases h
  | succ n => rfl

section Part

variable {p : Part} {name : String} {known : List Field} (hp : form p = .record name (Part.layer known))

include hp

theorem check_object_iff {fields : List (String × Json)} :
    check form (n + 1) (.part p) (.object fields) = .ok () ↔ checkFields (check form n) known fields = .ok () := by
  rw [check, hp, checkForm, Part.layer, checkLayers, bind_ok_iff]
  exact and_iff_left rfl

/-- A part that lists its fields is an object whose fields fit. -/
theorem check_part (h : check form n (.part p) v = .ok ()) :
    ∃ m fields, n = m + 1 ∧ v = .object fields ∧ checkFields (check form m) known fields = .ok () := by
  cases n with
  | zero => cases h
  | succ m =>
    cases v with
    | object fields => exact ⟨m, fields, rfl, rfl, (check_object_iff hp).mp h⟩
    | _ =>
      rw [check, hp] at h
      cases h

end Part

end Check

end OpenApi

namespace ApiDocument

open OpenApi

/-- The document with another text for the version of the format. -/
def renumbered (d : ApiDocument) (text : String) : ApiDocument :=
  match d.json with
  | .object fields => ⟨.object (replaced "openapi" (.string text) fields)⟩
  | v => ⟨v⟩

/-- The document names a third version of the format. -/
def NamesThird (d : ApiDocument) : Prop :=
  ∃ text, d.json.get? "openapi" = some (.string text) ∧ "3.".toList <+: text.toList

theorem verify_ok_iff {d : ApiDocument} :
    d.verify = .ok () ↔ check Part.form maxLevels (.part .document) d.json = .ok () := by
  unfold verify
  cases check Part.form maxLevels (.part .document) d.json with
  | error e => simp
  | ok u => simp

theorem verify_eq_ok_of_toBool {d : ApiDocument} (h : d.verify.toBool = true) : d.verify = .ok () := by
  cases hd : d.verify with
  | ok u => rfl
  | error e =>
    rw [hd] at h
    cases h

theorem infoText_of_check {d : ApiDocument} {info : Json} (hinfo : d.json.get? "info" = some info) {n : Nat}
    (h : check Part.form n (.part .info) info = .ok ()) {name : String} (hname : name = "title" ∨ name = "version") :
    ∃ text, d.infoText name = some text := by
  obtain ⟨m, fields, -, rfl, hfields⟩ := check_part (p := .info) rfl h
  obtain ⟨v, hv, hcheck⟩ := lookup_of_required hfields name .text (by rcases hname with rfl | rfl <;> rfl)
  obtain ⟨text, rfl⟩ := check_text hcheck
  refine ⟨text, ?_⟩
  rw [infoText, hinfo, Option.bind_some, Json.get?, hv]
  rfl

theorem namesThird_renumbered {d : ApiDocument} {fields : List (String × Json)} (hd : d.json = .object fields)
    {v : Json} (hv : Json.lookup "openapi" fields = some v) (text : String) :
    (d.renumbered text).NamesThird ↔ "3.".toList <+: text.toList := by
  have hnew : (d.renumbered text).json.get? "openapi" = some (.string text) := by
    rw [renumbered, hd, Json.get?, lookup_replaced, if_pos rfl, hv, Option.map_some]
  rw [NamesThird, hnew]
  simp

/-- A document that is found to have the right shape is an object with a text for the version of the format, and has a
title and a version. What that text is does not matter: with any other one the document is found right as well, and
it names a third version only if the text happens to begin like one. -/
theorem verified_describes {d : ApiDocument} (h : d.verify = .ok ()) :
    (∃ fields text, d.json = .object fields ∧ Json.lookup "openapi" fields = some (.string text)) ∧
      (∃ title, d.title = some title) ∧ (∃ version, d.version = some version) ∧
      ∀ text, (d.renumbered text).verify = .ok () ∧
        ((d.renumbered text).NamesThird ↔ "3.".toList <+: text.toList) := by
  obtain ⟨m, fields, hm, hjson, hfields⟩ := check_part (p := .document) rfl (verify_ok_iff.mp h)
  obtain ⟨v, hv, hcheck⟩ := lookup_of_required hfields "openapi" .text rfl
  obtain ⟨info, hinfo, hinfoCheck⟩ := lookup_of_required hfields "info" (.part .info) rfl
  obtain ⟨old, rfl⟩ := check_text hcheck
  have hget : d.json.get? "info" = some info := by rw [hjson, Json.get?, hinfo]
  refine ⟨⟨fields, old, hjson, hv⟩, infoText_of_check hget hinfoCheck (.inl rfl),
    infoText_of_check hget hinfoCheck (.inr rfl), fun text => ⟨?_, namesThird_renumbered hjson hv text⟩⟩
  rw [verify_ok_iff, renumbered, hjson, hm]
  exact (check_object_iff (p := .document) rfl).mpr (checkFields_replaced hfields rfl (check_string hcheck text))

/-- A document of some version of the format, with a path and with fields that the format does not know. -/
def pets (format : String) : ApiDocument :=
  let responses : Json := .object [("200", .object [("description", .string "All pets")])]
  ⟨.object [("info", .object [("title", .string "Pets"), ("version", .string "1"), ("x-kind", .null)]),
    ("openapi", .string format),
    ("paths", .object [("/pets", .object [("get", .object [("responses", responses)])])]),
    ("x-open", .bool true)]⟩

theorem pets_describes : (pets "3.0.0").verify = .ok () ∧ (∃ title, (pets "3.0.0").title = some title) ∧
    ((pets "3.0.0").renumbered "2.0").verify = .ok () ∧
    (((pets "3.0.0").renumbered "2.0").NamesThird ↔ "3.".toList <+: "2.0".toList) := by
  have h : (pets "3.0.0").verify = .ok () := verify_eq_ok_of_toBool (by decide +kernel)
  obtain ⟨-, htitle, -, hrenumbered⟩ := verified_describes h
  exact ⟨h, htitle, hrenumbered "2.0"⟩

/-- A document of the second version is found right. -/
theorem second_verified : (pets "2.0").verify = .ok () ∧ ¬(pets "2.0").NamesThird := by
  refine ⟨verify_eq_ok_of_toBool (by decide +kernel), ?_⟩
  rintro ⟨text, htext, hthird⟩
  obtain rfl := Json.string.inj (Option.some.inj htext)
  revert hthird
  decide

end ApiDocument
end ApiStencil
