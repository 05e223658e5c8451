import TypeCatalog.Proofs.Settings.Together

/-! # Settings — checks that are given up

A check complains about what is not as it should be, and goes on.  It has to be given up where it
cannot tell: at a destination of the log in a home directory that there is not.  What is found
elsewhere is then of no account.

* `Checked.reasonOf`: why a check had to be given up, for each way to put checks together.
* `Settings.Homeless`: a destination in a home directory that there is not.
* `Settings.checkEntries_eq_abandoned_iff`: checking is given up at such a destination, and at
  nothing else.
-/

namespace TypeCatalog

open Value (at? field?)

/-! ### Checks that are given up -/

namespace Checked

variable {α β : Type} {c : Checked α} {d : Checked β} {check : Value → Checked α}

/-- Why a check had to be given up, if it had. -/
def reasonOf : Checked α → Option String
  | .abandoned reason => some reason
  | _                 => none

theorem reasonOf_eq_some_iff {reason : String} :
    reasonOf c = some reason ↔ c = .abandoned reason := by
  cases c <;> simp [reasonOf]

@[simp] theorem reasonOf_valid (a : α) : reasonOf (.valid a) = none := rfl

@[simp] theorem reasonOf_reject (cause : Cause) (v : Value) :
    reasonOf (reject cause v : Checked α) = none := rfl

@[simp] theorem reasonOf_map (f : α → β) : reasonOf (c.map f) = reasonOf c := by
  cases c <;> rfl

@[simp] theorem reasonOf_under (name : String) : reasonOf (c.under name) = reasonOf c := by
  cases c <;> rfl

@[simp] theorem reasonOf_and : reasonOf (c.and d) = (reasonOf c).or (reasonOf d) := by
  cases c <;> cases d <;> rfl

/-- A further check that is never given up gives no further reason. -/
theorem reasonOf_andThen {f : α → Checked β} (h : ∀ a, reasonOf (f a) = none) :
    reasonOf (c.andThen f) = reasonOf c := by
  cases c with
  | valid a => exact h a
  | _ => rfl

@[simp] theorem reasonOf_text (v : Value) : reasonOf (text v) = none := by
  unfold text
  cases v.asText? <;> rfl

theorem reasonOf_nullable (h : ∀ v, reasonOf (check v) = none) (v : Value) :
    reasonOf (nullable check v) = none := by
  cases v <;> simp [nullable, h]

@[simp] theorem reasonOf_word (asText? : Value → Option String) (ofWord? : String → Option α)
    (cause : Cause) (v : Value) : reasonOf (word asText? ofWord? cause v) = none := by
  unfold word
  split <;> rfl

@[simp] theorem reasonOf_switch (v : Value) : reasonOf (switch v) = none := by
  unfold switch switchWord switchNumber
  repeat' split
  all_goals rfl

/-! A record is given up where one of its fields is. -/

theorem reasonOf_record {name : String} {f : List (Value × Value) → Checked α}
    (h : ∀ es, reasonOf (f es) = none) (v : Value) :
    reasonOf ((record name v).andThen f) = none := by
  unfold record
  cases v.entries? with
  | none => rfl
  | some es => exact h es

theorem reasonOf_record_of_field {name key : String} {f : List (Value × Value) → Checked α}
    {g : Value → Option String} (h : ∀ es, reasonOf (f es) = (field? key es).bind g) (v : Value) :
    reasonOf ((record name v).andThen f) = (at? [.text key] v).bind g := by
  rw [Value.at?_cons, Value.at?_nil]
  unfold record
  cases v.entries? with
  | none => rfl
  | some es => exact (h es).trans (by rw [Option.bind_some, Option.bind_fun_some]; rfl)

@[simp] theorem reasonOf_fieldOr (es : List (Value × Value)) (name : String) (default : α) :
    reasonOf (fieldOr es name default check) =
      (field? name es).bind fun v => reasonOf (check v) := by
  unfold fieldOr
  cases field? name es <;> simp

@[simp] theorem reasonOf_field (v : Value) (es : List (Value × Value)) (name : String) :
    reasonOf (field v es name check) = (field? name es).bind fun v => reasonOf (check v) := by
  unfold field
  cases field? name es <;> simp

theorem reasonOf_onlyFields (names : List String) (es : List (Value × Value)) :
    reasonOf (onlyFields names es) = none := by
  induction es with
  | nil => rfl
  | cons e es ih =>
      obtain ⟨k, v⟩ := e
      cases k with
      | text s =>
          simp only [onlyFields, reasonOf_map, reasonOf_and, ih, Option.or_none]
          split <;> simp
      | _ => simp [onlyFields, ih]

/-! A list is given up where one of its items is, a mapping where one of its values is. -/

/-- What is read as a list. -/
def itemsOf (v : Value) : List Value := v.items?.getD []

theorem reasonOf_itemsFrom (i : Nat) (vs : List Value) :
    reasonOf (itemsFrom check i vs) = vs.findSome? fun v => reasonOf (check v) := by
  induction vs generalizing i with
  | nil => rfl
  | cons v vs ih =>
      rw [itemsFrom, reasonOf_map, reasonOf_and, reasonOf_under, ih, List.findSome?_cons]
      cases reasonOf (check v) <;> rfl

theorem reasonOf_list (v : Value) :
    reasonOf (list check v) = (itemsOf v).findSome? fun v => reasonOf (check v) := by
  unfold list itemsOf
  cases v.items? with
  | none => rfl
  | some vs => exact reasonOf_itemsFrom 0 vs

theorem reasonOf_mapping (h : ∀ v, reasonOf (check v) = none) (v : Value) :
    reasonOf (mapping check v) = none := by
  have entries (es : List (Value × Value)) : reasonOf (entries check es) = none := by
    induction es with
    | nil => rfl
    | cons e es ih =>
        obtain ⟨k, w⟩ := e
        have key : reasonOf (key k) = none := by
          unfold Checked.key
          split
          · rfl
          · rw [reasonOf_under, reasonOf_under, reasonOf_text]
        simp [Checked.entries, key, h, ih]
  unfold mapping
  cases v.entries? with
  | none => rfl
  | some es => exact (reasonOf_map _).trans (entries es)

end Checked

open Checked

/-! ### Destinations without a home -/

theorem reasonOf_checkModules (v : Value) : reasonOf (checkModules v) = none := by
  unfold checkModules
  rw [reasonOf_andThen]
  · rw [reasonOf_list]
    exact List.findSome?_eq_none_iff.2 fun v _ => reasonOf_text v
  · intro names
    split <;> rfl

theorem ResolutionSettings.reasonOf_check (v : Value) : reasonOf (check v) = none :=
  reasonOf_record (fun es => by simp [reasonOf_checkModules]) v

theorem Format.reasonOf_check (v : Value) : reasonOf (check v) = none := by
  refine reasonOf_record (fun es => ?_) v
  rw [reasonOf_andThen]
  · simp [checkType, checkFormat]
  · intro f
    split <;> rfl

theorem FormatSettings.reasonOf_check (v : Value) : reasonOf (check v) = none :=
  reasonOf_record (fun es => by simp [reasonOf_mapping Format.reasonOf_check]) v

theorem OutputSettings.reasonOf_check (homes : Destination.Homes) (v : Value) :
    reasonOf (check homes v) =
      (at? ["destination"] v).bind fun d => reasonOf (checkDestination homes d) :=
  reasonOf_record_of_field (fun es => by
    simp [checkRendering, checkLevel, reasonOf_nullable]) v

theorem LoggingSettings.reasonOf_check (homes : Destination.Homes) (v : Value) :
    reasonOf (check homes v) =
      (at? ["outputs"] v).bind fun outputs =>
        (itemsOf outputs).findSome? fun o => reasonOf (OutputSettings.check homes o) :=
  reasonOf_record_of_field (fun es => by simp [checkLevel, reasonOf_list]) v

theorem reasonOf_checkDestination {homes : Destination.Homes} {v : Value} {reason : String} :
    reasonOf (checkDestination homes v) = some reason ↔
      ∃ s, v.asText? = some s ∧ Destination.ofText homes s = .error .noHome ∧
        reason = Destination.Fault.noHome.message s := by
  unfold checkDestination text
  cases v.asText? with
  | none => simp [reject, andThen, reasonOf]
  | some s =>
      simp only [andThen, Option.some.injEq, exists_eq_left']
      cases h : Destination.ofText homes s with
      | ok d => simp
      | error f => cases f <;> simp [reasonOf, reject, eq_comm]

namespace Settings

variable {homes : Destination.Homes} {es : List (Value × Value)}

/-- What gives up checking a configuration are the destinations of its log. -/
theorem reasonOf_checkEntries :
    reasonOf (checkEntries homes es) =
      (at? ["logging", "outputs"] (.dict es)).bind fun outputs =>
        (itemsOf outputs).findSome? fun o =>
          (at? ["destination"] o).bind fun d => reasonOf (checkDestination homes d) := by
  simp only [checkEntries, checkSections, reasonOf_map, reasonOf_and, reasonOf_fieldOr,
    reasonOf_onlyFields, ResolutionSettings.reasonOf_check, FormatSettings.reasonOf_check,
    LoggingSettings.reasonOf_check, OutputSettings.reasonOf_check, Option.or_none,
    Option.bind_fun_none, Value.at?_cons_dict, Option.bind_assoc]
  rfl

/-- The reason for which checking is given up, whatever the destination. -/
def noHome : String := Destination.Fault.noHome.message ""

/-- A destination of the log that is given stands in a home directory that there is not. -/
def Homeless (homes : Destination.Homes) (es : List (Value × Value)) : Prop :=
  ∃ outputs, at? ["logging", "outputs"] (.dict es) = some outputs ∧ ∃ o ∈ itemsOf outputs,
    ∃ d s, at? ["destination"] o = some d ∧ d.asText? = some s ∧
      Destination.ofText homes s = .error .noHome

/-- The first of some outcomes that can only be one is that one, if there is any. -/
theorem findSome?_eq_some_iff_of_eq {α β : Type} {f : α → Option β} {b c : β}
    (h : ∀ a c, f a = some c → c = b) {as : List α} :
    as.findSome? f = some c ↔ (∃ a ∈ as, f a = some b) ∧ c = b := by
  constructor
  · intro hc
    obtain ⟨a, ha, hac⟩ := List.exists_of_findSome?_eq_some hc
    obtain rfl := h a c hac
    exact ⟨⟨a, ha, hac⟩, rfl⟩
  · rintro ⟨⟨a, ha, hab⟩, rfl⟩
    obtain ⟨c, hc⟩ := Option.isSome_iff_exists.1
      (List.findSome?_isSome_iff.2 ⟨a, ha, Option.isSome_iff_exists.2 ⟨_, hab⟩⟩)
    obtain ⟨a', -, hac⟩ := List.exists_of_findSome?_eq_some hc
    rw [hc, h a' c hac]

/-- **Checking is given up** where a destination stands in a home directory that there is not. -/
theorem checkEntries_eq_abandoned_iff {reason : String} :
    checkEntries homes es = .abandoned reason ↔ Homeless homes es ∧ reason = noHome := by
  have given (o : Value) (reason : String) :
      ((at? ["destination"] o).bind fun d => reasonOf (checkDestination homes d)) = some reason ↔
        (∃ d s, at? ["destination"] o = some d ∧ d.asText? = some s ∧
          Destination.ofText homes s = .error .noHome) ∧ reason = noHome := by
    simp only [Option.bind_eq_some_iff, reasonOf_checkDestination]
    constructor
    · rintro ⟨d, hd, s, ht, hs, hr⟩
      exact ⟨⟨d, s, hd, ht, hs⟩, hr⟩
    · rintro ⟨⟨d, s, hd, ht, hs⟩, hr⟩
      exact ⟨d, hd, s, ht, hs, hr⟩
  rw [← reasonOf_eq_some_iff, reasonOf_checkEntries, Homeless, Option.bind_eq_some_iff]
  -- There is only one reason, so it does not matter which of the destinations comes first.
  simp only [findSome?_eq_some_iff_of_eq fun o c h => ((given o c).1 h).2, given, and_true]
  constructor
  · rintro ⟨outputs, ho, h, hr⟩
    exact ⟨⟨outputs, ho, h⟩, hr⟩
  · rintro ⟨⟨outputs, ho, h⟩, hr⟩
    exact ⟨outputs, ho, h, hr⟩

end Settings

end TypeCatalog
