import Mathlib.Data.List.Induction
import TypeCatalog.Logging.Log
import TypeCatalog.Proofs.Outcome

/-! # Logging — what a history says

Whatever has been done to a log, three things count afterwards: the settings it was last set up
with, the last word about the scan, and the values that were bound to its context.  Each is read off
the actions alone, without going through the states of the log.

Setting up ends early at an output that cannot be opened.  Then the outputs before it are there, and
no others.

* `settled`: what the last action says of those that say something.
* `Log.next_scan`, `Log.next_context`, `Log.next_setup_of_none`: what one action leaves.
* `logAfter_scan`, `logAfter_context`, `logAfter_setup`: by induction on a history, what the log is
  after it.
-/

namespace TypeCatalog.Logging

/-! ### Actions -/

namespace Action

/-- The settings that an action sets the log up with. -/
def settings? : Action → Option LoggingSettings
  | .configure s => some s
  | _            => none

/-- What an action says of the scan: which one there is, or that there is none. -/
def scan? : Action → Option (Option Value)
  | .setScan name => some (some name)
  | .clearScan    => some none
  | _             => none

/-- The values that an action binds. -/
def bound : Action → Entries String Value
  | .bind context => context
  | _             => []

/-- The level at which an action records something, and the values that it gives. -/
def recorded? : Action → Option (Level × Record)
  | .record level mayFail event fields => some (level, .ofEvent fields event mayFail)
  | .message level mayFail text        => some (level, .ofMessage text mayFail)
  | _                                  => none

end Action

/-! ### Histories -/

section

variable {α : Type} (f : Action → Option α)

/-- What is said last, by the actions that say something. -/
def settled (history : List Action) : Option α := (history.filterMap f).getLast?

theorem settled_concat (history : List Action) (a : Action) :
    settled f (history ++ [a]) = (f a).or (settled f history) := by
  rw [settled, List.filterMap_append, List.getLast?_append]
  cases h : f a with
  | none => rw [List.filterMap_cons_none h]; rfl
  | some x => rw [List.filterMap_cons_some h]; rfl

end

/-- The scan after a history: the one set last, unless it has been cleared since. -/
def scanAfter (history : List Action) : Option Value := (settled Action.scan? history).join

/-- The context after a history: all values that have been bound, in their order. -/
def contextAfter (history : List Action) : Entries String Value :=
  Entries.putAll [] (history.flatMap Action.bound)

theorem scanAfter_concat (history : List Action) (a : Action) :
    scanAfter (history ++ [a]) = (a.scan?.getD (scanAfter history)) := by
  rw [scanAfter, settled_concat]
  cases a.scan? <;> rfl

theorem contextAfter_concat (history : List Action) (a : Action) :
    contextAfter (history ++ [a]) = Entries.putAll (contextAfter history) a.bound := by
  rw [contextAfter, List.flatMap_append, List.flatMap_singleton, Entries.putAll,
    List.foldl_append]
  rfl

/-! ### Outputs -/

/-- The name of a destination: of a stream, or of a file by a path that does not lead out of a
directory again. -/
def placeOf (destination : String) : String :=
  if ["stderr", "stdout"].contains destination then destination
  else (Storage.resolved (.ofText destination)).toText

/-- The output that settings describe, in a log of the level. -/
def Output.ofSettings (level : Level) (o : OutputSettings) : Output :=
  ⟨o.rendering, placeOf o.destination, o.level.getD level⟩

theorem place_of_open? {s s' : Storage} {destination place : String}
    (h : s.open? destination = .ok (s', place)) :
    place = (Storage.resolved (.ofText destination)).toText := by
  simp only [Storage.open?] at h
  split at h
  · cases h
  · obtain ⟨made, -, h⟩ := bind_eq_ok_iff.1 h
    split at h
    · cases h
    · split at h
      · cases h
      · cases h
      · exact (congrArg Prod.snd (Except.ok.inj h)).symm

theorem place_of_openDestination {s s' : Storage} {destination place : String}
    (h : openDestination s destination = .ok (s', place)) : place = placeOf destination := by
  rw [openDestination] at h
  rw [placeOf]
  split at h
  · rw [if_pos ‹_›]
    exact (congrArg Prod.snd (Except.ok.inj h)).symm
  · rw [if_neg ‹_›]
    exact place_of_open? h

/-- The outputs of `os` that could be opened are `opened`: all of them, if there was no fault, or
those before one with the fault. -/
def Opened (os : List OutputSettings) (storage : Storage) (fault : Option StorageFault)
    (opened : List OutputSettings) : Prop :=
  match fault with
  | none   => opened = os
  | some f => ∃ o rest, os = opened ++ o :: rest ∧
      openDestination storage o.destination = .error f

theorem opened_openOutputs (level : Level) (os : List OutputSettings) (s : Storage) :
    ∃ opened, (openOutputs level os s).2.1 = opened.map (.ofSettings level) ∧
      Opened os (openOutputs level os s).1 (openOutputs level os s).2.2 opened := by
  induction os generalizing s with
  | nil => exact ⟨[], rfl, rfl⟩
  | cons o os ih =>
      cases ho : openDestination s o.destination with
      | error f =>
          simp only [openOutputs, ho]
          exact ⟨[], rfl, o, os, rfl, ho⟩
      | ok made =>
          obtain ⟨s', place⟩ := made
          obtain ⟨opened, houtputs, hopened⟩ := ih s'
          simp only [openOutputs, ho]
          refine ⟨o :: opened, ?_, ?_⟩
          · rw [place_of_openDestination ho, houtputs]
            rfl
          · revert hopened
            cases (openOutputs level os s').2.2 with
            | none => exact congrArg (o :: ·)
            | some f => exact fun ⟨o', rest, hos, hf⟩ => ⟨o', rest, congrArg (o :: ·) hos, hf⟩

/-- The outputs of settings that a log could open, when it was set up with them. -/
def Log.Opens (l : Log) (s : LoggingSettings) : List OutputSettings → Prop :=
  Opened s.outputs (l.configure s).1.storage (l.configure s).2

/-- A log that is set up has the outputs that it could open. -/
theorem Log.opens_configure (l : Log) (s : LoggingSettings) :
    ∃ opened, l.Opens s opened ∧
      (l.configure s).1.setup = some ⟨s.level, opened.map (.ofSettings s.level)⟩ := by
  obtain ⟨opened, houtputs, hopened⟩ := opened_openOutputs s.level s.outputs l.storage
  refine ⟨opened, hopened, ?_⟩
  rw [← houtputs]
  rfl

/-! ### Steps -/

namespace Log

variable (l : Log) (a : Action)

theorem next_scan : (l.next a).scan = a.scan?.getD l.scan := by
  cases a <;> rfl

theorem next_context : (l.next a).context = Entries.putAll l.context a.bound := by
  cases a <;> rfl

variable {l a} in
theorem next_setup_of_none (h : a.settings? = none) : (l.next a).setup = l.setup := by
  cases a with
  | configure s => cases h
  | _ => rfl

/-! ### Runs -/

variable (time : String)

theorem run_append (as bs : List Action) :
    l.run time (as ++ bs) =
      (((l.run time as).1.run time bs).1,
        (l.run time as).2 ++ ((l.run time as).1.run time bs).2) := by
  induction as generalizing l with
  | nil => rfl
  | cons a as ih =>
      simp only [List.cons_append, run]
      rw [ih]
      simp only [List.append_assoc]

theorem run_concat (as : List Action) :
    (l.run time (as ++ [a])).1 = (l.run time as).1.next a := by
  rw [run_append]
  rfl

end Log

section

variable (storage : Storage) (time : String)

/-- The log after a history. -/
def logAfter (history : List Action) : Log := ((Log.start storage).run time history).1

theorem logAfter_concat (history : List Action) (a : Action) :
    logAfter storage time (history ++ [a]) = (logAfter storage time history).next a :=
  Log.run_concat _ a time history

/-- The scan of a log is what its history says last. -/
theorem logAfter_scan (history : List Action) :
    (logAfter storage time history).scan = scanAfter history := by
  induction history using List.reverseRecOn with
  | nil => rfl
  | append_singleton history a ih => rw [logAfter_concat, Log.next_scan, ih, scanAfter_concat]

/-- The context of a log has the values that its history binds. -/
theorem logAfter_context (history : List Action) :
    (logAfter storage time history).context = contextAfter history := by
  induction history using List.reverseRecOn with
  | nil => rfl
  | append_singleton history a ih =>
      rw [logAfter_concat, Log.next_context, ih, contextAfter_concat]

/-- A history ends under settings `s`, of which it could open the outputs `opened`: it sets the log
up with them, and not again since. -/
def EndsUnder (history : List Action) (s : LoggingSettings) (opened : List OutputSettings) : Prop :=
  ∃ before since, history = before ++ .configure s :: since ∧ (∀ a ∈ since, a.settings? = none) ∧
    (logAfter storage time before).Opens s opened

variable {storage time}

theorem EndsUnder.concat {history : List Action} {s : LoggingSettings}
    {opened : List OutputSettings} (h : EndsUnder storage time history s opened) {a : Action}
    (ha : a.settings? = none) :
    EndsUnder storage time (history ++ [a]) s opened := by
  obtain ⟨before, since, rfl, hsince, hopened⟩ := h
  refine ⟨before, since ++ [a], by rw [List.append_assoc, List.cons_append], ?_, hopened⟩
  rw [List.forall_mem_append]
  exact ⟨hsince, List.forall_mem_singleton.2 ha⟩

variable (storage time)

/-- **What is set up**: once a history has set the log up, the log has the level and the opened
outputs of the settings that the history ends under. -/
theorem logAfter_setup (s₀ : LoggingSettings) (rest : List Action) :
    ∃ s opened, EndsUnder storage time (.configure s₀ :: rest) s opened ∧
      (logAfter storage time (.configure s₀ :: rest)).setup =
        some ⟨s.level, opened.map (.ofSettings s.level)⟩ := by
  induction rest using List.reverseRecOn with
  | nil =>
      obtain ⟨opened, hopened, hsetup⟩ := (logAfter storage time []).opens_configure s₀
      exact ⟨s₀, opened, ⟨[], [], rfl, List.forall_mem_nil _, hopened⟩, hsetup⟩
  | append_singleton rest a ih =>
      rw [← List.cons_append, logAfter_concat]
      cases ha : a.settings? with
      | none =>
          obtain ⟨s, opened, hends, hsetup⟩ := ih
          exact ⟨s, opened, hends.concat ha, (Log.next_setup_of_none ha).trans hsetup⟩
      | some s =>
          obtain rfl : a = .configure s := by
            cases a with
            | configure s' => exact congrArg _ (Option.some.inj ha)
            | _ => cases ha
          obtain ⟨opened, hopened, hsetup⟩ :=
            (logAfter storage time (.configure s₀ :: rest)).opens_configure s
          exact ⟨s, opened, ⟨_, [], rfl, List.forall_mem_nil _, hopened⟩, hsetup⟩

end

end TypeCatalog.Logging
