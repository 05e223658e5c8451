import TypeCatalog.Proofs.Logging.History

/-! # Logging — delivery

An event passes three gates: the level of the log, and then that of each output, or of the log for
an output without one.  The outputs that it reaches are those of the settings that its history ends
under, each of them once, and the record it makes has the scan that its history says last.

Of settings only the outputs that could be opened count.  If there are none, the event is shown on
standard error, if it is a warning or worse.

* `Record.scan_complete`: the scan in a record.
* `Log.writesEach`: what is written, action by action.
* `Log.run_delivers`: what each action of a run writes, and where.
* `writes_beside_settings`: where that is not what the settings alone say.
-/

namespace TypeCatalog.Logging

/-! ### Records -/

namespace Record

theorem get?_addMissing (r : Record) (es : Entries String Value) (k : String) :
    (r.addMissing es).get? k = (r.get? k).or (Entries.get? k es) := by
  induction es generalizing r with
  | nil => exact (Option.or_none).symm
  | cons e es ih =>
      obtain ⟨j, v⟩ := e
      have step : (r.addMissing ((j, v) :: es)).get? k =
          (Entries.get? k (if (r.get? j).isSome then r else Entries.put j v r)).or
            (Entries.get? k es) :=
        ih _
      rw [step, Entries.get?]
      by_cases hjk : j = k
      · subst hjk
        rw [if_pos rfl]
        cases hj : r.get? j with
        | some w => simp [hj]
        | none => simp [Entries.get?_put]
      · rw [if_neg hjk]
        split
        · rfl
        · rw [Entries.get?_put, if_neg hjk]

/-- **The scan in a record**: the one it happens in, or else one that came with its values, or with
those of the context. -/
theorem scan_complete (r : Record) (level : Level) (c : Circumstance) :
    (r.complete level c).get? "scan_id" =
      c.scan.or ((r.get? "scan_id").or (Entries.get? "scan_id" c.context)) := by
  have unplaced : (Entries.put "timestamp" (.text c.time)
      (Entries.put "level" (.text level.word) (r.addMissing c.context))).get? "scan_id" =
        (r.get? "scan_id").or (Entries.get? "scan_id" c.context) := by
    rw [Entries.get?_put, if_neg (by decide), Entries.get?_put, if_neg (by decide),
      get?_addMissing]
  cases hscan : c.scan with
  | none =>
      rw [complete, hscan]
      exact unplaced
  | some scan => rw [complete, hscan, withScan, Entries.get?_put, if_pos rfl, Option.some_or]

end Record

/-! ### Action by action -/

namespace Log

variable (time : String)

/-- What each of a sequence of actions writes. -/
def writesEach (l : Log) : List Action → List (List Written)
  | []      => []
  | a :: as => l.writes time a :: writesEach (l.next a) as

theorem length_writesEach (l : Log) (as : List Action) :
    (l.writesEach time as).length = as.length := by
  induction as generalizing l with
  | nil => rfl
  | cons a as ih => exact congrArg Nat.succ (ih _)

theorem run_written (l : Log) (as : List Action) :
    (l.run time as).2 = (l.writesEach time as).flatten := by
  induction as generalizing l with
  | nil => rfl
  | cons a as ih => exact congrArg (l.writes time a ++ ·) (ih _)

/-- What an action writes depends on what was done before it only by the log that this has left. -/
theorem getElem?_writesEach (l : Log) (front : List Action) (a : Action) (after : List Action) :
    (l.writesEach time (front ++ a :: after))[front.length]? =
      some ((l.run time front).1.writes time a) := by
  induction front generalizing l with
  | nil => rfl
  | cons b front ih => exact ih _

variable {l : Log} {a : Action}

theorem writes_of_recorded?_none (h : a.recorded? = none) : l.writes time a = [] := by
  cases a with
  | record => cases h
  | message => cases h
  | _ => rfl

/-- A log that is set up makes one record of an event, and writes it to its targets. -/
theorem writes_of_recorded? {level : Level} {given : Record} (h : a.recorded? = some (level, given))
    {s : Setup} (hs : l.setup = some s) :
    ∃ bare, l.writes time a =
      (targetsIn s level).map fun t =>
        ⟨t, given.complete level ⟨l.context, l.scan, time⟩, bare⟩ := by
  cases a with
  | record level' mayFail event fields =>
      obtain ⟨rfl, rfl⟩ := Prod.mk.inj (Option.some.inj h)
      simp only [writes, circumstance, hs, Option.isSome_some, if_true]
      exact ⟨_, rfl⟩
  | message level' mayFail text =>
      obtain ⟨rfl, rfl⟩ := Prod.mk.inj (Option.some.inj h)
      simp only [writes, circumstance, hs, Option.isSome_some, if_true]
      exact ⟨_, rfl⟩
  | _ => cases h

end Log

theorem textsFor_flatten (destination : String) (wss : List (List Written)) :
    textsFor destination wss.flatten = wss.flatMap (textsFor destination) := by
  induction wss with
  | nil => rfl
  | cons ws wss ih =>
      rw [List.flatMap_cons, ← ih, List.flatten_cons, textsFor, textsFor, textsFor,
        List.filter_append, List.filterMap_append]

/-! ### Targets -/

/-- What is written of an event of the level, made into the record `r`, by a log that settings `s`
have set up with the outputs `opened`. -/
structure Delivered (s : LoggingSettings) (opened : List OutputSettings) (level : Level)
    (r : Record) (ws : List Written) : Prop where
  /-- Each output that takes the event has it once, in the order of the outputs. -/
  toOutputs : opened ≠ [] → ws.map Written.target =
    if s.level.number ≤ level.number then
      (opened.filter fun o => (o.level.getD s.level).number ≤ level.number).map fun o =>
        .output (.ofSettings s.level o)
    else []
  /-- A log without outputs shows warnings and worse. -/
  toStderr : opened = [] → ws.map Written.target =
    if s.level.number ≤ level.number ∧ Level.warning.number ≤ level.number then [.bare] else []
  records : ∀ w ∈ ws, w.record = r

theorem delivered_targetsIn (s : LoggingSettings) (opened : List OutputSettings) (level : Level)
    (r : Record) (bare : String) :
    Delivered s opened level r
      ((Log.targetsIn ⟨s.level, opened.map (.ofSettings s.level)⟩ level).map fun t =>
        ⟨t, r, bare⟩) where
  toOutputs some := by
    cases opened with
    | nil => exact absurd rfl some
    | cons o os =>
        rw [List.map_map]
        refine (List.map_id _).trans ?_
        rw [Log.targetsIn]
        split
        · simp only [List.map_cons]
          rw [← List.map_cons, List.filter_map, List.map_map]
          rfl
        · rfl
  toStderr none := by
    subst none
    rw [List.map_map]
    refine (List.map_id _).trans ?_
    simp only [Log.targetsIn, List.map_nil, Log.bareTargets]
    split_ifs <;> simp_all
  records w hw := by
    obtain ⟨t, -, rfl⟩ := List.mem_map.1 hw
    rfl

/-! ### Runs -/

/-- **Every event is delivered**: in a run that begins with a set-up, what is written is what each
action writes, in order, at every destination too.  An action that records nothing writes nothing.
One that records an event writes it to the outputs that its history has set up and that take the
event, to each once; the record has the values of the context and the scan that its history says,
and a scan of its own only where there is none. -/
theorem Log.run_delivers (storage : Storage) (time : String) (s₀ : LoggingSettings)
    (rest : List Action) :
    let steps := Action.configure s₀ :: rest
    let each := (Log.start storage).writesEach time steps
    let written := ((Log.start storage).run time steps).2
    each.length = steps.length ∧
    written = each.flatten ∧
    (∀ destination, textsFor destination written = each.flatMap (textsFor destination)) ∧
    ∀ front a after, steps = front ++ a :: after → ∃ ws, each[front.length]? = some ws ∧
      (a.recorded? = none → ws = []) ∧
      ∀ level given, a.recorded? = some (level, given) →
        (∃ s opened, EndsUnder storage time front s opened ∧
          Delivered s opened level
            (given.complete level ⟨contextAfter front, scanAfter front, time⟩) ws) ∧
        ∀ w ∈ ws, w.record.get? "scan_id" =
          (scanAfter front).or
            ((given.get? "scan_id").or (Entries.get? "scan_id" (contextAfter front))) := by
  intro steps each written
  have written_eq : written = each.flatten := run_written time _ steps
  refine ⟨length_writesEach time _ steps, written_eq, fun destination => ?_, ?_⟩
  · rw [written_eq, textsFor_flatten]
  intro front a after hsteps
  refine ⟨(logAfter storage time front).writes time a, ?_, writes_of_recorded?_none time, ?_⟩
  · change (writesEach time _ steps)[front.length]? = _
    rw [hsteps]
    exact getElem?_writesEach time _ front a after
  intro level given hrecorded
  -- the action that records something is not the first one, so that the log is set up before it
  obtain ⟨earlier, rfl⟩ : ∃ earlier, front = .configure s₀ :: earlier := by
    cases front with
    | nil =>
        obtain ⟨rfl, -⟩ := List.cons.inj hsteps
        cases hrecorded
    | cons b earlier => exact ⟨earlier, congrArg (· :: earlier) (List.cons.inj hsteps).1.symm⟩
  obtain ⟨s, opened, hends, hsetup⟩ := logAfter_setup storage time s₀ earlier
  obtain ⟨bare, hwrites⟩ := writes_of_recorded? time hrecorded hsetup
  rw [logAfter_context, logAfter_scan] at hwrites
  rw [hwrites]
  have hdelivered := delivered_targetsIn s opened level
    (given.complete level ⟨contextAfter (.configure s₀ :: earlier),
      scanAfter (.configure s₀ :: earlier), time⟩) bare
  refine ⟨⟨s, opened, hends, hdelivered⟩, fun w hw => ?_⟩
  rw [hdelivered.records w hw, Record.scan_complete]

/-- **The settings alone do not say where an event goes**: an error is shown on standard error by a
log that was set up again without outputs; an event is missing at an output after one that cannot be
opened; and an output has no line for an event with a value that it cannot write. -/
theorem writes_beside_settings :
    ((Log.start ⟨[], []⟩).run "" [.configure .standard, .configure ⟨.info, []⟩,
      .record .error false (.text "x") []]).2.map Written.destination = ["stderr"] ∧
    ((Log.start (.ofPaths ["/d"] [])).run "" [.configure ⟨.info, [⟨.console, "stderr", none⟩,
      ⟨.console, "/d", none⟩, ⟨.console, "stdout", none⟩]⟩,
      .record .info false (.text "x") []]).2.map Written.destination = ["stderr"] ∧
    textsFor "stderr" ((Log.start ⟨[], []⟩).run "" [.configure ⟨.info, [⟨.json, "stderr", none⟩]⟩,
      .record .info false (.text "x") [("v", .dict [(.tuple [], .null)])]]).2 = [] := by
  refine ⟨by decide, by decide +kernel, by decide +kernel⟩

end TypeCatalog.Logging
