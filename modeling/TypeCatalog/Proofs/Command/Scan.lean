import TypeCatalog.Command.Scan

/-! # The command line — what scanning makes of a word

One equation for each way a word can be taken: as a switch without an argument, as a switch that
takes the next word as its argument, and as a word of its own.

* `scan_flag`, `scan_argument`, `scan_word`: the equations.
* `scan_switchWords`: any switches in front of other words.
-/

namespace TypeCatalog.Command

variable {allowed : List Switch} {mixed : Bool} {w : Switch}

/-! ### The name of a switch -/

theorem Switch.name_inj {v w : Switch} : v.name = w.name ↔ v = w := by
  refine ⟨?_, congrArg Switch.name⟩
  cases v <;> cases w <;> decide

theorem cutAtEquals_name (w : Switch) : cutAtEquals w.name = (w.name, none) := by
  cases w <;> decide

theorem looksLikeSwitch_name (w : Switch) : looksLikeSwitch w.name = true := by
  cases w <;> decide

theorem name_ne_dashes (w : Switch) : w.name ≠ "--" := by
  cases w <;> decide

/-- A switch that may be given is known by its name. -/
theorem readSwitch_name (h : w ∈ allowed) : readSwitch allowed w.name = readNamed w none := by
  have found : allowed.find? (fun v => v.name == w.name) = some w := by
    cases hf : allowed.find? (fun v => v.name == w.name) with
    | none => exact absurd (beq_self_eq_true w.name) (List.find?_eq_none.1 hf w h)
    | some v =>
        have same : v.name = w.name := by simpa using List.find?_some hf
        rw [Switch.name_inj.1 same]
  rw [readSwitch, cutAtEquals_name]
  dsimp only
  rw [found]

/-! ### Word by word -/

theorem scan_flag (words : List String) (h : w ∈ allowed) (ha : w.argument? = none) :
    scan allowed mixed (w.name :: words)
      = (scan allowed mixed words).map (.withSwitches [(w, "")]) := by
  have read : readSwitch allowed w.name = .ok (.complete [(w, "")]) := by
    rw [readSwitch_name h, readNamed, ha]
    rfl
  rw [scan.eq_def]
  dsimp only
  rw [if_neg (name_ne_dashes w), if_pos (looksLikeSwitch_name w), read]

/-- The next word is the argument, whatever it looks like. -/
theorem scan_argument (value : String) (words : List String) (h : w ∈ allowed)
    (ha : w.argument?.isSome = true) :
    scan allowed mixed (w.name :: value :: words)
      = (scan allowed mixed words).map (.withSwitches [(w, value)]) := by
  have read : readSwitch allowed w.name = .ok (.awaiting w) := by
    rw [readSwitch_name h, readNamed, if_pos ha]
  rw [scan.eq_def]
  dsimp only
  rw [if_neg (name_ne_dashes w), if_pos (looksLikeSwitch_name w), read]

theorem scan_word {word : String} (words : List String) (h : looksLikeSwitch word = false) :
    scan allowed mixed (word :: words) =
      if mixed then (scan allowed mixed words).map (.withWord word)
      else .ok ⟨[], word :: words⟩ := by
  have apart : word ≠ "--" := by
    rintro rfl
    exact absurd h (by decide)
  rw [scan.eq_def]
  dsimp only
  rw [if_neg apart, if_neg (by simp [h])]

/-! ### All switches at once -/

/-- The words for switches and their arguments. -/
def switchWords (given : List (Switch × String)) : List String :=
  given.flatMap fun g => if g.1.argument?.isSome then [g.1.name, g.2] else [g.1.name]

/-- Switches that may be given; those without an argument have the empty one. -/
def MayGive (allowed : List Switch) (given : List (Switch × String)) : Prop :=
  ∀ g ∈ given, g.1 ∈ allowed ∧ (g.1.argument? = none → g.2 = "")

theorem map_withSwitches_append (given more : List (Switch × String)) (e : Except Misuse Scanned) :
    (e.map (Scanned.withSwitches more)).map (Scanned.withSwitches given)
      = e.map (Scanned.withSwitches (given ++ more)) := by
  cases e with
  | error m => rfl
  | ok s => simp [Except.map, Scanned.withSwitches, List.append_assoc]

/-- **Switches are scanned as they are given**, whatever words follow. -/
theorem scan_switchWords {given : List (Switch × String)} (words : List String)
    (h : MayGive allowed given) :
    scan allowed mixed (switchWords given ++ words)
      = (scan allowed mixed words).map (.withSwitches given) := by
  induction given with
  | nil =>
      rw [switchWords, List.flatMap_nil, List.nil_append]
      cases scan allowed mixed words <;> rfl
  | cons g given ih =>
      obtain ⟨w, a⟩ := g
      obtain ⟨hw, hne⟩ := h (w, a) List.mem_cons_self
      have ih := ih fun g hg => h g (List.mem_cons_of_mem _ hg)
      rw [switchWords, List.flatMap_cons, List.append_assoc]
      cases ha : w.argument? with
      | none =>
          obtain rfl : a = "" := hne ha
          rw [if_neg (by simp), List.singleton_append, scan_flag _ hw ha]
          exact (congrArg _ ih).trans (map_withSwitches_append _ _ _)
      | some word =>
          rw [if_pos (by simp), List.cons_append, List.singleton_append,
            scan_argument _ _ hw (by simp [ha])]
          exact (congrArg _ ih).trans (map_withSwitches_append _ _ _)

end TypeCatalog.Command
