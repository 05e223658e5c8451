import TypeCatalog.Proofs.Command.Annotations
import TypeCatalog.Proofs.Command.Scan
import TypeCatalog.Proofs.TypeRef.Normal

/-! # The command line — classification of a printed reference

The answer to a question about a format names the type as it is printed.  What is printed is asked
again: the words are no switches, they are read, and the reference that is read has the same print,
the same name and the same format.  So the answer is the same.

* `ofWords_classifyWords`: the words of a question come to the question.
* `run_classify_print`: a run says of a printed reference what it says of the text.
-/

namespace TypeCatalog.Command

open TypeRef (ofText)

/-! ### Questions about a format -/

/-- The switches of the program: to be verbose, and where the settings are. -/
def programSwitches (verbose : Bool) (config : Option String) : List (Switch × String) :=
  (if verbose then [(.verbose, "")] else []) ++ config.toList.map fun path => (.config, path)

def jsonSwitch (json : Bool) : List (Switch × String) := if json then [(.json, "")] else []

/-- The words of a question about the format of a type. -/
def classifyWords (verbose : Bool) (config : Option String) (json : Bool) (type : String) :
    List String :=
  switchWords (programSwitches verbose config)
    ++ Task.classify.name :: (switchWords (jsonSwitch json) ++ [type])

theorem mayGive_programSwitches (verbose : Bool) (config : Option String) :
    MayGive Scope.program.switches (programSwitches verbose config) := by
  intro g hg
  rcases List.mem_append.1 hg with hg | hg
  · cases verbose with
    | false => cases hg
    | true =>
        obtain rfl := List.mem_singleton.1 hg
        exact ⟨by decide, fun _ => rfl⟩
  · obtain ⟨path, -, rfl⟩ := List.mem_map.1 hg
    have taken : Switch.config ∈ Scope.program.switches := by decide
    exact ⟨taken, fun ha => by cases ha⟩

theorem mayGive_jsonSwitch (json : Bool) :
    MayGive (Scope.task .classify).switches (jsonSwitch json) := by
  intro g hg
  cases json with
  | false => cases hg
  | true =>
      obtain rfl := List.mem_singleton.1 hg
      exact ⟨by decide, fun _ => rfl⟩

theorem has_programSwitches (verbose : Bool) (config : Option String) (words : List String) :
    Scanned.has ⟨programSwitches verbose config, words⟩ .verbose = verbose := by
  cases verbose <;> cases config <;> rfl

theorem argument?_programSwitches (verbose : Bool) (config : Option String) (words : List String) :
    Scanned.argument? ⟨programSwitches verbose config, words⟩ .config = config := by
  cases verbose <;> cases config <;> rfl

theorem scanScope_of_scan {scope : Scope} {words : List String} {s : Scanned}
    (h : scan scope.switches scope.isMixed words = .ok s)
    (stays : s.first? [.version, .help] = none) : scanScope scope words = .ok s := by
  rw [scanScope, h]
  dsimp only
  rw [stays]

variable {verbose : Bool} {config : Option String} {json : Bool} {type : String}

/-- What a question asks of the program does not depend on the type. -/
theorem ofWords_classifyWords (stored : String → Stored) :
    ProgramRequest.ofWords stored (classifyWords verbose config json type)
      = ((ifGiven (filePath stored Switch.config.name) config).mapError (Halt.misuse .program)).map
          fun config => ⟨verbose, config, .classify, switchWords (jsonSwitch json) ++ [type]⟩ := by
  have scanned : scanScope .program (classifyWords verbose config json type)
      = .ok ⟨programSwitches verbose config,
          Task.classify.name :: (switchWords (jsonSwitch json) ++ [type])⟩ := by
    refine scanScope_of_scan ?_ ?_
    · rw [classifyWords, scan_switchWords _ (mayGive_programSwitches verbose config),
        scan_word _ (by decide)]
      simp [Scope.isMixed, Except.map, Scanned.withSwitches]
    · cases verbose <;> cases config <;> rfl
  have task : Task.ofName? Task.classify.name = some .classify := by decide
  rw [ProgramRequest.ofWords, ProgramRequest.switchesOf, scanned]
  simp only [bind, Except.bind, argument?_programSwitches]
  cases ifGiven (filePath stored Switch.config.name) config with
  | error m => rfl
  | ok path =>
      simp only [Except.mapError, Except.map, pure, Except.pure, task, has_programSwitches]

/-- A word that is no switch is the type that is asked about. -/
theorem ofWords_classify (stored : String → Stored) (h : looksLikeSwitch type = false) :
    Request.ofWords stored .classify (switchWords (jsonSwitch json) ++ [type])
      = .ok (.classify type json) := by
  have scanned : scanScope (.task .classify) (switchWords (jsonSwitch json) ++ [type])
      = .ok ⟨jsonSwitch json, [type]⟩ := by
    refine scanScope_of_scan ?_ ?_
    · rw [scan_switchWords _ (mayGive_jsonSwitch json), scan_word _ h]
      simp [Scope.isMixed, scan, Except.map, Scanned.withSwitches, Scanned.withWord]
    · cases json <;> rfl
  rw [Request.ofWords, scanned]
  cases json <;> rfl

/-- A run depends on the type only through the answer. -/
theorem run_classifyWords_congr {σ Obj Class : Type} (p : Live.Process σ Obj Class) (start : σ)
    (w : Surroundings) {other : String} (ht : looksLikeSwitch type = false)
    (ho : looksLikeSwitch other = false)
    (same : ∀ s, Answer.classify s other json = Answer.classify s type json) :
    run p start w (classifyWords verbose config json other)
      = run p start w (classifyWords verbose config json type) := by
  have task (s : Settings) :
      runTask p start w s .classify (switchWords (jsonSwitch json) ++ [other])
        = runTask p start w s .classify (switchWords (jsonSwitch json) ++ [type]) := by
    simp only [runTask, ofWords_classify w.stored ht, ofWords_classify w.stored ho,
      Answer.ofRequest, same]
  have given (type : String) : (classifyWords verbose config json type).isEmpty = false := by
    cases h : classifyWords verbose config json type with
    | nil => simp [classifyWords] at h
    | cons word words => rfl
  rw [run, run, given, given, if_neg Bool.false_ne_true, if_neg Bool.false_ne_true,
    ofWords_classifyWords, ofWords_classifyWords]
  cases ifGiven (filePath w.stored Switch.config.name) config with
  | error m => rfl
  | ok path =>
      simp only [Except.mapError, Except.map, runRequest, task]

/-! ### Answers -/

/-- An answer shows a reference only by its print. -/
theorem Answer.ofFormat_congr {r r' : TypeRef} (h : r'.print = r.print) (json : Bool) (f : Format) :
    Answer.ofFormat json r' f = Answer.ofFormat json r f := by
  rw [Answer.ofFormat, Answer.ofFormat, h, Answer.formatLine, Answer.formatLine, h]

/-- A reference that has been read has a format in every table. -/
theorem exists_classify_of_ofText {r : TypeRef} (h : ofText type = .ok r) (table : FormatTable) :
    ∃ f, table.classify r = .ok f := by
  by_cases ha : r.kind = .array
  · exact ⟨_, table.classify_of_array ha⟩
  · obtain ⟨name, hn⟩ := exists_canonicalName_of_ofText h
    rw [table.classify_of_ne_array ha, hn]
    exact ⟨_, rfl⟩

/-- The answer about a text that is read is the format of the reference. -/
theorem Answer.classify_of_ofText {r : TypeRef} (h : ofText type = .ok r) (s : Settings)
    (json : Bool) :
    ∃ f, (Inspector.tableOf s.formats).classify r = .ok f ∧
      Answer.classify s type json = ⟨Answer.ofFormat json r f, Inspector.setupEvents s⟩ := by
  obtain ⟨f, hf⟩ := exists_classify_of_ofText h (Inspector.tableOf s.formats)
  refine ⟨f, hf, ?_⟩
  simp only [Answer.classify, h, Inspector.classify, Inspector.ofSettings, hf]

/-- A text that is read is no switch. -/
theorem looksLikeSwitch_of_ofText {r : TypeRef} (h : ofText type = .ok r) :
    looksLikeSwitch type = false := by
  have apart : type.toList.head? ≠ some '-' := fun hc =>
    TypeRef.head?_ne_dash_of_denotes (TypeRef.denotes_of_read h) (Text.head?_trim hc (by decide))
  simp [looksLikeSwitch, apart]

/-- **A printed reference is a normal form.**  Let a text be read as a reference.  What is printed
of the reference is read again, as a reference with the same print, the same name and, in every
table, the same format.  Asked about the text, the program answers with the reference as it is
printed; asked about that, it does the same in every run. -/
theorem run_classify_print {r : TypeRef} (h : ofText type = .ok r) :
    (∃ normal, ofText r.print = .ok normal ∧ normal.print = r.print ∧
      normal.canonicalName = r.canonicalName ∧ (∃ name, r.canonicalName = .ok name) ∧
      ∀ table : FormatTable, table.classify normal = table.classify r) ∧
    (∀ (s : Settings) (json : Bool), ∃ f, (Inspector.tableOf s.formats).classify r = .ok f ∧
      (Answer.classify s type json).answer = Answer.ofFormat json r f) ∧
    (∀ (s : Settings) (json : Bool), Answer.classify s r.print json = Answer.classify s type json) ∧
    ∀ {σ Obj Class : Type} (p : Live.Process σ Obj Class) (start : σ) (w : Surroundings)
      (verbose : Bool) (config : Option String) (json : Bool),
      run p start w (classifyWords verbose config json r.print)
        = run p start w (classifyWords verbose config json type) := by
  -- what is printed is read as a reference that may differ in kind only
  have again := TypeRef.ofText_print_of_shaped
    (TypeRef.shaped_of_denotes (TypeRef.denotes_of_read h))
  have same (s : Settings) (json : Bool) :
      Answer.classify s r.print json = Answer.classify s type json := by
    obtain ⟨f, hf, ha⟩ := Answer.classify_of_ofText h s json
    obtain ⟨g, hg, hb⟩ := Answer.classify_of_ofText again s json
    rw [TypeRef.classify_reread, hf] at hg
    obtain rfl := Except.ok.inj hg
    rw [ha, hb, Answer.ofFormat_congr (TypeRef.print_reread r)]
  refine ⟨⟨_, again, TypeRef.print_reread r, TypeRef.canonicalName_reread r,
    exists_canonicalName_of_ofText h, fun table => TypeRef.classify_reread table r⟩,
    fun s json => ?_, same, ?_⟩
  · obtain ⟨f, hf, ha⟩ := Answer.classify_of_ofText h s json
    exact ⟨f, hf, by rw [ha]⟩
  · intro σ Obj Class p start w verbose config json
    exact run_classifyWords_congr p start w (looksLikeSwitch_of_ofText h)
      (looksLikeSwitch_of_ofText again) fun s => same s json

/-- A type variable bounded by a class that is named like a primitive: what is printed is read as
another reference, and the answer is the same. -/
theorem run_classify_print_boundedNamesake :
    let r := TypeRef.typeVariable "T" (some (.ofClass "int32"))
    let w := besideDocument "a.yaml" writtenTwice
    ofText "~T: int32[str]" = .ok r ∧ r.print = "~T: int32" ∧
    (∃ normal, ofText "~T: int32" = .ok normal ∧ normal.print = "~T: int32" ∧
      normal.canonicalName = .ok "int32") ∧
    (Answer.classify .standard "~T: int32[str]" false).answer
      = .lines true ["~T: int32: integer (int32)"] ∧
    run bareProcess () w (classifyWords false none true "~T: int32")
      = run bareProcess () w (classifyWords false none true "~T: int32[str]") := by
  intro r w
  have read : ofText "~T: int32[str]" = .ok r := TypeRef.ofText_boundedNamesake
  have printed : r.print = "~T: int32" := by
    simp [r, TypeRef.typeVariable, TypeRef.ofClass, TypeRef.print]
  have name : r.canonicalName = .ok "int32" := by
    simp [r, TypeRef.typeVariable, TypeRef.ofClass, TypeRef.canonicalName]
  have format : (Inspector.tableOf Settings.standard.formats).classify r
      = .ok ⟨.integer, .int32⟩ := by
    rw [FormatTable.classify_of_ne_array _ (by decide), name]
    decide +kernel
  obtain ⟨⟨normal, again, hp, hn, -, -⟩, answers, -, runs⟩ := run_classify_print read
  obtain ⟨f, hf, ha⟩ := answers .standard false
  rw [format] at hf
  obtain rfl := Except.ok.inj hf
  rw [printed] at again hp
  refine ⟨read, printed, ⟨normal, again, hp, hn.trans name⟩, ?_, ?_⟩
  · rw [ha, Answer.ofFormat, if_neg Bool.false_ne_true, Answer.formatLine, printed]
    rfl
  · rw [← printed]
    exact runs bareProcess () w false none true

end TypeCatalog.Command
