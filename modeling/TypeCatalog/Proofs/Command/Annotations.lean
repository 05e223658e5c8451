import TypeCatalog.Command.Run
import TypeCatalog.Proofs.Snapshot.Written

/-! # The command line — annotations of a document

Asked for the annotations of a class, of a member or of a parameter, a run writes them as one line
of JSON: what the entries of the document write, in their order.

* `Asks`: the words of a run come to a request, under settings.
* `run_of_asks`: such a run ends with the answer to the request.
* `run_prints_annotations`: what it prints of a document in JSON is what stands in the document.
-/

namespace TypeCatalog.Command

open Value (IsJson SameJson)

/-- The words of a run ask for `q`; the settings are loaded, and the log can be opened. -/
def Asks (w : Surroundings) (words : List String) (s : Settings) (q : Request) : Prop :=
  ∃ (r : ProgramRequest) (loaded : Settings) (l : Logging.Log),
    ProgramRequest.ofWords w.stored words = .ok r ∧
      Settings.load w.homes (sourcesOf w r.config) = .ok loaded ∧
      s = withVerbosity r.verbose loaded ∧ openLog w s = .ok l ∧
      Request.ofWords w.stored r.task r.words = .ok q

namespace Outcome

/-- The outcome is a line of JSON, which lists what the entries of a document write. -/
def Lists (o : Outcome) (entries : List Value) : Prop :=
  o.status = 0 ∧ o.errors = [] ∧ ∃ printed line, List.Forall₂ PrintedAs entries printed ∧
    Json.writePlain? (.list printed) = some line ∧ o.output = [line]

/-- The outcome lists the annotations of an entry; where there is no entry, nothing is answered. -/
def ListsAt (o : Outcome) : (found? : Option Value) → Prop
  | some entry => o.Lists (itemsAt "annotations" entry)
  | none       => o.status ≠ 0 ∧ o.output = []

end Outcome

section

variable {σ Obj Class : Type} (p : Live.Process σ Obj Class) (start : σ) {w : Surroundings}
  {words : List String} {s : Settings} {q : Request}

/-- A run ends with the answer to what is asked, after the records of the log. -/
theorem run_of_asks (h : Asks w words s q) :
    ∃ task written, run p start w words =
      (Outcome.ofAnswer task (Answer.ofRequest p start w.stored s q).answer).map
        fun o => { o with written := written } := by
  obtain ⟨r, loaded, l, hr, hs, rfl, hl, hq⟩ := h
  have given : words.isEmpty = false := by
    cases words with
    | nil => cases hr
    | cons word words => rfl
  let a := Answer.ofRequest p start w.stored (withVerbosity r.verbose loaded) q
  refine ⟨r.task, recordsOf w l a.events, ?_⟩
  rw [run, given, if_neg Bool.false_ne_true, hr]
  simp only [runRequest, hs, runTask, hl, hq]
  rfl

/-! ### Annotations -/

namespace Answer

variable {path className : String} {member : Option String} {param : Option Int}

theorem annotations_of_load {stored : String → Stored} {doc : Value} {index : ClassIndex}
    (file : stored (Path.normal path) = .document doc)
    (loads : (Snapshot.load (Path.normal path) (.document doc)).result = .ok index) (json : Bool) :
    (annotations stored s path className member param json).answer =
      match index.get? className with
      | none   => .refused (.noClass className)
      | some c => ofClass c member param json := by
  simp only [annotations, withInspector, loadIndex, file, loads]
  rfl

/-- What is answered about an element that is found in the document, or is not. -/
theorem ofAnswer_of_finds {found? : Option Value} {c : ClassInfo}
    (h : Finds found? (elementOf c member param)) (task : Task) :
    ∃ o, Outcome.ofAnswer task (ofClass c member param true) = .ok o ∧ o.ListsAt found? := by
  unfold ofClass
  generalize elementOf c member param = found at h
  cases h with
  | @element entry e h =>
      have printed : List.Forall₂ PrintedAs (itemsAt "annotations" entry)
          (e.annotations.map AnnotationRecord.written) :=
        List.forall₂_map_right_iff.2 (h.imp fun _ _ h => h.2)
      have json : IsJson (.list (e.annotations.map AnnotationRecord.written)) := by
        refine .list fun x hx => ?_
        obtain ⟨a, ha, rfl⟩ := List.mem_map.1 hx
        obtain ⟨v, -, hv, hva⟩ := exists_of_forall₂ h.flip ha
        exact hva.isJson hv
      obtain ⟨line, hline⟩ : ∃ line, Json.writePlain? _ = some line := json.exists_write
      refine ⟨.ofLines 0 [line], ?_, rfl, rfl, _, line, printed, hline, rfl⟩
      change Outcome.ofAnswer task (ofJson true (.list (e.annotations.map _))) = _
      rw [ofJson, hline]
      rfl
  | refused f => exact ⟨_, rfl, Nat.one_ne_zero, rfl⟩
  | misused m => exact ⟨_, rfl, (by decide : (2 : Nat) ≠ 0), rfl⟩

end Answer

/-- **A run prints the annotations that stand in the document.**  Let the words of a run ask for the
annotations of a class, or of one of its members or parameters, as JSON, and let the snapshot they
name be a document in JSON that has an index.  If the document has an entry for the element, the
run prints the annotations of that entry: one for each, in order, with its name and its values.
Otherwise it prints nothing and ends with another status.  Whatever value of JSON can be recorded
is written back as it was, the order of entries aside. -/
theorem run_prints_annotations {path className : String} {member : Option String}
    {param : Option Int} {doc : Value} {index : ClassIndex}
    (asked : Asks w words s (.annotations path className member param true))
    (file : w.stored (Path.normal path) = .document doc) (json : doc.IsJson)
    (loads : (Snapshot.load (Path.normal path) (.document doc)).result = .ok index) :
    (∃ o, run p start w words = .ok o ∧
      o.ListsAt ((classAt? className doc).bind fun c => elementAt? c member param)) ∧
    ∀ v recorded, v.IsJson → recordValue v = .ok recorded →
      SameJson v (writtenValue recorded) := by
  refine ⟨?_, fun v recorded => sameJson_of_recordValue v⟩
  obtain ⟨task, written, ended⟩ := run_of_asks p start asked
  have answer : (Answer.ofRequest p start w.stored s
      (.annotations path className member param true)).answer = _ :=
    Answer.annotations_of_load file loads true
  have found := get?_of_classAt? json loads className
  rw [ended, answer]
  generalize classAt? className doc = v? at found ⊢
  generalize index.get? className = c? at found ⊢
  cases found with
  | none => exact ⟨_, rfl, Nat.one_ne_zero, rfl⟩
  | some h =>
      obtain ⟨e, hv, he⟩ := h
      obtain ⟨o, ho, lists⟩ := Answer.ofAnswer_of_finds (elementOf_finds hv he member param) task
      exact ⟨_, congrArg _ ho, lists⟩

end

/-! ### An annotated parameter -/

/-- A list that holds an annotation, whose values are written before its name. -/
def nestedInList : Value :=
  .list [.ofFields [("values", .ofFields [("blank", .bool false)]), ("name", .text "Form")]]

/-- A parameter with an annotation that has the list as a value. -/
def checkedParameter : Value :=
  .ofFields [("name", .text "to"), ("type", .text "app.Pet"), ("annotations", .list [.ofFields
    [("name", .text "Checks"), ("values", .ofFields [("all", nestedInList)])]])]

/-- A class with a method that has the parameter. -/
def renamedPet : Value :=
  .ofFields [("name", .text "app.Pet"), ("methods", .list [.ofFields
    [("name", .text "rename"), ("parameters", .list [checkedParameter])]])]

/-- The class is written twice, the first time without the method. -/
def writtenTwice : Value :=
  .ofFields [("classes", .list [.ofFields [("name", .text "app.Pet")], renamedPet])]

def renamedPetEntry : ClassEntry :=
  ⟨"app.Pet", none, [], [], [], [⟨"rename", none,
    [⟨"to", "app.Pet", [⟨"Checks", [("all", nestedInList)]⟩]⟩], []⟩]⟩

theorem check_writtenTwice :
    Snapshot.check writtenTwice =
      .valid ⟨[⟨"app.Pet", none, [], [], [], []⟩, renamedPetEntry]⟩ := by
  have first : ClassEntry.check (.ofFields [("name", .text "app.Pet")]) =
      .valid ⟨"app.Pet", none, [], [], [], []⟩ := by with_unfolding_all rfl
  have second : ClassEntry.check renamedPet = .valid renamedPetEntry := by with_unfolding_all rfl
  exact Snapshot.check_of_classes (.cons first (.cons second .nil))

theorem exists_load_writtenTwice (path : String) :
    ∃ index, (Snapshot.load path (.document writtenTwice)).result = .ok index := by
  have hA : TypeRef.ofText "app.Pet" = .ok (.ofClass "app.Pet") := by
    rw [TypeRef.ofText, TypeRef.read_eq]
    rfl
  have hv : recordValue nestedInList =
      .ok (.tuple [.nested "Form" [("blank", .bool false)] none none]) := by
    with_unfolding_all rfl
  have whole : Stored.orEmpty writtenTwice = writtenTwice := rfl
  rw [Snapshot.load, Snapshot.ofResult, Snapshot.ofDocument, whole, check_writtenTwice]
  rcases Snapshot.index_cases path _ with ⟨-, h⟩ | ⟨f, i, hf, -⟩
  · exact h
  have parts {s : Snapshot} (hs : s.parts = [.value nestedInList, .type "app.Pet"]) :
    firstFault s.parts = none := by simp [hs, firstFault, Part.fault?, hv, readType_eq_ok_iff.2 hA]
  cases (parts rfl).symm.trans hf

/-- Surroundings with nothing but a document. -/
def besideDocument (path : String) (doc : Value) : Surroundings :=
  ⟨⟨"/root", []⟩, [], "/root/config.yaml", "/typemeta.yaml",
    fun p => if p = path then .document doc else .absent, .ofPaths [] [], ""⟩

/-- A process without any modules. -/
def bareProcess : Live.Process Unit Unit Unit :=
  ⟨fun _ _ => none, fun s _ => (.missing, s), fun _ _ => none, fun _ _ _ => .absent,
    fun _ => .error "object", fun _ => "", fun _ _ _ => .refused⟩

theorem run_prints_annotations_parameter :
    let words :=
      ["annotations", "a.yaml", "app.Pet", "--member", "rename", "--param", "0", "--json"]
    let w := besideDocument "a.yaml" writtenTwice
    Asks w words .standard (.annotations "a.yaml" "app.Pet" (some "rename") (some 0) true) ∧
    w.stored (Path.normal "a.yaml") = .document writtenTwice ∧ writtenTwice.IsJson ∧
    (∃ index, (Snapshot.load (Path.normal "a.yaml") (.document writtenTwice)).result = .ok index) ∧
    ∃ o, run bareProcess () w words = .ok o ∧ o.Lists (itemsAt "annotations" checkedParameter) := by
  intro words w
  have asked : Asks w words .standard
      (.annotations "a.yaml" "app.Pet" (some "rename") (some 0) true) :=
    ⟨⟨false, none, .annotations, words.tail⟩, .standard, _, rfl, by with_unfolding_all rfl, rfl,
      rfl, rfl⟩
  have file : w.stored (Path.normal "a.yaml") = .document writtenTwice := rfl
  have json : writtenTwice.IsJson := by
    simp [writtenTwice, renamedPet, checkedParameter, nestedInList]
  obtain ⟨index, loads⟩ := exists_load_writtenTwice (Path.normal "a.yaml")
  have place : ((classAt? "app.Pet" writtenTwice).bind fun c =>
      elementAt? c (some "rename") (some 0)) = some checkedParameter := by
    simp [classAt?, itemsAt, writtenTwice, renamedPet, Value.ofFields, Value.at?_text, isNamed,
      elementAt?, firstAt?, parameterAt?, Value.field?_cons_of_ne]
  obtain ⟨⟨o, ho, lists⟩, -⟩ := run_prints_annotations bareProcess () asked file json loads
  rw [place] at lists
  exact ⟨asked, file, json, ⟨index, loads⟩, o, ho, lists⟩

end TypeCatalog.Command
