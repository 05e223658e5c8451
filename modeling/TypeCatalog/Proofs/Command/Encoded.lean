import TypeCatalog.Proofs.Command.Annotations
import TypeCatalog.Proofs.Snapshot.Encoded

/-! # The command line — annotations that have no JSON form

A run that is asked for the annotations of a class as JSON writes all of them or nothing.  Where
recording one of them has left a value as it is that has no form in JSON, such as a date, a set or a
mapping that holds itself, the run ends without an answer and without a message, although the
snapshot has been loaded.

* `Outcome.PrintsArray`: the output is one line, an array in JSON.
* `run_prints_array`: a run prints an array of all annotations just if JSON has a form for all that
  was left as it is in their values.
-/

namespace TypeCatalog.Command

open Value (HasJson)

/-! ### One line -/

/-- The text is that of the annotation that is recorded for an entry. -/
def EncodedAs (e : AnnotationEntry) (text : String) : Prop :=
  ∃ a, RecordedAs e a ∧ Json.writePlain? a.written = some text

/-- The run has ended well, and its output is one line: an array in JSON with one element for each
of the annotations. -/
def Outcome.PrintsArray (o : Outcome) (entries : List AnnotationEntry) : Prop :=
  o.status = 0 ∧ o.errors = [] ∧ ∃ elements, List.Forall₂ EncodedAs entries elements ∧
    o.output = ["[" ++ ", ".intercalate elements ++ "]"]

/-- JSON has a form for all that recording the annotations comes to and leaves as it is. -/
def HaveJson (entries : List AnnotationEntry) : Prop :=
  ∀ e ∈ entries, ∀ p ∈ e.values, LeavesJson p.2

theorem writePlain?_list_eq_some_iff {xs : List Value} {line : String} :
    Json.writePlain? (.list xs) = some line ↔
      ∃ ts, List.Forall₂ (fun x t => Json.writePlain? x = some t) xs ts ∧
        "[" ++ ", ".intercalate ts ++ "]" = line := by
  rw [Json.writePlain?, Json.write?, Option.map_eq_some_iff]
  simp only [Value.writeItems?_eq_some_iff]
  rfl

section

variable {entries : List AnnotationEntry} {as : List AnnotationRecord}
  (recorded : List.Forall₂ RecordedAs entries as)
  (raw : ∀ e ∈ entries, ∀ p ∈ e.values, p.2.IsRaw)

include recorded raw

/-- An array of recorded annotations has a form just if the values in their entries have one. -/
theorem hasJson_array_iff :
    HasJson (.list (as.map AnnotationRecord.written)) ↔ HaveJson entries := by
  have same : List.Forall₂
      (fun e a => (∀ p ∈ e.values, LeavesJson p.2) ↔ a.written.HasJson) entries as :=
    forall₂_of_forall_mem (recorded.imp fun e a h raw => (hasJson_written_iff h raw).symm) raw
  rw [Value.hasJson_list_iff, List.forall_mem_map, ← forall_mem_iff_of_forall₂ same]
  rfl

/-- What is answered with the annotations of an entry: an array of them if there is one. -/
theorem Answer.ofAnswer_ofAnnotations (task : Task) :
    (HaveJson entries ∧ ∃ o, Outcome.ofAnswer task (Answer.ofAnnotations true as) = .ok o ∧
      o.PrintsArray entries) ∨
    (¬ HaveJson entries ∧
      Outcome.ofAnswer task (Answer.ofAnnotations true as) = .error .unwritable) := by
  have array := (hasJson_array_iff recorded raw).symm.trans Value.hasJson_iff
  have answer :
      Answer.ofAnnotations true as = .ofJson true (.list (as.map AnnotationRecord.written)) := rfl
  rw [answer, Answer.ofJson, array]
  cases written : Json.writePlain? (.list (as.map AnnotationRecord.written)) with
  | none => exact .inr ⟨by simp, rfl⟩
  | some line =>
      obtain ⟨elements, each, rfl⟩ := writePlain?_list_eq_some_iff.1 written
      refine .inl ⟨⟨_, rfl⟩, _, rfl, rfl, rfl, elements, ?_, rfl⟩
      exact forall₂_comp recorded (List.forall₂_map_left_iff.1 each)

end

/-! ### Runs -/

theorem Answer.annotations_of_found {stored : String → Stored} {s : Settings}
    {path className : String} {doc : Value} {index : ClassIndex} {c : ClassInfo}
    (file : stored (Path.normal path) = .document doc)
    (loads : (Snapshot.load (Path.normal path) (.document doc)).result = .ok index)
    (found : index.get? className = some c) :
    (annotations stored s path className none none true).answer
      = .ofAnnotations true c.annotations := by
  refine (annotations_of_load file loads true).trans ?_
  rw [found]
  rfl

section

variable {σ Obj Class : Type} (p : Live.Process σ Obj Class) (start : σ) {w : Surroundings}
  {words : List String} {s : Settings}

/-- **A run prints all annotations of a class**, if JSON has a form for their values.  Let the words
of a run ask for the annotations of a class as JSON, let the snapshot they name be any text, and let
it have an index with the class.  If there is a form for all that recording leaves as it is in the
values of the annotations that the last entry of the class writes, the run ends well, and prints an
array with one element for each of them.  If there is none for something, the run ends without an
answer and without a message of its own: there is none for bytes, dates, moments and sets, for
mappings with such keys, for whole numbers that are too long, and for what has no end, as a mapping
that holds itself. -/
theorem run_prints_array {path className reason text : String} {index : ClassIndex} {c : ClassInfo}
    (asked : Asks w words s (.annotations path className none none true))
    (file : w.stored (Path.normal path) = .ofText reason text)
    (loads : (Snapshot.load (Path.normal path) (.ofText reason text)).result = .ok index)
    (found : index.get? className = some c) :
    ∃ doc snapshot e, Document.read text = .ok doc ∧
      Snapshot.check (Stored.orEmpty doc) = .valid snapshot ∧ snapshot.last? className = some e ∧
      ((∃ o, run p start w words = .ok o ∧ o.PrintsArray e.annotations) ↔
        HaveJson e.annotations) ∧
      (run p start w words = .error .unwritable ↔ ¬ HaveJson e.annotations) := by
  obtain ⟨doc, snapshot, stored, valid, built⟩ := Snapshot.of_load loads
  have read : Document.read text = .ok doc := Stored.ofText_eq_document_iff.1 stored
  rw [stored] at file loads
  obtain ⟨e, mem, last, info⟩ := Snapshot.exists_last? built found
  refine ⟨doc, snapshot, e, read, valid, last, ?_⟩
  obtain ⟨own, -⟩ := ClassEntry.members_of_info info
  have recorded := recordedAs_of_describes (recordedFor_eq_ok_iff.1 own)
  have raw : ∀ a ∈ e.annotations, ∀ p ∈ a.values, p.2.IsRaw := fun a ha =>
    Snapshot.isRaw_of_check (Document.isRaw_read read) valid mem ha
  obtain ⟨task, written, ended⟩ := run_of_asks p start asked
  have answer : (Answer.ofRequest p start w.stored s
      (.annotations path className none none true)).answer = _ :=
    Answer.annotations_of_found file loads found
  rw [ended, answer]
  rcases Answer.ofAnswer_ofAnnotations recorded raw task with ⟨json, o, ho, prints⟩ | ⟨none, ho⟩
  · rw [ho]
    exact ⟨iff_of_true ⟨_, rfl, prints⟩ json, iff_of_false nofun (not_not.2 json)⟩
  · rw [ho]
    exact ⟨iff_of_false nofun none, iff_of_true rfl none⟩

end

/-! ### A date -/

/-- A snapshot with two classes.  The annotation of the first has a date as a value. -/
def datedText : String :=
  "\x7bclasses: [\x7bname: A, annotations: [\x7bname: V, values: \x7bat: 2020-01-02\x7d\x7d]\x7d, "
    ++ "\x7bname: B, annotations: [\x7bname: V\x7d]\x7d]\x7d"

open Document (Token) in
def datedTokens : List Token :=
  [.openBrace, .key, .scalar true "classes", .value, .openBracket,
    .openBrace, .key, .scalar true "name", .value, .scalar true "A", .comma,
    .key, .scalar true "annotations", .value, .openBracket,
    .openBrace, .key, .scalar true "name", .value, .scalar true "V", .comma,
    .key, .scalar true "values", .value,
    .openBrace, .key, .scalar true "at", .value, .scalar true "2020-01-02", .closeBrace,
    .closeBrace, .closeBracket, .closeBrace, .comma,
    .openBrace, .key, .scalar true "name", .value, .scalar true "B", .comma,
    .key, .scalar true "annotations", .value, .openBracket,
    .openBrace, .key, .scalar true "name", .value, .scalar true "V", .closeBrace,
    .closeBracket, .closeBrace, .closeBracket, .closeBrace, .finish]

open Document (Graph) in
def datedGraph : Graph where
  nodes := #[
    .mapping .dict [(1, 2)],
    .scalar .text "classes", .sequence .list [3, 15],
    .mapping .dict [(4, 5), (6, 7)],
    .scalar .text "name", .scalar .text "A",
    .scalar .text "annotations", .sequence .list [8],
    .mapping .dict [(9, 10), (11, 12)],
    .scalar .text "name", .scalar .text "V",
    .scalar .text "values", .mapping .dict [(13, 14)],
    .scalar .text "at", .scalar .moment "2020-01-02",
    .mapping .dict [(16, 17), (18, 19)],
    .scalar .text "name", .scalar .text "B",
    .scalar .text "annotations", .sequence .list [20],
    .mapping .dict [(21, 22)],
    .scalar .text "name", .scalar .text "V"]
  root := 0

/-- What the text stands for. -/
def dated : Value :=
  .ofFields [("classes", .list [
    .ofFields [("name", .text "A"), ("annotations", .list [.ofFields
      [("name", .text "V"), ("values", .ofFields [("at", .date ⟨2020, 1, 2⟩)])]])],
    .ofFields [("name", .text "B"), ("annotations", .list [.ofFields [("name", .text "V")]])]])]

theorem tokens_datedText : Document.tokens datedText.toList = datedTokens := by rfl

theorem ofTokens_datedTokens : Document.Graph.ofTokens datedTokens = .ok (some datedGraph) := by
  decide +kernel

theorem content_datedGraph : datedGraph.content = .ok dated := by with_unfolding_all rfl

theorem read_datedText : Document.read datedText = .ok dated := by
  have lines : Document.withLineFeeds datedText.toList = datedText.toList := rfl
  have allowed : datedText.toList.all Document.isAllowed = true := rfl
  rw [Document.read, lines, tokens_datedText, ofTokens_datedTokens, allowed]
  exact content_datedGraph

/-- The entry of a class with one annotation, which has the given values. -/
def datedEntry (name : String) (values : Entries String Value) : ClassEntry :=
  ⟨name, none, [], [⟨"V", values⟩], [], []⟩

def datedInfo (name : String) (values : Entries String Value) : ClassInfo :=
  ⟨name, none, [], [⟨"V", values, some .classType, none⟩], [], []⟩

/-- The values of the first class: a date. -/
def datedValues : Entries String Value := [("at", .date ⟨2020, 1, 2⟩)]

def datedIndex : ClassIndex := .ofClasses [datedInfo "A" datedValues, datedInfo "B" []]

theorem check_dated :
    Snapshot.check (Stored.orEmpty dated) =
      .valid ⟨[datedEntry "A" datedValues, datedEntry "B" []]⟩ := by
  with_unfolding_all rfl

theorem load_datedText (path reason : String) :
    (Snapshot.load path (.ofText reason datedText)).result = .ok datedIndex := by
  have info (name : String) : ClassEntry.info (datedEntry name datedValues) =
      .ok (datedInfo name datedValues) := rfl
  have info' (name : String) : ClassEntry.info (datedEntry name []) = .ok (datedInfo name []) := rfl
  rw [Stored.ofText_eq_document_iff.2 read_datedText]
  refine Snapshot.ofDocument_eq_ok_iff.2 ⟨_, check_dated, Snapshot.index_eq_ok_iff.2 ⟨_, ?_, rfl⟩⟩
  exact .cons (info _) (.cons (info' _) .nil)

/-- Surroundings with the snapshot, and the words that ask for the annotations of a class in it. -/
def besideDated : Surroundings := besideDocument "a.yaml" dated

def jsonWords (className : String) : List String := ["annotations", "a.yaml", className, "--json"]

/-- The settings beside a document are the standard ones. -/
theorem asks_of_request {task : Task} {words : List String} {q : Request} (rest : List String)
    (doc : Value)
    (program : ProgramRequest.ofWords (besideDocument "a.yaml" doc).stored words =
      .ok ⟨false, none, task, rest⟩)
    (request : Request.ofWords (besideDocument "a.yaml" doc).stored task rest = .ok q) :
    Asks (besideDocument "a.yaml" doc) words .standard q := by
  have settings : Settings.load (besideDocument "a.yaml" doc).homes
      (sourcesOf (besideDocument "a.yaml" doc) none) = .ok .standard := by
    with_unfolding_all rfl
  exact ⟨_, .standard, _, program, settings, rfl, rfl, request⟩

/-- A run that asks for the annotations of the class finds it in the snapshot. -/
structure AsksDated (className : String) (c : ClassInfo) : Prop where
  asked : Asks besideDated (jsonWords className) .standard
    (.annotations "a.yaml" className none none true)
  file : besideDated.stored (Path.normal "a.yaml") = .ofText "" datedText
  loads : (Snapshot.load (Path.normal "a.yaml") (.ofText "" datedText)).result = .ok datedIndex
  found : datedIndex.get? className = some c

theorem asksDated_first : AsksDated "A" (datedInfo "A" datedValues) where
  asked := asks_of_request (jsonWords "A").tail dated rfl rfl
  file := (Stored.ofText_eq_document_iff.2 read_datedText).symm
  loads := load_datedText _ _
  found := rfl

theorem asksDated_second : AsksDated "B" (datedInfo "B" []) where
  asked := asks_of_request (jsonWords "B").tail dated rfl rfl
  file := (Stored.ofText_eq_document_iff.2 read_datedText).symm
  loads := load_datedText _ _
  found := rfl

theorem run_prints_array_dated :
    AsksDated "B" (datedInfo "B" []) ∧
      ∃ o, run bareProcess () besideDated (jsonWords "B") = .ok o ∧ o.PrintsArray [⟨"V", []⟩] := by
  obtain ⟨asked, file, loads, found⟩ := asksDated_second
  obtain ⟨doc, snapshot, e, read, valid, last, prints, -⟩ :=
    run_prints_array bareProcess () asked file loads found
  obtain rfl := Except.ok.inj (read_datedText.symm.trans read)
  obtain rfl := Checked.valid.inj (check_dated.symm.trans valid)
  obtain rfl : datedEntry "B" [] = e := Option.some.inj last
  exact ⟨asksDated_second, prints.2 (List.forall_mem_singleton.2 (List.forall_mem_nil _))⟩

/-- A run can end without an answer where the annotations of a class in the index are asked for. -/
theorem not_run_prints_array :
    AsksDated "A" (datedInfo "A" datedValues) ∧
      run bareProcess () besideDated (jsonWords "A") = .error .unwritable ∧
      ¬ ∃ o, run bareProcess () besideDated (jsonWords "A") = .ok o := by
  obtain ⟨asked, file, loads, found⟩ := asksDated_first
  obtain ⟨task, written, ended⟩ := run_of_asks bareProcess () asked
  rw [Stored.ofText_eq_document_iff.2 read_datedText] at file loads
  have answer : (Answer.ofRequest bareProcess () besideDated.stored .standard
      (.annotations "a.yaml" "A" none none true)).answer = _ :=
    Answer.annotations_of_found file loads found
  have failed : run bareProcess () besideDated (jsonWords "A") = .error .unwritable := by
    rw [ended, answer]
    rfl
  exact ⟨asksDated_first, failed, by rw [failed]; exact nofun⟩

end TypeCatalog.Command
