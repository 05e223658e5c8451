import TypeCatalog.Proofs.Command.Annotations
import TypeCatalog.Proofs.Format.Compatible
import TypeCatalog.Proofs.Ordered

/-! # The command line — the listing of formats

Asked for the formats as JSON, a run writes the table of its settings as one line, sorted by name.
The table is a map: its entries stand in the order in which they came, and classification looks a
name up.  The listing is the same entries in another order; since no name stands twice, sorting by
name alone leaves nothing open, and what is listed for a name is what a look-up finds.

* `pairwise_sortedFormats`, `mem_sortedFormats_iff`: the listing is sorted, and has just the entries
  of the table.
* `writePlain?_formatsJson`: the line that is written for a listing.
* `run_lists_formats`: what a run prints agrees with classification.
-/

namespace TypeCatalog.Command

open Text (IsBefore)

/-! ### Sorting -/

namespace Answer

theorem mem_sortedFormats_iff {t : FormatTable} {e : String × Format} :
    e ∈ sortedFormats t ↔ e ∈ t.entries :=
  (List.mergeSort_perm _ _).mem_iff

theorem mem_keys_sortedFormats_iff {t : FormatTable} {name : String} :
    name ∈ Entries.keys (sortedFormats t) ↔ name ∈ t.keys :=
  ((List.mergeSort_perm _ _).map Prod.fst).mem_iff

/-- **The listing is sorted**, and no name is listed twice. -/
theorem pairwise_sortedFormats (t : FormatTable) :
    (sortedFormats t).Pairwise fun a b => IsBefore a.1 b.1 := by
  let le (a b : String × Format) : Bool := Text.precedes a.1 b.1
  have trans (a b c : String × Format) : le a b = true → le b c = true → le a c = true :=
    Text.precedes_trans
  have total (a b : String × Format) : (le a b || le b a) = true := Text.precedes_total a.1 b.1
  have sorted : (sortedFormats t).Pairwise fun a b => le a b = true :=
    List.pairwise_mergeSort trans total t.entries
  have nodup : (Entries.keys (sortedFormats t)).Nodup :=
    ((List.mergeSort_perm _ _).map Prod.fst).nodup_iff.2 t.nodup
  have different : (sortedFormats t).Pairwise fun a b => a.1 ≠ b.1 := List.pairwise_map.1 nodup
  exact (sorted.and different).imp fun h => .of_ne h.2 (Text.precedes_iff.1 h.1)

/-! ### Writing -/

/-- The text of a format; where there is none beside the type, that is written as nothing. -/
def formatText (f : Format) : String :=
  Value.mappingText [("type", Json.encode f.type.word),
    ("format", (f.format.inSchema.map Json.encode).getD "null")]

/-- The text of a listing. -/
def listingText (es : Entries String Format) : String :=
  Value.mappingText (es.map fun e => (e.1, formatText e.2))

theorem write?_formatFields (fallback : Value → Option String) (f : Format) :
    Json.write? fallback (.ofFields (formatFields f)) = some (formatText f) := by
  refine Value.write?_ofFields (.cons ⟨rfl, by rw [Json.write?]⟩ (.cons ⟨rfl, ?_⟩ .nil))
  cases f.format.inSchema <;> simp [Json.write?]

theorem writePlain?_formatsJson (es : Entries String Format) :
    Json.writePlain? (formatsJson es) = some (listingText es) := by
  refine Value.write?_ofFields (List.forall₂_map_left_iff.2 (List.forall₂_map_right_iff.2 ?_))
  exact List.forall₂_same.2 fun e _ => ⟨rfl, write?_formatFields _ e.2⟩

theorem ofAnswer_formats (s : Settings) (task : Task) :
    Outcome.ofAnswer task (formats s true).answer =
      .ok (.ofLines 0 [listingText (sortedFormats (Inspector.tableOf s.formats))]) := by
  change Outcome.ofAnswer task (ofJson true (formatsJson _)) = _
  rw [ofJson, writePlain?_formatsJson]
  rfl

end Answer

open Answer

variable {σ Obj Class : Type} (p : Live.Process σ Obj Class) (start : σ) {w : Surroundings}
  {words : List String} {s : Settings}

/-- **The listing of formats agrees with classification.**  Let the words of a run ask for the
formats as JSON.  The run ends well, and what it prints is one line, the text of a listing that is
sorted by name, so that each name stands in it once.  The names are those of the built-in table and
those that the settings override.  With the same settings, a class whose name is listed classifies
as the format that is listed for it, whatever index there is, and any other class as an object
without a format. -/
theorem run_lists_formats (h : Asks w words s (.formats true)) :
    ∃ o listed, run p start w words = .ok o ∧ o.status = 0 ∧ o.errors = [] ∧
      o.output = [listingText listed] ∧ listed.Pairwise (fun a b => IsBefore a.1 b.1) ∧
      (∀ name, name ∈ Entries.keys listed ↔
        name ∈ FormatTable.default.keys ∨ name ∈ Entries.keys s.formats.overrides) ∧
      (∀ index name f, (name, f) ∈ listed →
        (Inspector.ofSettings s index).classify (.ofClass name) = .ok f) ∧
      ∀ index name, name ∉ Entries.keys listed →
        (Inspector.ofSettings s index).classify (.ofClass name) = .ok ⟨.object, .none⟩ := by
  obtain ⟨task, written, ended⟩ := run_of_asks p start h
  change _ = (Outcome.ofAnswer task (formats s true).answer).map _ at ended
  rw [ofAnswer_formats] at ended
  have classified (index : ClassIndex) (name : String) :
      (Inspector.ofSettings s index).classify (.ofClass name) =
        .ok (((Inspector.tableOf s.formats).get? name).getD .object) :=
    FormatTable.classify_ofClass _ name
  refine ⟨_, _, ended, rfl, rfl, rfl, pairwise_sortedFormats _, fun name => ?_,
    fun index name f listed => ?_, fun index name unlisted => ?_⟩
  · rw [mem_keys_sortedFormats_iff]
    exact Entries.mem_keys_putAll
  · rw [classified, OrderedMap.get?_eq_some_iff.2 (mem_sortedFormats_iff.1 listed)]
    rfl
  · rw [mem_keys_sortedFormats_iff] at unlisted
    have none : (Inspector.tableOf s.formats).get? name = none :=
      (Entries.get?_eq_none_iff _ _).2 unlisted
    rw [classified, none]
    rfl

/-- Settings that override a built-in name and add another one, which comes last. -/
def overriding : Value :=
  .ofFields [("formats", .ofFields [("overrides", .ofFields [
    ("uuid.UUID", .ofFields [("type", .text "string")]),
    ("builtins.int", .ofFields [("type", .text "integer"), ("format", .text "int64")])])])]

/-- A run beside a file of settings. -/
theorem run_lists_formats_overriding :
    let words := ["formats", "--json"]
    let w := besideDocument "/typemeta.yaml" overriding
    let s : Settings := ⟨.standard, .standard,
      ⟨[("uuid.UUID", ⟨.string, .none⟩), ("builtins.int", ⟨.integer, .int64⟩)]⟩⟩
    Asks w words s (.formats true) ∧
    ∃ o listed, run bareProcess () w words = .ok o ∧ o.output = [listingText listed] ∧
      listed.Pairwise (fun a b => IsBefore a.1 b.1) ∧ "uuid.UUID" ∈ Entries.keys listed ∧
      (Inspector.ofSettings s .empty).classify (.ofClass "app.Pet") = .ok ⟨.object, .none⟩ := by
  intro words w s
  have asked : Asks w words s (.formats true) :=
    ⟨⟨false, none, .formats, words.tail⟩, s, _, rfl, by with_unfolding_all rfl, rfl, rfl, rfl⟩
  obtain ⟨o, listed, ended, -, -, output, sorted, names, -, unlisted⟩ :=
    run_lists_formats bareProcess () asked
  refine ⟨asked, o, listed, ended, output, sorted, (names _).2 (.inr ?_), unlisted _ _ fun h => ?_⟩
  · decide
  · obtain h | h := (names _).1 h
    · exact absurd h (by decide +kernel)
    · exact absurd h (by decide)

end TypeCatalog.Command
