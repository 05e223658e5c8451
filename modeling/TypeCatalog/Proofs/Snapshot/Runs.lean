import TypeCatalog.Proofs.Snapshot.Parts
import TypeCatalog.Proofs.Subtype.Tiers

/-! # Snapshots — runs of entries

A run of entries goes from each to the one that its superclass text names.  The texts are written by
hand and in many ways; a superclass is kept as the reference it stands for and brought down to its
name when the index is asked, a further base is brought down when the index is built, and whoever
asks a question writes texts of his own.  All of them come down to one name.

So a question whose texts are those of a run is answered by the index alone: a run from one entry to
another is a chain of links in the index, and the walk finds whatever the chain comes to, however
often the run repeats itself.

* `link_of_leads`: an entry that leads to another is linked to it in the index.
* `above_of_run`: by induction on the run, what its last entry names as superclass is above its
  first.
* `test_of_run`: so a test says yes, without live classes.
-/

namespace TypeCatalog

open TypeCatalog.Subtype
open Live (ClassSource)
open Snapshot (exists_info)

/-- The text stands for a reference with the canonical name. -/
def Names (text name : String) : Prop :=
  ∃ r, TypeRef.ofText text = .ok r ∧ r.canonicalName = .ok name

/-- The name stands for a class or a primitive with that name. -/
def IsCanonical (name : String) : Prop :=
  ∃ r, TypeRef.ofText name = .ok r ∧ (r.kind = .classType ∨ r.kind = .primitive) ∧ r.name = name

namespace ClassEntry

/-- What the entry describes is what the index has under its name. -/
def IsIn (e : ClassEntry) (index : ClassIndex) : Prop :=
  ∀ info, e.info = .ok info → index.get? e.name = some info

/-- The superclass of `e` is named `f`. -/
def Leads (e f : ClassEntry) : Prop := ∃ text, e.superclass = some text ∧ Names text f.name

end ClassEntry

/-! ### Entries and the index -/

/-- An empty text stands for nothing. -/
theorem Names.ne_empty {text name : String} (h : Names text name) : text ≠ "" := by
  rintro rfl
  obtain ⟨r, hr, -⟩ := h
  rw [TypeRef.ofText, TypeRef.read_eq] at hr
  cases hr

/-- The superclass that an entry names is the one its class has. -/
theorem superclass_of_info {e : ClassEntry} {info : ClassInfo} (h : e.info = .ok info)
    {text : String} (he : e.superclass = some text) {r : TypeRef}
    (hr : TypeRef.ofText text = .ok r) (hne : text ≠ "") : info.superclass = some r := by
  obtain ⟨-, hs, -⟩ := ClassEntry.of_info h
  rw [he, readSuperclass, if_neg hne, readType_eq_ok_iff.2 hr] at hs
  exact (Except.ok.inj hs).symm

/-- The superclass of a class that an entry describes has been read from a text. -/
theorem exists_text_of_superclass {e : ClassEntry} {info : ClassInfo} (h : e.info = .ok info)
    {r : TypeRef} (hr : info.superclass = some r) : ∃ text, TypeRef.ofText text = .ok r := by
  obtain ⟨-, hs, -⟩ := ClassEntry.of_info h
  rw [hr] at hs
  cases he : e.superclass with
  | none =>
      rw [he] at hs
      cases hs
  | some text =>
      rw [he, readSuperclass] at hs
      split at hs
      · cases hs
      · obtain ⟨r', ht, hr'⟩ := map_eq_ok_iff.1 hs
        obtain rfl := Option.some.inj hr'
        exact ⟨text, readType_eq_ok_iff.1 ht⟩

/-- What an entry that describes a class names as its superclass has a name. -/
theorem exists_names_of_info {e : ClassEntry} {info : ClassInfo} (h : e.info = .ok info)
    {text : String} (he : e.superclass = some text) (hne : text ≠ "") :
    ∃ name, Names text name := by
  obtain ⟨-, hs, -⟩ := ClassEntry.of_info h
  rw [he, readSuperclass, if_neg hne, map_eq_ok_iff] at hs
  obtain ⟨r, hr, -⟩ := hs
  have hr := readType_eq_ok_iff.1 hr
  obtain ⟨name, hn⟩ := exists_canonicalName_of_ofText hr
  exact ⟨name, r, hr, hn⟩

/-- The further bases that an entry names are those its class has. -/
theorem exists_interface_of_info {e : ClassEntry} {info : ClassInfo} (h : e.info = .ok info)
    {text : String} (he : text ∈ e.interfaces) : ∃ name ∈ info.interfaces, Names text name := by
  obtain ⟨-, -, hi⟩ := ClassEntry.of_info h
  obtain ⟨name, hm, hn⟩ := exists_of_forall₂ (forEach_eq_ok_iff.1 hi) he
  exact ⟨name, hm, readName_eq_ok_iff.1 hn⟩

section

variable {source : String} {s : Snapshot} {index : ClassIndex}

/-- The last entry with its name is in the index. -/
theorem isIn_of_last (built : s.index source = .ok index) (front back : List ClassEntry)
    {e : ClassEntry} (hs : s.classes = front ++ e :: back) (last : ∀ f ∈ back, f.name ≠ e.name) :
    e.IsIn index := by
  intro info hi
  obtain ⟨classes, hc, rfl⟩ := Snapshot.index_eq_ok_iff.1 built
  have hd := List.forall₂_drop front.length hc
  rw [hs, List.drop_left, List.forall₂_cons_left_iff] at hd
  obtain ⟨c, after, hec, hback, hd⟩ := hd
  obtain rfl := Except.ok.inj (hi.symm.trans hec)
  -- none of the classes after it has its name
  have hafter : after.reverse.find? (fun c => c.name == e.name) = none := by
    simp only [List.find?_eq_none, List.mem_reverse, beq_iff_eq]
    intro c hc
    obtain ⟨f, hf, hfc⟩ := exists_of_forall₂ hback.flip hc
    rw [(ClassEntry.of_info hfc).1]
    exact last f hf
  have hname : (info.name == e.name) = true := by simp [(ClassEntry.of_info hi).1]
  rw [ClassIndex.get?_ofClasses, ← List.take_append_drop front.length classes, hd,
    List.reverse_append, List.reverse_cons, List.append_assoc, List.find?_append, hafter]
  simp [hname]

/-! ### Runs -/

/-- An entry that leads to another is linked to it in the index. -/
theorem link_of_leads (built : s.index source = .ok index) {e : ClassEntry} (he : e ∈ s.classes)
    (hi : e.IsIn index) {text name : String} (hs : e.superclass = some text)
    (hn : Names text name) : Link index e.name name := by
  obtain ⟨info, h⟩ := exists_info built he
  have hne := hn.ne_empty
  obtain ⟨r, hr, hname⟩ := hn
  exact ⟨info, r, hi info h, superclass_of_info h hs hr hne, hname⟩

/-- **A run.**  What the last entry of a run names as superclass is above its first. -/
theorem above_of_run (built : s.index source = .ok index) {first : ClassEntry}
    {rest : List ClassEntry} (indexed : ∀ e ∈ first :: rest, e ∈ s.classes ∧ e.IsIn index)
    (run : (first :: rest).IsChain ClassEntry.Leads) {text name : String}
    (hs : ((first :: rest).getLast (List.cons_ne_nil _ _)).superclass = some text)
    (hn : Names text name) : Above index first.name name := by
  induction rest generalizing first with
  | nil =>
      obtain ⟨hm, hi⟩ := indexed first List.mem_cons_self
      exact .single (link_of_leads built hm hi hs hn)
  | cons second rest ih =>
      obtain ⟨hm, hi⟩ := indexed first List.mem_cons_self
      obtain ⟨⟨text', hs', hn'⟩, run⟩ := List.isChain_cons_cons.1 run
      have hl : Link index first.name second.name := link_of_leads built hm hi hs' hn'
      exact .head hl (ih (fun e he => indexed e (List.mem_cons_of_mem _ he)) run hs)

/-- What the index matches is settled. -/
theorem settles_of_matches {a target : String} {info : ClassInfo} (hi : index.get? a = some info)
    (hn : info.name = a) (h : Matches index a info target) (reflexive : Bool) :
    Settles reflexive index a target true := by
  by_cases same : SameName reflexive a target
  · exact .same same
  · have tells := walk_tells hi hn target
    have found : (walk index info target).ending.verdict? = .ok .holds := by
      cases he : (walk index info target).ending with
      | found => rfl
      | top | cycle | outside | malformed =>
          rw [he] at tells
          exact absurd h tells.1
    exact .holds same hi found

/-- A name that stands for itself names what it stands for. -/
theorem IsCanonical.names {name : String} (h : IsCanonical name) : Names name name := by
  obtain ⟨⟨kind, n, component, bound, annotations⟩, hr, hk, rfl⟩ := h
  refine ⟨_, hr, ?_⟩
  rcases hk with rfl | rfl
  · rfl
  · rfl

/-- **Questions about a run.**  Let a snapshot have an index, and let a run go through entries that
are in the index, from an entry whose name stands for itself.  A test whether the first entry is
below one of its further bases, or below what the last entry names as its superclass, says yes,
whatever the options and the live classes, which are left alone. -/
theorem test_of_run (built : s.index source = .ok index) {first : ClassEntry}
    {rest : List ClassEntry} (indexed : ∀ e ∈ first :: rest, e ∈ s.classes ∧ e.IsIn index)
    (run : (first :: rest).IsChain ClassEntry.Leads) (canonical : IsCanonical first.name)
    {text : String} (named : text ∈ first.interfaces ∨
      text ≠ "" ∧ ((first :: rest).getLast (List.cons_ne_nil _ _)).superclass = some text) :
    ∃ subject target, TypeRef.ofText first.name = .ok subject ∧ TypeRef.ofText text = .ok target ∧
      ∀ (options : Options) {σ Class : Type} (live : ClassSource σ Class) (state : σ),
        let result := test options live index subject target state
        result.outcome = .answer true ∧ result.queries = [] ∧ result.state = state ∧
          (test options live.watched index subject target (state, [])).state = (state, []) := by
  obtain ⟨hmem, hin⟩ := indexed first List.mem_cons_self
  obtain ⟨info, hinfo⟩ := exists_info built hmem
  have matched : ∃ name, Names text name ∧ Matches index first.name info name := by
    rcases named with hm | ⟨hne, hs⟩
    · obtain ⟨name, hi, hn⟩ := exists_interface_of_info hinfo hm
      exact ⟨name, hn, .inl hi⟩
    · have hlast := (indexed _ (List.getLast_mem (List.cons_ne_nil first rest))).1
      obtain ⟨lastInfo, hl⟩ := exists_info built hlast
      obtain ⟨name, hn⟩ := exists_names_of_info hl hs hne
      exact ⟨name, hn, .inr (above_of_run built indexed run hs hn)⟩
  obtain ⟨name, ⟨target, htarget, ht⟩, hm⟩ := matched
  obtain ⟨subject, hsubject, hs⟩ := canonical.names
  refine ⟨subject, target, hsubject, htarget, fun options σ Class live state => ?_⟩
  have settled := settles_of_matches (hin info hinfo) (ClassEntry.of_info hinfo).1 hm
    options.reflexive
  dsimp only
  rw [test_of_settles live state hs ht settled, test_of_settles live.watched _ hs ht settled]
  exact ⟨rfl, rfl, rfl, rfl⟩

end

/-- Two classes each of which names the other as its superclass, one of them by a type variable. -/
def mutualClasses : Snapshot :=
  ⟨[⟨"app.A", some "~T: app.B", [], [], [], []⟩, ⟨"app.B", some "app.A", [], [], [], []⟩]⟩

theorem test_of_run_mutualClasses :
    let a : ClassEntry := ⟨"app.A", some "~T: app.B", [], [], [], []⟩
    let b : ClassEntry := ⟨"app.B", some "app.A", [], [], [], []⟩
    ∃ index, mutualClasses.index "index.yaml" = .ok index ∧
    (∀ e ∈ [a, b, a], e ∈ mutualClasses.classes ∧ e.IsIn index) ∧
    [a, b, a].IsChain ClassEntry.Leads ∧ IsCanonical "app.A" ∧
    ∃ subject target, TypeRef.ofText "app.A" = .ok subject ∧
      TypeRef.ofText "~T: app.B" = .ok target ∧
      (test .standard standardSource index subject target []).outcome = .answer true := by
  intro a b
  have hA : TypeRef.ofText "app.A" = .ok (.ofClass "app.A") := by
    rw [TypeRef.ofText, TypeRef.read_eq]
    rfl
  have hB : TypeRef.ofText "~T: app.B" = .ok (.typeVariable "T" (some (.ofClass "app.B"))) := by
    have hp : TypeRef.production "~T: app.B".toList
        = .ok (.around (.bounds "T") " app.B".toList) := rfl
    rw [TypeRef.ofText, TypeRef.read_of_around hp, TypeRef.read_eq]
    rfl
  have sound : firstFault mutualClasses.parts = none := by
    have hp : mutualClasses.parts = [.type "~T: app.B", .type "app.A"] := rfl
    simp [hp, firstFault, Part.fault?, readType_eq_ok_iff.2 hA, readType_eq_ok_iff.2 hB]
  have built : ∃ index, mutualClasses.index "index.yaml" = .ok index := by
    rcases Snapshot.index_cases "index.yaml" mutualClasses with ⟨-, h⟩ | ⟨f, i, hf, -⟩
    · exact h
    · cases sound.symm.trans hf
  obtain ⟨index, built⟩ := built
  have inA : a.IsIn index := isIn_of_last built [] [b] rfl (by simp [a, b])
  have inB : b.IsIn index := isIn_of_last built [a] [] rfl (by simp)
  have indexed : ∀ e ∈ [a, b, a], e ∈ mutualClasses.classes ∧ e.IsIn index := by
    simp [inA, inB, mutualClasses, a, b]
  have run : [a, b, a].IsChain ClassEntry.Leads := by
    have leadsB : ClassEntry.Leads a b := ⟨_, rfl, _, hB, rfl⟩
    have leadsA : ClassEntry.Leads b a := ⟨_, rfl, _, hA, rfl⟩
    simp [leadsA, leadsB]
  have canonical : IsCanonical "app.A" := ⟨_, hA, .inl rfl, rfl⟩
  have named : "~T: app.B" ∈ a.interfaces ∨
      "~T: app.B" ≠ "" ∧ a.superclass = some "~T: app.B" := .inr ⟨by decide, rfl⟩
  obtain ⟨subject, target, hs, ht, asked⟩ := test_of_run built indexed run canonical named
  exact ⟨index, built, indexed, run, canonical, subject, target, hs, ht,
    (asked .standard standardSource []).1⟩

end TypeCatalog
