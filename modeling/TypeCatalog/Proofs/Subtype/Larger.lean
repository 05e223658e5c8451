import TypeCatalog.Proofs.Snapshot.Parts
import TypeCatalog.Proofs.Subtype.Tiers

/-! # Subtypes — larger indexes

Where live classes may not be asked, a test says yes for one of two reasons: the names are the same
and every type is below itself, or the walk through the index finds the target.  A walk that finds
its target has come to indexed names only.  An index that knows these classes and more gives the
same answer to each of its look-ups, so the walk through it goes the same way and ends at the same
place.  What has been added is never met, be it a superclass for the target or a link that closes a
cycle.  That holds of the answer yes alone: a walk that leaves the index may go on in a larger one.

* `climb_of_found`: by induction on the climb, a climb that finds its target is the same in a larger
  index.
* `ask_of_answer_true`: so is an inquiry that is answered by yes.
* `isWithin_of_index`: adding entries with new names to a snapshot makes its index larger.
* `test_of_larger`: so no test that says yes says no when classes are added.
-/

namespace TypeCatalog

/-- Every class that the index knows is known to `larger`, with the same metadata. -/
def ClassIndex.IsWithin (index larger : ClassIndex) : Prop :=
  ∀ name info, index.get? name = some info → larger.get? name = some info

namespace Snapshot

/-- There is an entry with the name. -/
def hasName (s : Snapshot) (name : String) : Bool := s.classes.any fun e => e.name == name

/-- `larger` has further entries, wherever they stand, under names the snapshot does not have. -/
def IsWithin (s larger : Snapshot) : Prop :=
  larger.classes.filter (fun e => s.hasName e.name) = s.classes

/-- Under a name of the snapshot, a larger one has the same last entry. -/
theorem IsWithin.find?_eq {s larger : Snapshot} (h : s.IsWithin larger) {name : String}
    (hn : s.hasName name = true) :
    larger.classes.reverse.find? (fun e => e.name == name)
      = s.classes.reverse.find? fun e => e.name == name := by
  have same : (fun e : ClassEntry =>
      decide (s.hasName e.name = true ∧ (e.name == name) = true)) = fun e => e.name == name := by
    funext e
    by_cases he : e.name = name
    · simp [he, hn]
    · simp [he]
  rw [← h, ← List.filter_reverse, List.find?_filter, same]

/-- **Adding entries** with new names to a snapshot makes its index larger. -/
theorem isWithin_of_index {s larger : Snapshot} (h : s.IsWithin larger) {path path' : String}
    {index index' : ClassIndex} (built : s.index path = .ok index)
    (built' : larger.index path' = .ok index') : index.IsWithin index' := by
  intro name info hi
  have known := get?_of_index built name
  rw [hi] at known
  -- the entry that describes the class is the last one with its name in the larger snapshot, too
  cases last : s.classes.reverse.find? (fun e => e.name == name) with
  | none =>
      rw [last] at known
      cases known
  | some e =>
      rw [last] at known
      cases known with
      | some he =>
          have named : (e.name == name) = true :=
            List.find?_some (p := fun e : ClassEntry => e.name == name) last
          have hn : s.hasName name = true :=
            List.any_eq_true.2 ⟨e, List.mem_reverse.1 (List.mem_of_find?_eq_some last), named⟩
          exact get?_of_last built' ((h.find?_eq hn).trans last) he

end Snapshot

namespace Subtype

open Live (ClassSource)

/-! ### One step of a climb -/

section

variable (index : ClassIndex) {target n : String} {met : List String} {r : TypeRef}

/-- A climb that comes to its target has found it. -/
theorem climb_target (hr : r.canonicalName = .ok target) :
    climb index target met (some r) = ⟨[], .found⟩ := by
  rw [climb, hr]
  exact if_pos rfl

/-- A climb that comes to another name ends there if it has met the name or the name is not indexed,
and else goes on. -/
theorem climb_other (hr : r.canonicalName = .ok n) (hn : n ≠ target) :
    climb index target met (some r) =
      if met.contains n = true then ⟨[], .cycle n⟩
      else
        match index.get? n with
        | none      => ⟨[n], .outside⟩
        | some info =>
            let rest := climb index target (n :: met) info.superclass
            ⟨n :: rest.lookups, rest.ending⟩ := by
  rw [climb, hr]
  dsimp only
  rw [if_neg hn]
  split
  · rename_i hm
    rw [if_pos hm]
  · rename_i hm
    rw [if_neg (by simpa using hm)]
    split <;> rename_i hi <;> rw [hi]

variable {index}

/-- A climb goes on from an indexed name that it comes to for the first time. -/
theorem climb_step {info : ClassInfo} (hr : r.canonicalName = .ok n) (hn : n ≠ target)
    (hm : met.contains n = false) (hi : index.get? n = some info) :
    let rest := climb index target (n :: met) info.superclass
    climb index target met (some r) = ⟨n :: rest.lookups, rest.ending⟩ := by
  rw [climb_other index hr hn, if_neg (Bool.eq_false_iff.1 hm), hi]

end

/-! ### The same walk in a larger index -/

theorem Ending.eq_found_of_finding {e : Ending} {s t : String}
    (h : e.finding s t = .answer true) : e = .found := by
  cases e with
  | found => rfl
  | top | cycle | outside | malformed => cases h

section

variable {index larger : ClassIndex} (within : index.IsWithin larger)

include within

/-- **A climb that finds its target** is the same in a larger index. -/
theorem climb_of_found {target : String} {met : List String} {above : Option TypeRef}
    (found : (climb index target met above).ending = .found) :
    climb larger target met above = climb index target met above := by
  fun_induction climb index target met above with
  | case1 | case2 | case4 | case5 => cases found
  | case3 met r hr => exact climb_target larger hr
  | case6 met r n hr hn hm info hi rest ih =>
      -- the class that the climb goes on from is the same in both
      rw [climb_step hr hn hm (within n info hi), ih found]

theorem walk_of_found {info : ClassInfo} {target : String}
    (found : (walk index info target).ending = .found) :
    walk larger info target = walk index info target := by
  unfold walk at found ⊢
  split
  · rfl
  · rename_i h
    rw [if_neg h] at found
    exact climb_of_found within found

theorem askNames_of_answer_true {reflexive : Bool} {s t : String}
    (yes : (askNames reflexive index s t).finding = .answer true) :
    askNames reflexive larger s t = askNames reflexive index s t := by
  by_cases same : SameName reflexive s t
  · have hb : (reflexive && s == t) = true := by simpa [SameName] using same
    rw [askNames, askNames, if_pos hb, if_pos hb]
  · rw [askNames_of_apart same] at yes
    rw [askNames_of_apart same, askNames_of_apart same]
    cases hi : index.get? s with
    | none =>
        rw [hi] at yes
        cases yes
    | some info =>
        rw [hi] at yes
        have found := Ending.eq_found_of_finding yes
        rw [within s info hi]
        simp only [walk_of_found within found]

/-- **An inquiry that is answered by yes** is the same in a larger index. -/
theorem ask_of_answer_true {reflexive : Bool} {subject target : TypeRef}
    (yes : (ask reflexive index subject target).finding = .answer true) :
    ask reflexive larger subject target = ask reflexive index subject target := by
  unfold ask at yes ⊢
  cases hs : subject.canonicalName with
  | error fault => rfl
  | ok s =>
      cases ht : target.canonicalName with
      | error fault => rfl
      | ok t =>
          rw [hs, ht] at yes
          exact askNames_of_answer_true within yes

end

/-! ### Tests -/

section

variable {σ Class σ' Class' : Type}

/-- Where live classes may not be asked, a test says yes where the index does. -/
theorem test_eq_true_iff {options : Options} (closed : options.fallback = false)
    (source : ClassSource σ Class) (index : ClassIndex) (subject target : TypeRef) (state : σ) :
    (test options source index subject target state).outcome = .answer true ↔
      (ask options.reflexive index subject target).finding = .answer true := by
  cases hf : (ask options.reflexive index subject target).finding with
  | malformed fault => simp [test, hf, Test.settled]
  | answer b => simp [test, hf, Test.settled]
  | undecided s t gap => simp [test, hf, closed, Test.settled]

/-- **Larger indexes.**  Where live classes may not be asked, a test that says yes in an index says
yes in every larger one, whatever the sources of live classes; so does a test in the index of a
snapshot when classes are added to the snapshot under new names, even if they close a cycle. -/
theorem test_of_larger {options : Options} (closed : options.fallback = false)
    (source : ClassSource σ Class) (source' : ClassSource σ' Class') (state : σ) (state' : σ')
    (subject target : TypeRef) :
    (∀ {index larger : ClassIndex}, index.IsWithin larger →
      (test options source index subject target state).outcome = .answer true →
      (test options source' larger subject target state').outcome = .answer true) ∧
    ∀ {s larger : Snapshot} {path path' : String} {index index' : ClassIndex},
      s.IsWithin larger → s.index path = .ok index → larger.index path' = .ok index' →
      (test options source index subject target state).outcome = .answer true →
      (test options source' index' subject target state').outcome = .answer true := by
  have general : ∀ {index larger : ClassIndex}, index.IsWithin larger →
      (test options source index subject target state).outcome = .answer true →
      (test options source' larger subject target state').outcome = .answer true := by
    intro index larger within yes
    rw [test_eq_true_iff closed] at yes ⊢
    rw [ask_of_answer_true within yes]
    exact yes
  refine ⟨general, fun within built built' => ?_⟩
  exact general (Snapshot.isWithin_of_index within built built')

end

/-- An entry with a superclass and nothing else. -/
def below (name superclass : String) : ClassEntry := ⟨name, some superclass, [], [], [], []⟩

/-- Two links, the second to a class that is not indexed. -/
def openChain : Snapshot := ⟨[below "app.A" "app.B", below "app.B" "app.C"]⟩

/-- The same, with an entry in front that leads back to the start. -/
def closedChain : Snapshot := ⟨below "app.C" "app.A" :: openChain.classes⟩

/-- The class that such an entry describes. -/
def belowInfo (name superclass : String) : ClassInfo :=
  ⟨name, some (.ofClass superclass), [], [], [], []⟩

theorem info_below {superclass : String} (name : String)
    (h : TypeRef.ofText superclass = .ok (.ofClass superclass)) (hne : superclass ≠ "") :
    (below name superclass).info = .ok (belowInfo name superclass) := by
  have hs : readSuperclass (some superclass) = .ok (some (.ofClass superclass)) := by
    rw [readSuperclass, if_neg hne, readType_eq_ok_iff.2 h]
    rfl
  rw [ClassEntry.info, below, hs]
  rfl

theorem test_of_larger_closedChain :
    let options : Options := ⟨false, false⟩
    let subject := TypeRef.ofClass "app.A"
    let target := TypeRef.ofClass "app.C"
    options.fallback = false ∧ openChain.IsWithin closedChain ∧
    ∃ index index', openChain.index "index.yaml" = .ok index ∧
      closedChain.index "index.yaml" = .ok index' ∧ Cycles index' "app.A" ∧
      (test options standardSource index subject target []).outcome = .answer true ∧
      (test options standardSource index' subject target []).outcome = .answer true := by
  intro options subject target
  have hA : TypeRef.ofText "app.A" = .ok (.ofClass "app.A") := by
    rw [TypeRef.ofText, TypeRef.read_eq]
    rfl
  have hB : TypeRef.ofText "app.B" = .ok (.ofClass "app.B") := by
    rw [TypeRef.ofText, TypeRef.read_eq]
    rfl
  have hC : TypeRef.ofText "app.C" = .ok (.ofClass "app.C") := by
    rw [TypeRef.ofText, TypeRef.read_eq]
    rfl
  let index := ClassIndex.ofClasses [belowInfo "app.A" "app.B", belowInfo "app.B" "app.C"]
  let index' := ClassIndex.ofClasses
    [belowInfo "app.C" "app.A", belowInfo "app.A" "app.B", belowInfo "app.B" "app.C"]
  have infoA := info_below "app.A" hB (by decide)
  have infoB := info_below "app.B" hC (by decide)
  have infoC := info_below "app.C" hA (by decide)
  have built : openChain.index "index.yaml" = .ok index :=
    Snapshot.index_eq_ok_iff.2 ⟨_, .cons infoA (.cons infoB .nil), rfl⟩
  have built' : closedChain.index "index.yaml" = .ok index' :=
    Snapshot.index_eq_ok_iff.2 ⟨_, .cons infoC (.cons infoA (.cons infoB .nil)), rfl⟩
  have within : openChain.IsWithin closedChain := rfl
  have toB : Link index' "app.A" "app.B" := ⟨belowInfo "app.A" "app.B", _, rfl, rfl, rfl⟩
  have toC : Link index' "app.B" "app.C" := ⟨belowInfo "app.B" "app.C", _, rfl, rfl, rfl⟩
  have toA : Link index' "app.C" "app.A" := ⟨belowInfo "app.C" "app.A", _, rfl, rfl, rfl⟩
  have round : Above index' "app.A" "app.A" := .tail (.tail (.single toB) toC) toA
  have hi : index.get? "app.A" = some (belowInfo "app.A" "app.B") := rfl
  have found : (walk index (belowInfo "app.A" "app.B") "app.C").ending = .found := by
    have next : index.get? "app.B" = some (belowInfo "app.B" "app.C") := rfl
    rw [walk, if_neg (by decide), belowInfo, climb_step rfl (by decide) rfl next, belowInfo,
      climb_target index rfl]
  have yes : (test options standardSource index subject target []).outcome = .answer true := by
    have apart : ¬ SameName false "app.A" "app.C" := fun same => absurd same.1 (by decide)
    have finding := finding_of_indexed apart hi
    rw [found] at finding
    exact (test_eq_true_iff rfl standardSource index subject target []).2 finding
  exact ⟨rfl, within, index, index', built, built', ⟨"app.A", round, round⟩, yes,
    (test_of_larger rfl standardSource standardSource [] [] subject target).2 within built built'
      yes⟩

end Subtype

end TypeCatalog
