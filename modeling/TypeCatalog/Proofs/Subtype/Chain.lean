import Mathlib.Data.Fintype.EquivFin
import Mathlib.Logic.Relation
import TypeCatalog.Subtype.Tester

/-! # Subtypes — the chain of superclasses

A link goes from an indexed class to the canonical name of its superclass.  A class has one link at
most, so that the names above it form a single chain.  The chain leaves the index, ends at a class
without a superclass, breaks at a superclass that has no name, or enters a cycle, which need not
contain the class it started from.

`climb` follows the chain and keeps the names it has met.  What carries the induction is `Climbed`:
every name met leads to the current one, and whatever a name met before links to has been met as
well and was not the target.  So the names met are closed under links as soon as one of them comes
up again, and nothing new can follow.

* `climb_tells`: the ending of a climb says what the chain does, in every index.
* `walk_verdict_iff`: in an index whose superclasses have names, the verdict of a walk is decided by
  what is above the subject, the warning by whether the chain enters a cycle.
-/

namespace TypeCatalog.Subtype

open Relation (TransGen ReflTransGen)

variable {index : ClassIndex} {a b c : String}

/-! ### Links -/

/-- `b` is the canonical name of the superclass recorded for `a`. -/
def Link (index : ClassIndex) (a b : String) : Prop :=
  ∃ info r, index.get? a = some info ∧ info.superclass = some r ∧ r.canonicalName = .ok b

/-- `b` is reached from `a` by one or more links. -/
def Above (index : ClassIndex) : String → String → Prop := TransGen (Link index)

/-- The chain from `a` comes to a name that is not indexed. -/
def Leaves (index : ClassIndex) (a : String) : Prop :=
  ∃ b, ReflTransGen (Link index) a b ∧ index.get? b = none

/-- The chain from `a` ends at an indexed class without a superclass. -/
def Tops (index : ClassIndex) (a : String) : Prop :=
  ∃ b info, ReflTransGen (Link index) a b ∧ index.get? b = some info ∧ info.superclass = none

/-- The chain from `a` comes to a superclass that has no canonical name. -/
def Breaks (index : ClassIndex) (a : String) (fault : TypeFault) : Prop :=
  ∃ b info r, ReflTransGen (Link index) a b ∧ index.get? b = some info ∧
    info.superclass = some r ∧ r.canonicalName = .error fault

/-- The chain from `a` enters a cycle. -/
def Cycles (index : ClassIndex) (a : String) : Prop := ∃ b, Above index a b ∧ Above index b b

theorem link_unique : Relator.RightUnique (Link index) := by
  rintro a b b' ⟨info, r, hi, hr, hb⟩ ⟨info', r', hi', hr', hb'⟩
  obtain rfl := Option.some.inj (hi.symm.trans hi')
  obtain rfl := Option.some.inj (hr.symm.trans hr')
  exact Except.ok.inj (hb.symm.trans hb')

theorem Link.eq (h : Link index a b) (h' : Link index a c) : b = c := link_unique h h'

/-- What is above `a` is the next name or above it. -/
theorem Above.of_link (h : Link index a b) (h' : Above index a c) :
    c = b ∨ Above index b c := by
  rcases TransGen.head'_iff.1 h' with ⟨d, hd, hdc⟩
  obtain rfl := h.eq hd
  rcases Relation.reflTransGen_iff_eq_or_transGen.1 hdc with rfl | hdc
  · exact .inl rfl
  · exact .inr hdc

/-! ### A chain goes one way only -/

/-- Nothing lies above a name without a link. -/
theorem not_above (h : ∀ b, ¬ Link index a b) : ¬ Above index a c := by
  intro h'
  obtain ⟨b, hb, -⟩ := TransGen.head'_iff.1 h'
  exact h b hb

/-- From a name without a link nothing else is reached. -/
theorem eq_of_not_link (h : ReflTransGen (Link index) a b) (ha : ∀ c, ¬ Link index a c) :
    a = b := by
  rcases ReflTransGen.cases_head h with rfl | ⟨c, hc, -⟩
  · rfl
  · exact absurd hc (ha c)

/-- The names that a cycle leads to lead back to it. -/
theorem above_back (hb : Above index b b) (h : ReflTransGen (Link index) b c) :
    ReflTransGen (Link index) c b := by
  induction h with
  | refl => exact .refl
  | @tail c d _ hcd ih =>
      rcases ReflTransGen.cases_head ih with rfl | ⟨e, hce, heb⟩
      · rcases Above.of_link hcd hb with rfl | h
        · exact .refl
        · exact h.to_reflTransGen
      · obtain rfl := hcd.eq hce
        exact heb

/-- A chain that comes to a name without a link enters no cycle. -/
theorem not_cycles (h : ReflTransGen (Link index) a b) (hb : ∀ c, ¬ Link index b c) :
    ¬ Cycles index a := by
  rintro ⟨c, hac, hcc⟩
  -- both names stand on one chain, so one of them leads to the other
  have hbc : b = c := by
    rcases ReflTransGen.total_of_right_unique link_unique h hac.to_reflTransGen with hbc | hcb
    · exact eq_of_not_link hbc hb
    · exact eq_of_not_link (above_back hcc hcb) hb
  subst hbc
  exact not_above hb hcc

/-- Names without a link at which one chain ends are the same. -/
theorem eq_of_ends (h : ReflTransGen (Link index) a b) (hb : ∀ d, ¬ Link index b d)
    (h' : ReflTransGen (Link index) a c) (hc : ∀ d, ¬ Link index c d) : b = c := by
  rcases ReflTransGen.total_of_right_unique link_unique h h' with hbc | hcb
  · exact eq_of_not_link hbc hb
  · exact (eq_of_not_link hcb hc).symm

theorem not_link_of_get?_eq_none (h : index.get? a = none) : ∀ b, ¬ Link index a b := by
  rintro b ⟨info, r, hi, -, -⟩
  rw [h] at hi
  cases hi

theorem not_link_of_superclass_eq_none {info : ClassInfo} (h : index.get? a = some info)
    (hs : info.superclass = none) : ∀ b, ¬ Link index a b := by
  rintro b ⟨info', r, hi, hr, -⟩
  obtain rfl := Option.some.inj (h.symm.trans hi)
  rw [hs] at hr
  cases hr

theorem not_link_of_fault {info : ClassInfo} {r : TypeRef} {fault : TypeFault}
    (h : index.get? a = some info) (hs : info.superclass = some r)
    (hr : r.canonicalName = .error fault) : ∀ b, ¬ Link index a b := by
  rintro b ⟨info', r', hi', hs', hr'⟩
  obtain rfl := Option.some.inj (h.symm.trans hi')
  obtain rfl := Option.some.inj (hs.symm.trans hs')
  rw [hr] at hr'
  cases hr'

theorem Leaves.not_tops (h : Leaves index a) : ¬ Tops index a := by
  obtain ⟨b, hab, hb⟩ := h
  rintro ⟨c, info, hac, hc, hs⟩
  obtain rfl := eq_of_ends hab (not_link_of_get?_eq_none hb) hac
    (not_link_of_superclass_eq_none hc hs)
  rw [hb] at hc
  cases hc

theorem Leaves.not_cycles (h : Leaves index a) : ¬ Cycles index a := by
  obtain ⟨b, hab, hb⟩ := h
  exact Subtype.not_cycles hab (not_link_of_get?_eq_none hb)

theorem Tops.not_cycles (h : Tops index a) : ¬ Cycles index a := by
  obtain ⟨b, info, hab, hb, hs⟩ := h
  exact Subtype.not_cycles hab (not_link_of_superclass_eq_none hb hs)

/-! ### A chain that breaks -/

theorem Breaks.not_leaves {fault : TypeFault} (h : Breaks index a fault) : ¬ Leaves index a := by
  obtain ⟨b, info, r, hab, hb, hs, hr⟩ := h
  rintro ⟨c, hac, hc⟩
  obtain rfl := eq_of_ends hab (not_link_of_fault hb hs hr) hac (not_link_of_get?_eq_none hc)
  rw [hb] at hc
  cases hc

theorem Breaks.not_tops {fault : TypeFault} (h : Breaks index a fault) : ¬ Tops index a := by
  obtain ⟨b, info, r, hab, hb, hs, hr⟩ := h
  rintro ⟨c, info', hac, hc, ht⟩
  obtain rfl := eq_of_ends hab (not_link_of_fault hb hs hr) hac
    (not_link_of_superclass_eq_none hc ht)
  obtain rfl := Option.some.inj (hb.symm.trans hc)
  rw [hs] at ht
  cases ht

theorem Breaks.not_cycles {fault : TypeFault} (h : Breaks index a fault) : ¬ Cycles index a := by
  obtain ⟨b, info, r, hab, hb, hs, hr⟩ := h
  exact Subtype.not_cycles hab (not_link_of_fault hb hs hr)

/-- A chain breaks at one superclass only. -/
theorem Breaks.unique {fault fault' : TypeFault} (h : Breaks index a fault)
    (h' : Breaks index a fault') : fault = fault' := by
  obtain ⟨b, info, r, hab, hb, hs, hr⟩ := h
  obtain ⟨b', info', r', hab', hb', hs', hr'⟩ := h'
  obtain rfl := eq_of_ends hab (not_link_of_fault hb hs hr) hab' (not_link_of_fault hb' hs' hr')
  obtain rfl := Option.some.inj (hb.symm.trans hb')
  obtain rfl := Option.some.inj (hs.symm.trans hs')
  exact Except.error.inj (hr.symm.trans hr')

/-! ### What an ending says -/

/-- What an ending says about the chain from `a`, `hit` being what the target was to be found by. -/
def Ending.Tells (index : ClassIndex) (hit : Prop) (a : String) : Ending → Prop
  | .found           => hit
  | .top             => ¬ hit ∧ Tops index a
  | .cycle n         => ¬ hit ∧ Above index a n ∧ Above index n n
  | .outside         => ¬ hit ∧ Leaves index a
  | .malformed fault => ¬ hit ∧ Breaks index a fault

theorem Ending.Tells.congr {hit hit' : Prop} (h : hit ↔ hit') {e : Ending}
    (he : e.Tells index hit a) : e.Tells index hit' a :=
  propext h ▸ he

/-- The ending of a walk is malformed where nothing is hit and the chain breaks. -/
theorem Ending.Tells.malformed_iff {hit : Prop} {e : Ending} (h : e.Tells index hit a)
    (fault : TypeFault) : e = .malformed fault ↔ ¬ hit ∧ Breaks index a fault := by
  cases e with
  | found =>
      have hh : hit := h
      simp [hh]
  | top => exact iff_of_false nofun fun hb => hb.2.not_tops h.2
  | cycle n => exact iff_of_false nofun fun hb => hb.2.not_cycles ⟨n, h.2⟩
  | outside => exact iff_of_false nofun fun hb => hb.2.not_leaves h.2
  | malformed fault' =>
      constructor
      · intro he
        obtain rfl := Ending.malformed.inj he
        exact h
      · rintro ⟨-, hb⟩
        rw [h.2.unique hb]

/-- What is said of the chain from the next name holds of the chain from `a`, if the next name is
not the target. -/
theorem Ending.Tells.of_link {target : String} (h : Link index a b) (hb : b ≠ target) {e : Ending}
    (he : e.Tells index (Above index b target) b) : e.Tells index (Above index a target) a := by
  have same : Above index b target ↔ Above index a target := by
    refine ⟨TransGen.head h, fun hat => ?_⟩
    exact (Above.of_link h hat).resolve_left (Ne.symm hb)
  replace he := he.congr same
  cases e with
  | found => exact he
  | top =>
      obtain ⟨ht, c, info, hbc, hc⟩ := he
      exact ⟨ht, c, info, hbc.head h, hc⟩
  | cycle n =>
      obtain ⟨ht, hbn, hnn⟩ := he
      exact ⟨ht, hbn.head h, hnn⟩
  | outside =>
      obtain ⟨ht, c, hbc, hc⟩ := he
      exact ⟨ht, c, hbc.head h, hc⟩
  | malformed fault =>
      obtain ⟨ht, c, info, r, hbc, hc⟩ := he
      exact ⟨ht, c, info, r, hbc.head h, hc⟩

/-! ### The climb -/

/-- A climb has come to `a`, having met the names `met` on its way to `target`: each of them leads
to `a`, and apart from `a` each links only to a name that has been met and is not the target. -/
structure Climbed (index : ClassIndex) (target : String) (met : List String) (a : String) :
    Prop where
  leads : ∀ b ∈ met, ReflTransGen (Link index) b a
  passed : ∀ b ∈ met, b ≠ a → ∀ c, Link index b c → c ∈ met ∧ c ≠ target

theorem Climbed.start (target : String) : Climbed index target [a] a where
  leads b hb := by
    obtain rfl := List.mem_singleton.1 hb
    exact .refl
  passed b hb hne := absurd (List.mem_singleton.1 hb) hne

/-- One link on. -/
theorem Climbed.step {target : String} {met : List String} (h : Climbed index target met a)
    (hl : Link index a b) (hb : b ≠ target) : Climbed index target (b :: met) b where
  leads c hc := by
    rcases List.mem_cons.1 hc with rfl | hc
    · exact .refl
    · exact (h.leads c hc).tail hl
  passed c hc hne d hd := by
    have hc : c ∈ met := (List.mem_cons.1 hc).resolve_left hne
    by_cases hca : c = a
    · subst hca
      obtain rfl := hl.eq hd
      exact ⟨List.mem_cons_self, hb⟩
    · obtain ⟨hm, ht⟩ := h.passed c hc hca d hd
      exact ⟨List.mem_cons_of_mem _ hm, ht⟩

/-- Where the climb comes to a name it has met, nothing new lies above and the target does not. -/
theorem Climbed.not_above_of_met {target : String} {met : List String}
    (h : Climbed index target met a) (hl : Link index a b) (hb : b ≠ target) (hm : b ∈ met) :
    ¬ Above index a target := by
  -- the names met are closed under links, the current one included
  have closed : ∀ c ∈ a :: met, ∀ d, Link index c d → d ∈ met ∧ d ≠ target := by
    intro c hc d hd
    by_cases hca : c = a
    · subst hca
      obtain rfl := hl.eq hd
      exact ⟨hm, hb⟩
    · exact h.passed c ((List.mem_cons.1 hc).resolve_left hca) hca d hd
  have run : ∀ d, Above index a d → d ∈ met ∧ d ≠ target := by
    intro d hd
    induction hd with
    | single hd => exact closed a List.mem_cons_self _ hd
    | tail _ hd ih => exact closed _ (List.mem_cons_of_mem _ ih.1) _ hd
  exact fun ht => (run target ht).2 rfl

/-- **The climb.**  From an indexed class, the ending of a climb says what the chain does. -/
theorem climb_tells {target : String} {met : List String} {above : Option TypeRef} {a : String}
    {info : ClassInfo} (h : Climbed index target met a) (hi : index.get? a = some info)
    (hs : info.superclass = above) :
    (climb index target met above).ending.Tells index (Above index a target) a := by
  fun_induction climb index target met above generalizing a info with
  | case1 met =>
      have ht : Tops index a := ⟨a, info, .refl, hi, hs⟩
      exact ⟨not_above (not_link_of_superclass_eq_none hi hs), ht⟩
  | case2 met r fault hr =>
      exact ⟨not_above (not_link_of_fault hi hs hr), a, info, r, .refl, hi, hs, hr⟩
  | case3 met r hr => exact .single ⟨info, r, hi, hs, hr⟩
  | case4 met r n hr hn hm =>
      -- the next name has led to the current one, so the link back to it closes a cycle
      have hl : Link index a n := ⟨info, r, hi, hs, hr⟩
      have hm : n ∈ met := by simpa using hm
      refine ⟨h.not_above_of_met hl hn hm, .single hl, ?_⟩
      exact TransGen.tail' (h.leads n hm) hl
  | case5 met r n hr hn hm hi' =>
      have hl : Link index a n := ⟨info, r, hi, hs, hr⟩
      have ho : Ending.outside.Tells index (Above index n target) n :=
        ⟨not_above (not_link_of_get?_eq_none hi'), n, .refl, hi'⟩
      exact ho.of_link hl hn
  | case6 met r n hr hn hm info' hi' rest =>
      rename_i ih
      have hl : Link index a n := ⟨info, r, hi, hs, hr⟩
      exact (ih (h.step hl hn) hi' rfl).of_link hl hn

/-- The names a climb looks up are new, and not many: all but the last are indexed. -/
theorem climb_lookups (index : ClassIndex) (target : String) (met : List String)
    (above : Option TypeRef) :
    (climb index target met above).lookups.Nodup ∧
      (∀ n ∈ (climb index target met above).lookups, n ∉ met) ∧
      (climb index target met above).lookups.length ≤ unmet index met + 1 := by
  fun_induction climb index target met above with
  | case1 | case2 | case3 | case4 => simp
  | case5 met r n hr hn hm hi => simpa using hm
  | case6 met r n hr hn hm info hi rest ih =>
      obtain ⟨nodup, new, few⟩ := ih
      have hlt := unmet_cons_lt (mem_keys_of_get? hi) hm
      refine ⟨List.nodup_cons.2 ⟨fun h => new n h List.mem_cons_self, nodup⟩, ?_, ?_⟩
      · intro k hk
        rcases List.mem_cons.1 hk with rfl | hk
        · simpa using hm
        · exact fun hkm => new k hk (List.mem_cons_of_mem _ hkm)
      · have few : rest.lookups.length ≤ unmet index (n :: met) + 1 := few
        rw [List.length_cons]
        omega

/-! ### The walk -/

/-- What the index records under a name is the metadata of a class with that name. -/
theorem name_of_get?_ofClasses {classes : List ClassInfo} {info : ClassInfo}
    (h : (ClassIndex.ofClasses classes).get? a = some info) : info.name = a := by
  rw [ClassIndex.get?_ofClasses] at h
  simpa using List.find?_some h

theorem mem_of_get?_ofClasses {classes : List ClassInfo} {info : ClassInfo}
    (h : (ClassIndex.ofClasses classes).get? a = some info) : info ∈ classes := by
  rw [ClassIndex.get?_ofClasses] at h
  exact List.mem_reverse.1 (List.mem_of_find?_eq_some h)

theorem mem_classes_of_get? {info : ClassInfo} (h : index.get? a = some info) :
    info ∈ index.classes :=
  List.mem_map_of_mem (f := Prod.snd) (Entries.mem_of_get? h)

/-- Some name is not indexed. -/
theorem exists_get?_eq_none (index : ClassIndex) : ∃ a, index.get? a = none := by
  obtain ⟨a, ha⟩ := Infinite.exists_notMem_finset index.keys.toFinset
  exact ⟨a, (Entries.get?_eq_none_iff index.entries a).2 fun h => ha (List.mem_toFinset.2 h)⟩

/-- **The fate of a chain.**  A chain leaves the index, ends, enters a cycle or breaks. -/
theorem fate {info : ClassInfo} (hi : index.get? a = some info) :
    Leaves index a ∨ Tops index a ∨ Cycles index a ∨ ∃ fault, Breaks index a fault := by
  -- a climb that looks for a name that is not indexed ends at it only outside the index
  obtain ⟨t, ht⟩ := exists_get?_eq_none index
  have start : Climbed index t [a] a := Climbed.start t
  have h := climb_tells start hi rfl
  cases he : (climb index t [a] info.superclass).ending with
  | found =>
      rw [he] at h
      exact .inl ⟨t, TransGen.to_reflTransGen h, ht⟩
  | top =>
      rw [he] at h
      exact .inr (.inl h.2)
  | cycle n =>
      rw [he] at h
      exact .inr (.inr (.inl ⟨n, h.2⟩))
  | outside =>
      rw [he] at h
      exact .inl h.2
  | malformed fault =>
      rw [he] at h
      exact .inr (.inr (.inr ⟨fault, h.2⟩))

/-- The target is among the further bases of the subject, or above it. -/
def Matches (index : ClassIndex) (subject : String) (info : ClassInfo) (target : String) : Prop :=
  target ∈ info.interfaces ∨ Above index subject target

/-- **The walk.**  Its ending says what is above the subject and what the chain does. -/
theorem walk_tells {info : ClassInfo} (hi : index.get? a = some info) (hn : info.name = a)
    (target : String) :
    (walk index info target).ending.Tells index (Matches index a info target) a := by
  unfold walk
  split
  · rename_i h
    exact .inl (by simpa using h)
  · rename_i h
    have hm : Above index a target ↔ Matches index a info target := by
      simp only [List.contains_iff_mem] at h
      simp [Matches, h]
    rw [hn]
    exact (climb_tells (Climbed.start target) hi rfl).congr hm

theorem walk_lookups {info : ClassInfo} (hi : index.get? a = some info) (hn : info.name = a)
    (target : String) :
    (walk index info target).lookups.Nodup ∧
      (walk index info target).lookups.length ≤ index.size := by
  unfold walk
  split
  · simp
  · obtain ⟨nodup, -, few⟩ := climb_lookups index target [info.name] info.superclass
    have hlt : unmet index [a] < unmet index [] := unmet_cons_lt (mem_keys_of_get? hi) (by simp)
    have hsize : unmet index [] = index.size := by
      simp [unmet, List.filter_true, OrderedMap.keys, OrderedMap.size, Entries.keys]
    rw [← hn] at hlt
    exact ⟨nodup, by omega⟩

/-! ### The verdict -/

/-- Where every superclass has a name, no chain breaks. -/
theorem not_breaks (named : ∀ info ∈ index.classes, ∀ r, info.superclass = some r →
    ∃ n, r.canonicalName = .ok n) (fault : TypeFault) : ¬ Breaks index a fault := by
  rintro ⟨b, info, r, -, hb, hs, hr⟩
  obtain ⟨n, hn⟩ := named info (mem_classes_of_get? hb) r hs
  rw [hr] at hn
  cases hn

/-- A chain that does not break stays in the index if it ends there or enters a cycle. -/
theorem not_leaves_iff {info : ClassInfo} (hi : index.get? a = some info)
    (unbroken : ∀ fault, ¬ Breaks index a fault) :
    ¬ Leaves index a ↔ Tops index a ∨ Cycles index a := by
  constructor
  · intro h
    rcases fate hi with hl | ht | hc | ⟨fault, hb⟩
    · exact absurd hl h
    · exact .inl ht
    · exact .inr hc
    · exact absurd hb (unbroken fault)
  · rintro (ht | hc) hl
    · exact hl.not_tops ht
    · exact hl.not_cycles hc

/-- The verdict of an ending, by what the ending says. -/
theorem Ending.Tells.verdict {hit : Prop} {e : Ending} (h : e.Tells index hit a)
    (unbroken : ∀ fault, ¬ Breaks index a fault) :
    (e.verdict? = .ok .holds ↔ hit) ∧
      (e.verdict? = .ok .undecided ↔ ¬ hit ∧ Leaves index a) ∧
      (e.verdict? = .ok .fails ↔ ¬ hit ∧ ¬ Leaves index a) := by
  cases e with
  | found =>
      have hh : hit := h
      simp [Ending.verdict?, hh]
  | top =>
      obtain ⟨miss, ht⟩ := h
      have hl : ¬ Leaves index a := fun hl => hl.not_tops ht
      simp [Ending.verdict?, miss, hl]
  | cycle n =>
      obtain ⟨miss, hn⟩ := h
      have hl : ¬ Leaves index a := fun hl => hl.not_cycles ⟨n, hn⟩
      simp [Ending.verdict?, miss, hl]
  | outside =>
      obtain ⟨miss, hl⟩ := h
      simp [Ending.verdict?, miss, hl]
  | malformed fault => exact absurd h.2 (unbroken fault)

/-- The warning that goes with an ending, by what the ending says. -/
theorem Ending.Tells.warning {hit : Prop} {e : Ending} (h : e.Tells index hit a)
    (unbroken : ∀ fault, ¬ Breaks index a fault) :
    (¬ hit ∧ Cycles index a →
        ∃ n, Above index a n ∧ Above index n n ∧ e.events a = [cyclicHierarchy a n]) ∧
      (hit ∨ ¬ Cycles index a → e.events a = []) := by
  cases e with
  | found => exact ⟨fun hc => absurd h hc.1, fun _ => rfl⟩
  | top => exact ⟨fun hc => absurd hc.2 h.2.not_cycles, fun _ => rfl⟩
  | cycle n =>
      obtain ⟨miss, hn⟩ := h
      refine ⟨fun _ => ⟨n, hn.1, hn.2, rfl⟩, ?_⟩
      rintro (hh | hc)
      · exact absurd hh miss
      · exact absurd ⟨n, hn⟩ hc
  | outside => exact ⟨fun hc => absurd hc.2 h.2.not_cycles, fun _ => rfl⟩
  | malformed fault => exact absurd h.2 (unbroken fault)

/-- **The verdict of a walk.**  In an index whose superclasses have names, the walk holds if the
target is matched; else it is undecided if the chain leaves the index, and fails if the chain ends
or enters a cycle.  The warning is given where an unmatched chain enters a cycle, and nowhere else.
The walk looks no name up twice, and no more names than are indexed. -/
theorem walk_verdict_iff (classes : List ClassInfo)
    (named : ∀ info ∈ (ClassIndex.ofClasses classes).classes, ∀ r, info.superclass = some r →
      ∃ n, r.canonicalName = .ok n)
    {subject : String} {info : ClassInfo}
    (hi : (ClassIndex.ofClasses classes).get? subject = some info) (target : String) :
    let index := ClassIndex.ofClasses classes
    let w := walk index info target
    (w.ending.verdict? = .ok .holds ↔ Matches index subject info target) ∧
    (w.ending.verdict? = .ok .undecided ↔
      ¬ Matches index subject info target ∧ Leaves index subject) ∧
    (w.ending.verdict? = .ok .fails ↔
      ¬ Matches index subject info target ∧ ¬ Leaves index subject) ∧
    (¬ Leaves index subject ↔ Tops index subject ∨ Cycles index subject) ∧
    (¬ Matches index subject info target ∧ Cycles index subject →
      ∃ n, Above index subject n ∧ Above index n n ∧
        w.ending.events info.name = [cyclicHierarchy subject n]) ∧
    (Matches index subject info target ∨ ¬ Cycles index subject →
      w.ending.events info.name = []) ∧
    w.lookups.Nodup ∧ w.lookups.length ≤ index.size := by
  intro index w
  have name : info.name = subject := name_of_get?_ofClasses hi
  have unbroken : ∀ fault, ¬ Breaks index subject fault := not_breaks named
  have tells : w.ending.Tells index (Matches index subject info target) subject :=
    walk_tells hi name target
  obtain ⟨holds, undecided, fails⟩ := tells.verdict unbroken
  obtain ⟨warned, silent⟩ := tells.warning unbroken
  rw [name]
  exact ⟨holds, undecided, fails, not_leaves_iff hi unbroken, warned, silent,
    walk_lookups hi name target⟩

/-- A class below a cycle that it is not in. -/
def besideCycle : List ClassInfo :=
  [⟨"S", some (.ofClass "A"), [], [], [], []⟩, ⟨"A", some (.ofClass "B"), [], [], [], []⟩,
   ⟨"B", some (.ofClass "A"), [], [], [], []⟩]

theorem walk_verdict_besideCycle :
    let index := ClassIndex.ofClasses besideCycle
    let info : ClassInfo := ⟨"S", some (.ofClass "A"), [], [], [], []⟩
    (∀ info ∈ index.classes, ∀ r, info.superclass = some r → ∃ n, r.canonicalName = .ok n) ∧
    index.get? "S" = some info ∧ (walk index info "Z").ending.verdict? = .ok .fails := by
  intro index info
  have named : ∀ info ∈ index.classes, ∀ r, info.superclass = some r →
      ∃ n, r.canonicalName = .ok n := by
    have hc : index.classes = besideCycle := rfl
    simp [hc, besideCycle, TypeRef.ofClass, TypeRef.canonicalName]
  have hi : index.get? "S" = some info := rfl
  have toA : Link index "S" "A" := ⟨info, _, hi, rfl, rfl⟩
  have toB : Link index "A" "B" := ⟨⟨"A", some (.ofClass "B"), [], [], [], []⟩, _, rfl, rfl, rfl⟩
  have back : Link index "B" "A" := ⟨⟨"B", some (.ofClass "A"), [], [], [], []⟩, _, rfl, rfl, rfl⟩
  have start : Climbed index "Z" ["S"] "S" := .start "Z"
  have met : Climbed index "Z" ["B", "A", "S"] "B" :=
    (start.step toA (by decide)).step toB (by decide)
  have miss : ¬ Matches index "S" info "Z" := by
    rintro (hz | hz)
    · cases hz
    · have hz := (Above.of_link toA hz).resolve_left (by decide)
      have hz := (Above.of_link toB hz).resolve_left (by decide)
      exact met.not_above_of_met back (by decide) (by decide) hz
  have cycles : Cycles index "S" := ⟨"A", .single toA, .tail (.single toB) back⟩
  obtain ⟨-, -, fails, stays, -⟩ := walk_verdict_iff besideCycle named hi "Z"
  exact ⟨named, hi, fails.2 ⟨miss, stays.2 (.inr cycles)⟩⟩

end TypeCatalog.Subtype
