import TypeCatalog.Live.Loader
import TypeCatalog.Subtype.Walk

/-! # Subtypes — the two tiers

A question is put to the index first, since the classes it tells about may not be loadable.  Where
the index leaves it open, live classes are asked: the subject is loaded, then the target, and the
two are compared.  What neither tier can resolve is not a subtype.

* `ask`: the index tier.  It either settles a question or says why it is open.
* `test`: both tiers, with everything that was asked of the live classes.
-/

namespace TypeCatalog.Subtype

open Live (ClassSource Escape)

/-- `reflexive`: a type is below itself.  `fallback`: live classes may be asked. -/
structure Options where
  reflexive : Bool
  fallback : Bool
  deriving DecidableEq, Repr

def Options.standard : Options := ⟨false, true⟩

/-! ### The index tier -/

/-- What the index lacks. -/
inductive Gap where
  | subject
  | superclass
  deriving DecidableEq, Repr

def Gap.word : Gap → String
  | .subject    => "subject_not_indexed"
  | .superclass => "superclass_not_indexed"

/-- What the index makes of a question; `undecided` names the two types whose live classes are to
be compared. -/
inductive Finding where
  | malformed (fault : TypeFault)
  | answer (b : Bool)
  | undecided (subject target : String) (gap : Gap)
  deriving DecidableEq, Repr

/-- A finding with the look-ups and events that led to it. -/
structure Inquiry where
  lookups : List String
  events : List Event
  finding : Finding

def cyclicHierarchy (subject name : String) : Event :=
  ⟨"subtype.cyclic_hierarchy", .warning, [("subject", .text subject), ("at", .text name)]⟩

def Ending.events (subject : String) : Ending → List Event
  | .cycle name => [cyclicHierarchy subject name]
  | _           => []

def Ending.finding (subject target : String) : Ending → Finding
  | .found           => .answer true
  | .top             => .answer false
  | .cycle _         => .answer false
  | .outside         => .undecided subject target .superclass
  | .malformed fault => .malformed fault

/-- Puts the question of two canonical names to the index. -/
def askNames (reflexive : Bool) (index : ClassIndex) (subject target : String) : Inquiry :=
  if reflexive && subject == target then ⟨[], [], .answer true⟩
  else
    match index.get? subject with
    | none   => ⟨[subject], [], .undecided subject target .subject⟩
    | some c =>
        let w := walk index c target
        ⟨subject :: w.lookups, w.ending.events c.name, w.ending.finding subject target⟩

/-- Puts a question to the index. -/
def ask (reflexive : Bool) (index : ClassIndex) (subject target : TypeRef) : Inquiry :=
  match subject.canonicalName with
  | .error fault => ⟨[], [], .malformed fault⟩
  | .ok s        =>
      match target.canonicalName with
      | .error fault => ⟨[], [], .malformed fault⟩
      | .ok t        => askNames reflexive index s t

/-! ### Live classes -/

/-- What a test comes to. -/
inductive Outcome where
  | answer (b : Bool)
  | malformed (fault : TypeFault)
  | escaped (e : Escape)
  deriving DecidableEq, Repr

/-- Something that was asked of a source of live classes. -/
inductive Query (Class : Type) where
  | load (name : String)
  | isAssignable (base candidate : Class)
  deriving DecidableEq, Repr

/-- What consulting live classes leaves behind. -/
structure Consultation (σ Class : Type) where
  outcome : Outcome
  queries : List (Query Class)
  attempts : List (Live.Attempt σ)
  events : List Event
  state : σ

def fallbackStarted (subject target : String) (gap : Gap) : Event :=
  ⟨"subtype.runtime_fallback", .debug,
    [("subject", .text subject), ("target", .text target), ("reason", .text gap.word)]⟩

def unresolvable (subject target : String) (fault : Live.LoadFault) : Event :=
  ⟨"subtype.unresolvable", .debug,
    [("subject", .text subject), ("target", .text target), ("error", .text fault.report.message)]⟩

section

variable {σ Class : Type}

/-- Goes on after the subject's class has been loaded. -/
def compareWith (source : ClassSource σ Class) (subject target : String) (candidate : Class)
    (s : σ) : Consultation σ Class :=
  let l := source.load target s
  match l.result with
  | .found base    =>
      let a := source.isAssignable l.state base candidate
      ⟨.answer a.answer, [.load target, .isAssignable base candidate], l.attempts,
        l.events ++ a.events, l.state⟩
  | .refused fault =>
      ⟨.answer false, [.load target], l.attempts,
        l.events ++ [unresolvable subject target fault], l.state⟩
  | .escaped e     => ⟨.escaped e, [.load target], l.attempts, l.events, l.state⟩

/-- Loads the subject, then the target, and compares their classes. -/
def consult (source : ClassSource σ Class) (subject target : String) (gap : Gap) (s : σ) :
    Consultation σ Class :=
  let l := source.load subject s
  let start := fallbackStarted subject target gap :: l.events
  match l.result with
  | .found candidate =>
      let c := compareWith source subject target candidate l.state
      { c with
        queries := .load subject :: c.queries
        attempts := l.attempts ++ c.attempts
        events := start ++ c.events }
  | .refused fault   =>
      ⟨.answer false, [.load subject], l.attempts, start ++ [unresolvable subject target fault],
        l.state⟩
  | .escaped e       => ⟨.escaped e, [.load subject], l.attempts, start, l.state⟩

/-! ### Both tiers -/

/-- A test: what it comes to, the names looked up in the index, what was asked of the live classes,
the imports tried, the events, and the state it left. -/
structure Test (σ Class : Type) where
  outcome : Outcome
  lookups : List String
  queries : List (Query Class)
  attempts : List (Live.Attempt σ)
  events : List Event
  state : σ

/-- A test that the index settles. -/
def Test.settled (i : Inquiry) (outcome : Outcome) (s : σ) : Test σ Class :=
  ⟨outcome, i.lookups, [], [], i.events, s⟩

/-- Tests whether `subject` is below `target`. -/
def test (options : Options) (source : ClassSource σ Class) (index : ClassIndex)
    (subject target : TypeRef) (s : σ) : Test σ Class :=
  let i := ask options.reflexive index subject target
  match i.finding with
  | .malformed fault      => .settled i (.malformed fault) s
  | .answer b             => .settled i (.answer b) s
  | .undecided sub tgt gap =>
      if options.fallback then
        let c := consult source sub tgt gap s
        ⟨c.outcome, i.lookups, c.queries, c.attempts, i.events ++ c.events, c.state⟩
      else .settled i (.answer false) s

end

end TypeCatalog.Subtype
