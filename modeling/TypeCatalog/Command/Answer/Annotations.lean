import TypeCatalog.Command.Answer.Indexed

/-! # The command line — answers about annotations

* `Answer.elementOf`: the element of a class that is asked for.
* `Answer.annotations`: the annotations recorded for it.
-/

namespace TypeCatalog.Command.Answer

/-- The method's parameter at a position, if it has one there. -/
def parameterOf (c : ClassInfo) (m : MethodInfo) (position : Int) : Except Answer Element :=
  if m.hasParameter position then .ok (.parameter c m position)
  else .error (.refused (.noParameter c.name m.name position))

/-- The method of a name, or one of its parameters. -/
def methodOf (c : ClassInfo) (member : String) (param : Option Int) : Except Answer Element :=
  match c.method? member, param with
  | none,   _             => .error (.refused (.noMember c.name member))
  | some m, none          => .ok (.method c m)
  | some m, some position => parameterOf c m position

/-- The element of a class that is asked for.  Fields go before methods, but only methods have
parameters. -/
def elementOf (c : ClassInfo) : (member : Option String) → (param : Option Int) →
    Except Answer Element
  | none,        none   => .ok (.ofClass c)
  | none,        some _ => .error (.misused .paramWithoutMember)
  | some member, none   =>
      match c.field? member with
      | some f => .ok (.field c f)
      | none   => methodOf c member none
  | some member, param  => methodOf c member param

def annotationLine (a : AnnotationRecord) : String :=
  "@" ++ a.name ++ "(" ++ ", ".intercalate (a.values.map fun v => v.1 ++ "=" ++ v.2.literal) ++ ")"

def annotationLines (as : List AnnotationRecord) : List String :=
  if as.isEmpty then ["No annotations"] else as.map annotationLine

def ofAnnotations (json : Bool) (as : List AnnotationRecord) : Answer :=
  if json then ofJson true (.list (as.map AnnotationRecord.written))
  else if as.all fun a => Value.namedAreWritable a.values then .lines true (annotationLines as)
  else .failed .unwritable

def ofClass (c : ClassInfo) (member : Option String) (param : Option Int) (json : Bool) : Answer :=
  match elementOf c member param with
  | .error a => a
  | .ok e    => ofAnnotations json (Element.annotationsOf (some e))

def annotations (stored : String → Stored) (s : Settings) (index className : String)
    (member : Option String) (param : Option Int) (json : Bool) : Answered :=
  withInspector stored s (some index) fun i =>
    ⟨match i.index.get? className with
      | none   => .refused (.noClass className)
      | some c => ofClass c member param json, []⟩

end TypeCatalog.Command.Answer
