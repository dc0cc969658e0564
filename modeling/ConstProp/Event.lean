import ConstProp.Oracle.Query

/-!
# Events

What an analysis reports while it works, as data: each event has a level and a text. Functions that
cause events return them in the order in which they occur.
-/

namespace ConstProp

/-- How important an event is. -/
inductive Level where
  | trace | debug
  deriving DecidableEq, Repr

/-- The name of a level. -/
def Level.display : Level → String
  | .trace => "trace"
  | .debug => "debug"

/-- Something an analysis reports. -/
inductive Event where
  /-- Two values of which at least one is known were merged into an unknown one. -/
  | varyingMerge (left right : SlotValue) (site : MergeSite)
  /-- A query was answered from a cache. -/
  | cacheHit (kind : Query.Kind) (member : Member)
  /-- A field is in a table but may change. -/
  | changeableField (member : Member)
  /-- A table answered for a field. -/
  | fieldFound (member : Member) (value : Constant)
  /-- A table answered for a call. -/
  | callFound (member : Member) (value : Constant)
  /-- A call was evaluated. -/
  | folded (member : Member) (value : Constant)
  /-- An answer was a class literal, which no slot value holds. -/
  | classLiteral (member : Member) (handle : Handle) (value : Constant)
  /-- An answer does not fit the type of its slot. -/
  | misfit (member : Member) (handle : Handle) (value : Constant) (type : SlotType)
  /-- An answer was taken over. -/
  | adopted (member : Member) (handle : Handle) (value : Constant)
  /-- The result of a call is known, but the call has to stay. -/
  | keptCall (member : Member) (handle : Handle) (value : SlotValue)
  deriving DecidableEq, Repr

namespace Event

/-- The level of an event. -/
def level : Event → Level
  | .varyingMerge .. | .misfit .. | .keptCall .. => .debug
  | .cacheHit .. | .changeableField _ | .fieldFound .. | .callFound .. | .folded ..
  | .classLiteral .. | .adopted .. => .trace

/-- A field in messages, with a colon before its descriptor. -/
def fieldDisplay (member : Member) : String :=
  member.owner ++ "." ++ member.name ++ ":" ++ member.descriptor

/-- The text of an event. -/
def display : Event → String
  | .varyingMerge left right site => s!"merge of {left} and {right} at {site} is not constant"
  | .cacheHit kind member => s!"cache hit for {kind} {member}"
  | .changeableField member =>
    s!"field {fieldDisplay member} is registered but not static final"
  | .fieldFound member value => s!"field {fieldDisplay member} resolved to {value}"
  | .callFound member value => s!"call {member} resolved to {value}"
  | .folded member value => s!"folded {member} to {value}"
  | .classLiteral member handle value =>
    s!"{member} at {handle} resolved to class literal {value}, kept unknown"
  | .misfit member handle value type =>
    s!"{member} at {handle} resolved to {value}, which does not fit {type}"
  | .adopted member handle value => s!"{member} at {handle} resolved to {value}"
  | .keptCall member handle value =>
    s!"call {member} at {handle} keeps its instruction, result {value}"

end Event

end ConstProp
