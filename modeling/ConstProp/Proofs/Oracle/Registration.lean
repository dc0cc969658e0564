import ConstProp.Oracle.Table
import Mathlib.Data.Finset.Card
import Mathlib.Data.List.Induction

/-!
# Histories of registrations

A table is filled by registrations, and each of them either fits its member and takes effect or is refused
and leaves the table as it is. After any history, a table holds for each field and for each method the
last registration that fitted (`ConstantTable.held?_ofHistory`), and nothing else about the history can be
told from it. A field and a method of the same name and descriptor are different members here.
-/

namespace ConstProp

/-- A registration that a table is asked to take. -/
inductive Registration where
  | field (target : Member) (access : Access) (value : Constant)
  | result (method : Member) (value : Constant)
  deriving DecidableEq, Repr

namespace Registration

/-- Whether a registration is about a field or about the calls of a method. -/
def kind : Registration → Query.Kind
  | .field .. => .field
  | .result .. => .call

/-- The member that a registration is about. -/
def member : Registration → Member
  | .field member _ _ | .result member _ => member

/-- A registration fits its member if the type that the descriptor gives can hold the value, where a
method must be one without parameters. -/
def Fits : Registration → Prop
  | .field target _ value =>
    ∃ type, SlotType.ofDescriptor? target.descriptor = some type ∧ type.accepts value = true
  | .result method value =>
    ['(', ')'] <+: method.descriptor.toList ∧
      ∃ type, SlotType.ofReturn? method.descriptor = some type ∧ type.accepts value = true

/-- The check that a registration has to pass. -/
def check : Registration → Except Refusal Unit
  | .field target _ value => ConstantTable.checkField target value
  | .result method value => ConstantTable.checkReturn method value

end Registration

namespace ConstantTable

theorem isArgumentless_iff (descriptor : String) :
    isArgumentless descriptor = true ↔ ['(', ')'] <+: descriptor.toList := by
  unfold isArgumentless
  split
  case h_1 rest shape => simp [shape]
  case h_2 other =>
    simp only [Bool.false_eq_true, false_iff]
    rintro ⟨rest, shape⟩
    exact other rest shape.symm

/-- Asks a table to take a registration. -/
def insert (table : ConstantTable) : Registration → Except Refusal ConstantTable
  | .field target access value => table.insertField target access value
  | .result method value => table.insertReturn method value

/-- The table after a registration: changed, or as it was if the registration is refused. -/
def register (table : ConstantTable) (registration : Registration) : ConstantTable :=
  match table.insert registration with
  | .ok changed => changed
  | .error _ => table

/-- The table after a history of registrations. -/
def ofHistory (history : List Registration) : ConstantTable :=
  history.foldl register empty

/-- The registration that a table holds for a member, as a field or as a method. -/
def held? (table : ConstantTable) (kind : Query.Kind) (member : Member) : Option Registration :=
  match kind with
  | .field => (table.registeredField? member).map fun entry => .field member entry.access entry.value
  | .call => (table.registeredResult? member).map fun value => .result member value

end ConstantTable

namespace Registration

/-- The registrations that pass their check are those that fit. -/
theorem check_eq_ok_iff (registration : Registration) :
    registration.check = .ok () ↔ registration.Fits := by
  cases registration with
  | field target access value =>
    simp only [check, Fits, ConstantTable.checkField]
    split
    case h_1 absent => simp [absent]
    case h_2 type typed => simp [typed]
  | result method value =>
    simp only [check, Fits, ConstantTable.checkReturn, ← ConstantTable.isArgumentless_iff]
    split
    case isFalse takes => simp [takes]
    case isTrue takesNone =>
      split
      case h_1 absent => simp [absent]
      case h_2 type typed => simp [takesNone, typed]

instance decidableFits : DecidablePred Fits := fun registration =>
  decidable_of_iff (registration.check = .ok ()) registration.check_eq_ok_iff

/-- Whether a registration takes effect for a member, as a field or as a method. -/
def Sets (kind : Query.Kind) (member : Member) (registration : Registration) : Prop :=
  registration.Fits ∧ registration.kind = kind ∧ registration.member = member

instance (kind : Query.Kind) (member : Member) : DecidablePred (Sets kind member) :=
  fun registration => inferInstanceAs (Decidable (registration.Fits ∧ _ ∧ _))

/-- The last registration of a history that takes effect for a member, as a field or as a method. -/
def last? (history : List Registration) (kind : Query.Kind) (member : Member) :
    Option Registration :=
  (history.filter fun registration => registration.Sets kind member).getLast?

/-- The members for which registrations of a history take effect, as fields or as methods. -/
def members (history : List Registration) (kind : Query.Kind) : Finset Member :=
  ((history.filter fun registration => registration.Fits ∧ registration.kind = kind).map
    member).toFinset

theorem mem_members_iff {history : List Registration} {kind : Query.Kind} {member : Member} :
    member ∈ members history kind ↔ ∃ registration ∈ history, registration.Sets kind member := by
  simp [members, Sets, and_assoc]

end Registration

namespace ConstantTable

/-- A registration is taken exactly if it fits, whatever the table holds. -/
theorem exists_insert_eq_ok_iff (table : ConstantTable) (registration : Registration) :
    (∃ changed, table.insert registration = .ok changed) ↔ registration.Fits := by
  rw [← registration.check_eq_ok_iff]
  cases registration with
  | field target access value =>
    simp only [insert, insertField, Registration.check]
    cases checkField target value <;> simp
  | result method value =>
    simp only [insert, insertReturn, Registration.check]
    cases checkReturn method value <;> simp

/-- A registration that is refused changes nothing. -/
theorem register_of_not_fits {registration : Registration} (unfit : ¬ registration.Fits)
    (table : ConstantTable) : table.register registration = table := by
  unfold register
  split
  case h_1 changed inserted =>
    exact absurd ((table.exists_insert_eq_ok_iff registration).mp ⟨changed, inserted⟩) unfit
  case h_2 => rfl

/-- Fields and results are registered apart. -/
theorem registeredResult?_insertField {table changed : ConstantTable} {target : Member}
    {access : Access} {value : Constant}
    (inserted : table.insertField target access value = .ok changed) (method : Member) :
    changed.registeredResult? method = table.registeredResult? method := by
  unfold insertField at inserted
  split at inserted
  · cases inserted
    rfl
  · cases inserted

theorem registeredField?_insertReturn {table changed : ConstantTable} {method : Member}
    {value : Constant} (inserted : table.insertReturn method value = .ok changed)
    (target : Member) : changed.registeredField? target = table.registeredField? target := by
  unfold insertReturn at inserted
  split at inserted
  · cases inserted
    rfl
  · cases inserted

/-- A registration that fits is held for its own member, in place of an earlier one. -/
theorem held?_register_of_fits {registration : Registration} (fits : registration.Fits)
    (table : ConstantTable) (kind : Query.Kind) (member : Member) :
    (table.register registration).held? kind member =
      if registration.kind = kind ∧ registration.member = member then some registration
      else table.held? kind member := by
  obtain ⟨changed, inserted⟩ := (table.exists_insert_eq_ok_iff registration).mpr fits
  have registered : table.register registration = changed := by simp only [register, inserted]
  rw [registered]
  cases registration with
  | field target access value =>
    cases kind with
    | field =>
      rw [held?, registeredField?_insertField inserted]
      by_cases same : member = target
      · simp [same, Registration.kind, Registration.member]
      · simp [same, Ne.symm same, Registration.kind, Registration.member, held?]
    | call =>
      rw [held?, registeredResult?_insertField inserted]
      simp [Registration.kind, held?]
  | result method value =>
    cases kind with
    | field =>
      rw [held?, registeredField?_insertReturn inserted]
      simp [Registration.kind, held?]
    | call =>
      rw [held?, registeredResult?_insertReturn inserted]
      by_cases same : member = method
      · simp [same, Registration.kind, Registration.member]
      · simp [same, Ne.symm same, Registration.kind, Registration.member, held?]

@[simp] theorem ofHistory_concat (history : List Registration) (registration : Registration) :
    ofHistory (history ++ [registration]) = (ofHistory history).register registration := by
  simp [ofHistory]

/-- A table holds for each member the last registration that took effect for it. -/
theorem held?_ofHistory (history : List Registration) (kind : Query.Kind) (member : Member) :
    (ofHistory history).held? kind member = Registration.last? history kind member := by
  induction history using List.reverseRecOn with
  | nil => cases kind <;> rfl
  | append_singleton history registration inductionHypothesis =>
    rw [ofHistory_concat, Registration.last?, List.filter_append, List.filter_singleton]
    by_cases fits : registration.Fits
    · rw [held?_register_of_fits fits]
      by_cases own : registration.kind = kind ∧ registration.member = member
      · have sets : registration.Sets kind member := ⟨fits, own⟩
        simp [own, sets]
      · have other : ¬ registration.Sets kind member := fun sets => own sets.2
        simp [own, other, inductionHypothesis, Registration.last?]
    · have other : ¬ registration.Sets kind member := fun sets => fits sets.1
      rw [register_of_not_fits fits, inductionHypothesis]
      simp [other, Registration.last?]

/-- A table answers for a field with the value that it holds, if the field keeps it. -/
theorem answer_field_eq_some_iff {table : ConstantTable} {type : SlotType} {target : Member}
    {value : Constant} :
    table.answer (.field type target) = some value ↔
      ∃ access, table.held? .field target = some (.field target access value) ∧
        access.isConstant = true := by
  simp only [answer, held?]
  cases table.registeredField? target with
  | none => simp
  | some entry => by_cases keeps : entry.access.isConstant = true <;> simp [keeps, and_comm]

/-- A table answers for a call with the result that it holds, if there is at most a receiver. -/
theorem answer_call_eq_some_iff {table : ConstantTable} {type : SlotType} {method : Member}
    {arguments : List SlotValue} {value : Constant} :
    table.answer (.call type method arguments) = some value ↔
      arguments.length ≤ 1 ∧ table.held? .call method = some (.result method value) := by
  by_cases few : arguments.length ≤ 1 <;> simp [answer, held?, few]

/-- Of a query only the kind, the member and the number of arguments decide the answer. -/
theorem answer_congr (table : ConstantTable) {query other : Query} (kinds : query.kind = other.kind)
    (members : query.member = other.member)
    (lengths : query.arguments.length = other.arguments.length) :
    table.answer query = table.answer other := by
  cases query with
  | field type target =>
    cases other with
    | field otherType otherTarget =>
      cases members
      rfl
    | call => cases kinds
  | call type method arguments =>
    cases other with
    | field => cases kinds
    | call otherType otherMethod otherArguments =>
      cases members
      simp only [Query.arguments] at lengths
      simp only [answer, lengths]

/-- Tables that hold the same for the member of a query answer it alike. -/
theorem answer_eq_of_held? {left right : ConstantTable} {query : Query}
    (same : left.held? query.kind query.member = right.held? query.kind query.member) :
    left.answer query = right.answer query := by
  apply Option.ext
  intro value
  cases query with
  | field type target =>
    have held : left.held? .field target = right.held? .field target := same
    simp only [answer_field_eq_some_iff, held]
  | call type method arguments =>
    have held : left.held? .call method = right.held? .call method := same
    simp only [answer_call_eq_some_iff, held]

/-- A refused registration might as well not be in a history. -/
theorem ofHistory_of_not_fits {registration : Registration} (unfit : ¬ registration.Fits)
    (earlier later : List Registration) :
    ofHistory (earlier ++ registration :: later) = ofHistory (earlier ++ later) := by
  simp only [ofHistory, List.foldl_append, List.foldl_cons, register_of_not_fits unfit]

/-- For a query about another member, a registration might as well not be in a history. -/
theorem answer_ofHistory_of_other {registration : Registration} {query : Query}
    (other : ¬ (registration.kind = query.kind ∧ registration.member = query.member))
    (earlier later : List Registration) :
    (ofHistory (earlier ++ registration :: later)).answer query =
      (ofHistory (earlier ++ later)).answer query := by
  apply answer_eq_of_held?
  have apart : ¬ registration.Sets query.kind query.member := fun sets => other sets.2
  simp [held?_ofHistory, Registration.last?, apart]

/-- The members that a table holds something for are those for which registrations took effect. -/
theorem isSome_held?_ofHistory_iff (history : List Registration) (kind : Query.Kind)
    (member : Member) :
    ((ofHistory history).held? kind member).isSome = true ↔
      member ∈ Registration.members history kind := by
  rw [held?_ofHistory, Registration.last?, List.getLast?_isSome]
  simp [Registration.mem_members_iff]

/-- A table has as many registrations as there are members for which registrations took effect. -/
theorem size_ofHistory (history : List Registration) :
    (ofHistory history).size =
      (Registration.members history .field).card + (Registration.members history .call).card := by
  have fields : (ofHistory history).fields.keys.toFinset = Registration.members history .field := by
    ext member
    rw [List.mem_toFinset, ← isSome_held?_ofHistory_iff]
    simp [held?, registeredField?, Option.isSome_iff_ne_none, Registry.find?_eq_none_iff]
  have returns : (ofHistory history).returns.keys.toFinset = Registration.members history .call := by
    ext member
    rw [List.mem_toFinset, ← isSome_held?_ofHistory_iff]
    simp [held?, registeredResult?, Option.isSome_iff_ne_none, Registry.find?_eq_none_iff]
  rw [size, Registry.size_eq_length_keys, Registry.size_eq_length_keys, ← fields, ← returns,
    List.toFinset_card_of_nodup (Registry.nodup_keys _),
    List.toFinset_card_of_nodup (Registry.nodup_keys _)]

/-- Tables over whole histories of registrations. A table answers for a field with the value of the last
registration that took effect for it, if the flags in it are static and final and not volatile, and for a
call of at most one argument with the result in the last one for the method. Of a query, neither the type
nor the arguments beyond their number matter, and registrations for other members or of the other kind do
not. A refused registration changes nothing then or later. The table counts the fields and the methods
that a registration took effect for. And a registration takes effect, whatever the table holds, exactly if
it fits its member. -/
theorem history_last_registration (history : List Registration) :
    (∀ type target value, (ofHistory history).answer (.field type target) = some value ↔
      ∃ access, Registration.last? history .field target = some (.field target access value) ∧
        access.has .accStatic = true ∧ access.has .accFinal = true ∧
        access.has .accVolatile = false) ∧
    (∀ type method arguments value,
      (ofHistory history).answer (.call type method arguments) = some value ↔
        arguments.length ≤ 1 ∧
          Registration.last? history .call method = some (.result method value)) ∧
    (∀ query other, query.kind = other.kind → query.member = other.member →
      query.arguments.length = other.arguments.length →
        (ofHistory history).answer query = (ofHistory history).answer other) ∧
    (∀ registration earlier later query, history = earlier ++ registration :: later →
      registration.kind ≠ query.kind ∨ registration.member ≠ query.member →
        (ofHistory history).answer query = (ofHistory (earlier ++ later)).answer query) ∧
    (∀ registration earlier later refusal, history = earlier ++ registration :: later →
      (ofHistory earlier).insert registration = .error refusal →
        ofHistory history = ofHistory (earlier ++ later)) ∧
    (ofHistory history).size =
      (Registration.members history .field).card + (Registration.members history .call).card ∧
    ∀ registration, (∃ changed, (ofHistory history).insert registration = .ok changed) ↔
      registration.Fits := by
  refine ⟨?_, ?_, ?_, ?_, ?_, size_ofHistory history, (ofHistory history).exists_insert_eq_ok_iff⟩
  · intro type target value
    simp only [answer_field_eq_some_iff, held?_ofHistory, Access.isConstant, Bool.and_eq_true,
      Bool.not_eq_true', and_assoc]
  · intro type method arguments value
    rw [answer_call_eq_some_iff, held?_ofHistory]
  · intro query other kinds members lengths
    exact answer_congr _ kinds members lengths
  · rintro registration earlier later query rfl other
    exact answer_ofHistory_of_other (not_and_or.mpr other) earlier later
  · rintro registration earlier later refusal rfl refused
    refine ofHistory_of_not_fits (fun fits => ?_) earlier later
    obtain ⟨changed, inserted⟩ := ((ofHistory earlier).exists_insert_eq_ok_iff registration).mpr fits
    rw [refused] at inserted
    cases inserted

/-- A field that is registered as constant, then as volatile, then with a text that it cannot hold, and at
last as constant again, with a method of the same owner and name in between. -/
theorem history_last_registration_overwritten :
    let field : Member := ⟨"a/B", "c", "I"⟩
    let constant : Registration := .field field ⟨0x18⟩ (.number (.int 3))
    let method : Registration := .result ⟨"a/B", "c", "()I"⟩ (.number (.char 65))
    let volatile : Registration := .field field ⟨0x58⟩ (.number (.int 4))
    let unfit : Registration := .field field ⟨0x18⟩ (.text "a")
    let again : Registration := .field field ⟨0x19⟩ (.number (.int 5))
    let earlier := [constant, method, volatile]
    let read : Query := .field .uninitialized field
    let call : Query := .call .int ⟨"a/B", "c", "()I"⟩ [.ofNumber .int ⟨0⟩ (.int 7)]
    (ofHistory [constant]).answer read = some (.number (.int 3)) ∧
      (ofHistory earlier).answer read = none ∧
      (ofHistory earlier).insert unfit = .error (.unfitFieldValue field .int (.text "a")) ∧
      ofHistory (earlier ++ [unfit, again]) = ofHistory (earlier ++ [again]) ∧
      method.kind ≠ read.kind ∧
      (ofHistory (earlier ++ [unfit, again])).answer read =
        (ofHistory [constant, volatile, unfit, again]).answer read ∧
      (ofHistory (earlier ++ [unfit, again])).answer read = some (.number (.int 5)) ∧
      (ofHistory (earlier ++ [unfit, again])).answer call = some (.number (.char 65)) ∧
      (ofHistory (earlier ++ [unfit, again])).size = 2 := by
  intro field constant method volatile unfit again earlier read call
  obtain ⟨fields, calls, _, others, refusals, size, _⟩ :=
    history_last_registration (earlier ++ [unfit, again])
  obtain ⟨constantFields, _⟩ := history_last_registration [constant]
  have refused : (ofHistory earlier).insert unfit =
      .error (.unfitFieldValue field .int (.text "a")) := by decide
  have apart : method.kind ≠ read.kind := by decide
  refine ⟨?_, by decide, refused, refusals unfit earlier [again] _ rfl refused, apart, ?_, ?_, ?_, ?_⟩
  · exact (constantFields .uninitialized field _).mpr ⟨⟨0x18⟩, by decide⟩
  · exact others method [constant] [volatile, unfit, again] read rfl (Or.inl apart)
  · exact (fields .uninitialized field _).mpr ⟨⟨0x19⟩, by decide⟩
  · exact (calls .int _ _ _).mpr (by decide)
  · rw [size]
    decide

end ConstantTable

end ConstProp
