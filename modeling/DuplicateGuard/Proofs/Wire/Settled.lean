import DuplicateGuard.Intake

set_option autoImplicit false

namespace DuplicateGuard

namespace Wire

namespace Checked

variable {α β : Type}

def Settled : Checked α → Prop
  | .overflow => False
  | .valid _ | .invalid _ _ => True

theorem Settled.map {x : Checked α} (settled : x.Settled) (f : α → β) : (f <$> x).Settled := by
  cases x with
  | valid | invalid => trivial
  | overflow => exact settled

theorem Settled.seq {f : Checked (α → β)} {x : Checked α} (first : f.Settled) (rest : x.Settled) :
    (f <*> x).Settled := by
  cases f <;> cases x <;> trivial

theorem Settled.andThen {x : Checked α} {next : α → Checked β} (first : x.Settled)
    (rest : ∀ value, (next value).Settled) : (x.andThen next).Settled := by
  cases x with
  | valid value => exact rest value
  | invalid => trivial
  | overflow => exact first

theorem Settled.under {x : Checked α} (settled : x.Settled) (step : Step) :
    (x.under step).Settled := by
  cases x with
  | valid | invalid => trivial
  | overflow => exact settled

end Checked

namespace Read

variable {α : Type}

def Settles (reader : Reader α) : Prop :=
  ∀ input, (reader input).Settled

theorem settles_text : Settles text := by
  intro input
  cases input <;> trivial

theorem settles_truth : Settles truth := by
  intro input
  unfold truth
  split
  · trivial
  · split <;> trivial
  · split
    · trivial
    · split
      · trivial
      · split <;> trivial
  · split
    · split
      · trivial
      · split <;> trivial
    · trivial
  · trivial

theorem settles_integer : Settles integer := by
  intro input
  unfold integer
  split
  · trivial
  · trivial
  · split <;> trivial
  · split
    · trivial
    · split
      · trivial
      · split <;> trivial
  · trivial

theorem settles_positive : Settles positive := by
  intro input
  refine (settles_integer input).andThen fun n => ?_
  split <;> trivial

theorem settles_number : Settles number := by
  intro input
  unfold number
  split
  · trivial
  · split <;> trivial
  · trivial
  · split <;> trivial
  · trivial

theorem settles_unitScore : Settles unitScore := by
  intro input
  refine (settles_number input).andThen fun x => ?_
  unfold boundScore
  split
  · trivial
  · split <;> trivial

theorem settles_choice (choices : List α) (name : α → String) : Settles (choice choices name) := by
  intro input
  unfold choice
  split
  · split <;> trivial
  · trivial

theorem Settles.optional {reader : Reader α} (settles : Settles reader) :
    Settles (Read.optional reader) := by
  intro input
  unfold Read.optional
  split
  · trivial
  · exact (settles _).map some

theorem Settles.itemsFrom {reader : Reader α} (settles : Settles reader) (place : Nat)
    (values : List Json) : (Read.itemsFrom reader place values).Settled := by
  induction values generalizing place with
  | nil => trivial
  | cons value rest ih => exact (((settles value).under _).map _).seq (ih _)

theorem Settles.items {reader : Reader α} (settles : Settles reader) (problem : Problem) :
    Settles (Read.items problem reader) := by
  intro input
  unfold Read.items
  split
  · exact settles.itemsFrom 0 _
  · trivial

theorem Settles.required {reader : Reader α} (settles : Settles reader) (names : List String)
    (fields : Fields) : (Read.required names reader fields).Settled := by
  unfold Read.required
  split
  · exact (settles _).under _
  · trivial

theorem Settles.withDefault {reader : Reader α} (settles : Settles reader) (names : List String)
    (default : α) (fields : Fields) : (Read.withDefault names default reader fields).Settled := by
  unfold Read.withDefault
  split
  · exact (settles _).under _
  · trivial

theorem settled_optionalText (names : List String) (fields : Fields) :
    (optionalText names fields).Settled :=
  settles_text.optional.withDefault names none fields

theorem settles_model {name : String} {build : Fields → Checked α}
    (settles : ∀ fields, (build fields).Settled) : Settles (model name build) := by
  intro input
  unfold model
  split
  · exact settles _
  · trivial

end Read

end Wire

open Wire Wire.Read

theorem Candidate.read_settles : Settles Candidate.read :=
  settles_model fun fields =>
    have texts (names : List String) := settled_optionalText names fields
    have particulars : (readParticulars fields).Settled :=
      ((((texts _).map _).seq (texts _)).seq (texts _)).seq (texts _)
    (particulars.map _).seq (texts _)

theorem Rule.readFields_settles : Settles Rule.readFields := by
  intro input
  refine ((settles_choice CheckField.all CheckField.name).items .notSet input).andThen ?_
  intro fields
  split <;> trivial

theorem Rule.read_settles : Settles Rule.read := by
  refine settles_model fun fields => ?_
  refine .seq (.seq (.seq (.seq (.seq (.seq (.seq (.seq (.seq (.map ?_ _) ?_) ?_) ?_) ?_) ?_) ?_) ?_)
    ?_) ?_
  · exact settles_text.required _ fields
  · exact settles_text.required _ fields
  · exact settles_text.withDefault _ _ fields
  · exact settles_truth.withDefault _ _ fields
  · exact (settles_choice _ _).required _ fields
  · exact settles_unitScore.required _ fields
  · exact Rule.readFields_settles.required _ fields
  · exact settles_truth.withDefault _ _ fields
  · exact settles_positive.optional.withDefault _ _ fields
  · exact settles_integer.withDefault _ _ fields

theorem Policy.read_settles : Settles Policy.read := by
  intro input
  refine Checked.Settled.andThen (settles_model (fun fields => ?_) input) fun policy => ?_
  · refine .seq (.seq (.seq (.seq (.seq (.map ?_ _) ?_) ?_) ?_) ?_) ?_
    · exact settles_truth.withDefault _ _ fields
    · exact (settles_choice _ _).withDefault _ _ fields
    · exact (Rule.read_settles.items _).withDefault _ _ fields
    · exact settles_truth.withDefault _ _ fields
    · exact settles_truth.withDefault _ _ fields
    · exact settles_truth.withDefault _ _ fields
  · split <;> trivial

theorem Policy.accept_error {input : Json} {failure : Failure}
    (refused : Policy.accept input = .error failure) :
    ∃ error field value, failure = .detection error ∧ error.kind = .configuration field value := by
  unfold Policy.accept at refused
  split at refused
  next fields =>
    have settled := Policy.read_settles (.obj fields)
    split at refused
    next => cases refused
    next =>
      cases refused
      exact ⟨_, _, _, rfl, rfl⟩
    next overflow =>
      rw [overflow] at settled
      exact settled.elim
  next =>
    cases refused
    exact ⟨_, _, _, rfl, rfl⟩

theorem Candidate.accept_error {input : Json} {failure : Failure}
    (refused : Candidate.accept input = .error failure) :
    ∃ error field value, failure = .detection error ∧ error.kind = .validation field value := by
  unfold Candidate.accept at refused
  split at refused
  next =>
    cases refused
    exact ⟨_, _, _, rfl, rfl⟩
  next fields _ =>
    have settled := Candidate.read_settles (.obj fields)
    split at refused
    next => cases refused
    next =>
      cases refused
      exact ⟨_, _, _, rfl, rfl⟩
    next overflow =>
      rw [overflow] at settled
      exact settled.elim

end DuplicateGuard
