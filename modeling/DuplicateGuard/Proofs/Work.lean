import DuplicateGuard.Proofs.Result
import DuplicateGuard.Service.Basic

set_option autoImplicit false

namespace DuplicateGuard.Service

variable {α β : Type}

@[simp] theorem run_pure (service : Service) (value : α) :
    service.run (pure value) = (.ok value, service) := rfl

@[simp] theorem run_get (service : Service) : service.run get = (.ok service, service) := rfl

@[simp] theorem run_modify (service : Service) (f : Service → Service) :
    service.run (modify f) = (.ok (), f service) := rfl

@[simp] theorem run_ofExcept (service : Service) (result : Except Failure α) :
    service.run (ofExcept result) = (result, service) := by
  cases result <;> rfl

theorem run_bind (service : Service) (work : Work α) (next : α → Work β) :
    service.run (work >>= next) =
      match service.run work with
      | (.ok value, after) => after.run (next value)
      | (.error failure, after) => (.error failure, after) := by
  simp only [run, ExceptT.run_bind, StateT.run_bind]
  rcases (ExceptT.run work).run service with ⟨_ | _, _⟩ <;> rfl

theorem run_map (service : Service) (f : α → β) (work : Work α) :
    service.run (f <$> work) = ((service.run work).1.map f, (service.run work).2) := by
  rw [map_eq_pure_bind, run_bind]
  rcases service.run work with ⟨_ | _, _⟩ <;> rfl

theorem run_tryCatch (service : Service) (work : Work α) (rescue : Failure → Work α) :
    service.run (tryCatch work rescue) =
      match service.run work with
      | (.ok value, after) => (.ok value, after)
      | (.error failure, after) => after.run (rescue failure) := by
  change (ExceptT.run (ExceptT.tryCatch work rescue)).run service = _
  simp only [run, ExceptT.tryCatch, ExceptT.run, ExceptT.mk, StateT.run_bind]
  rcases StateT.run work service with ⟨_ | _, _⟩ <;> rfl

theorem run_readInBlock (service : Service) (context : ErrorContext)
    (read : Service → Except Failure α) :
    service.run (readInBlock context read) =
      match { service with desk := service.desk.enter context }.attempt context read with
      | .ok value => (.ok value, { service with desk := (service.desk.enter context).leave })
      | .error failure =>
        let (error, desk, journal) := (service.desk.enter context).handle service.ambient
          service.journal failure none
        (.error (.detection (Desk.raise failure error)),
          { service with desk := desk.leave, journal := journal }) := by
  simp only [readInBlock, enterBlock, run_bind, run_modify, run_get]
  cases { service with desk := service.desk.enter context }.attempt context read <;> rfl

def result? (service : Service) (work : Work α) : Option α :=
  (service.run work).1.toOption

@[simp] theorem result?_ofExcept (service : Service) (result : Except Failure α) :
    service.result? (ofExcept result) = result.toOption := by
  rw [result?, run_ofExcept]

@[simp] theorem result?_get (service : Service) : service.result? get = some service := rfl

theorem result?_bind (service : Service) (work : Work α) (next : α → Work β) :
    service.result? (work >>= next) =
      (service.result? work).bind fun value => (service.run work).2.result? (next value) := by
  simp only [result?, run_bind]
  rcases service.run work with ⟨_ | _, _⟩ <;> rfl

theorem result?_eq_some {service : Service} {work : Work α} {value : α} :
    service.result? work = some value ↔ (service.run work).1 = .ok value :=
  toOption_eq_some

/-- One service is another one with more at the desk or in the journal. -/
def OnlyNotes (before after : Service) : Prop :=
  ∃ desk journal, after = { before with desk := desk, journal := journal }

theorem OnlyNotes.refl (service : Service) : OnlyNotes service service :=
  ⟨service.desk, service.journal, rfl⟩

theorem OnlyNotes.trans {first second third : Service} (one : OnlyNotes first second)
    (two : OnlyNotes second third) : OnlyNotes first third := by
  obtain ⟨_, _, rfl⟩ := one
  obtain ⟨desk, journal, rfl⟩ := two
  exact ⟨desk, journal, rfl⟩

def Reads (work : Work α) : Prop :=
  ∀ service, OnlyNotes service (service.run work).2

theorem reads_pure (value : α) : Reads (pure value) := fun service => .refl service

theorem reads_throw (failure : Failure) : Reads (throw failure : Work α) :=
  fun service => .refl service

theorem reads_get : Reads get := fun service => .refl service

theorem reads_ofExcept (result : Except Failure α) : Reads (ofExcept result) := by
  intro service
  rw [run_ofExcept]
  exact .refl service

theorem reads_audit (event : Audit.Event) : Reads (audit event) :=
  fun service => ⟨service.desk, service.journal.addAudit service.ambient event, rfl⟩

theorem reads_log (level : LogLevel) (logger message : String) :
    Reads (log level logger message) :=
  fun service => ⟨service.desk, service.journal.addLog level logger message, rfl⟩

theorem reads_readInBlock (context : ErrorContext) (read : Service → Except Failure α) :
    Reads (readInBlock context read) := by
  intro service
  rw [run_readInBlock]
  split
  · exact ⟨_, _, rfl⟩
  · exact ⟨_, _, rfl⟩

theorem Reads.bind {work : Work α} {next : α → Work β} (first : Reads work)
    (rest : ∀ value, Reads (next value)) : Reads (work >>= next) := by
  intro service
  have here := first service
  rw [run_bind]
  rcases ran : service.run work with ⟨failure | value, middle⟩
  · simpa [ran] using here
  · exact (by simpa [ran] using here : OnlyNotes service middle).trans (rest value middle)

theorem Reads.map {work : Work α} (reads : Reads work) (f : α → β) : Reads (f <$> work) := by
  intro service
  rw [run_map]
  exact reads service

end DuplicateGuard.Service
