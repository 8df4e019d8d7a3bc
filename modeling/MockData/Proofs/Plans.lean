import MockData.Disk.Plan

/-!
Running plans step by step: what a run of a composed plan is made of, what each step of one that
succeeds has answered, and what a run keeps because every action that it may come to keeps it.
-/
namespace MockData

def Action.isQuery : Action → Bool
  | .read _ | .probe _ | .isDirectory _ | .canonical _ | .sync _ | .elapsed => true
  | .makeDirectory _ | .create _ | .append .. | .rename .. | .remove _ => false

theorem Disk.perform_of_isQuery (d : Disk) {a : Action} (query : a.isQuery) :
    (d.perform a).2 = d := by
  cases a with
  | read p | probe p | isDirectory p | canonical p | sync p | elapsed => rfl
  | makeDirectory p | create p | append p data | rename old new | remove p => cases query

namespace Plan

variable {ε ε' α β : Type}

@[simp] theorem run_pure (d : Disk) (a : α) : (pure a : Plan ε α).run d = (.ok a, d) := rfl

@[simp] theorem run_fail (d : Disk) (e : ε) : (fail e : Plan ε α).run d = (.error e, d) := rfl

@[simp] theorem run_attempt (d : Disk) (a : Action) :
    (attempt a : Plan ε _).run d = (.ok (d.perform a).1, (d.perform a).2) := rfl

theorem run_mapError (d : Disk) (p : Plan ε α) (f : ε → ε') :
    (p.mapError f).run d = ((p.run d).1.mapError f, (p.run d).2) := by
  induction p generalizing d with
  | done r => rfl
  | act a next ih => exact ih _ _

theorem run_settle (d : Disk) (p : Plan ε α) (f : Except ε α → β) :
    (p.settle f : Plan ε' β).run d = (.ok (f (p.run d).1), (p.run d).2) := by
  induction p generalizing d with
  | done r => rfl
  | act a next ih => exact ih _ _

theorem exists_run {d : Disk} {p : Plan ε α} {a : α} (ended : (p.run d).1 = .ok a) :
    ∃ d', p.run d = (.ok a, d') := ⟨(p.run d).2, Prod.ext ended rfl⟩

theorem run_bind_eq_ok {d d' : Disk} {p : Plan ε α} {f : α → Plan ε β} {b : β}
    (ran : (p >>= f).run d = (.ok b, d')) :
    ∃ a d₁, p.run d = (.ok a, d₁) ∧ (f a).run d₁ = (.ok b, d') := by
  have split := run_bind d p f
  cases first : p.run d with
  | mk r d₁ =>
    rw [first] at split
    cases r with
    | ok a => exact ⟨a, d₁, rfl, split.symm.trans ran⟩
    | error e => exact absurd (split.symm.trans ran) (by simp)

theorem run_bind_of_ok {d d₁ : Disk} {p : Plan ε α} {f : α → Plan ε β} {a : α}
    (first : p.run d = (.ok a, d₁)) : (p >>= f).run d = (f a).run d₁ := by
  have split := run_bind d p f
  rw [first] at split
  exact split

theorem run_bind_of_error {d d₁ : Disk} {p : Plan ε α} {f : α → Plan ε β} {e : ε}
    (first : p.run d = (.error e, d₁)) : (p >>= f).run d = (.error e, d₁) := by
  have split := run_bind d p f
  rw [first] at split
  exact split

theorem run_bind_eq_error {d d' : Disk} {p : Plan ε α} {f : α → Plan ε β} {e : ε}
    (ran : (p >>= f).run d = (.error e, d')) : p.run d = (.error e, d') ∨
      ∃ a d₁, p.run d = (.ok a, d₁) ∧ (f a).run d₁ = (.error e, d') := by
  cases first : p.run d with
  | mk r d₁ =>
    cases r with
    | ok a =>
      rw [run_bind_of_ok first] at ran
      exact .inr ⟨a, d₁, rfl, ran⟩
    | error e₁ =>
      rw [run_bind_of_error first] at ran
      obtain ⟨outcome, rfl⟩ := Prod.mk.inj ran
      obtain rfl : e₁ = e := Except.error.inj outcome
      exact .inl rfl

theorem run_mapError_eq_error {d d' : Disk} {p : Plan ε α} {f : ε → ε'} {e : ε'}
    (ran : (p.mapError f).run d = (.error e, d')) :
    ∃ cause, f cause = e ∧ p.run d = (.error cause, d') := by
  rw [run_mapError] at ran
  cases first : p.run d with
  | mk r d₁ =>
    rw [first] at ran
    obtain ⟨outcome, rfl⟩ := Prod.mk.inj ran
    cases r with
    | ok a => cases outcome
    | error cause => exact ⟨cause, Except.error.inj outcome, rfl⟩

theorem run_mapError_eq_ok {d d' : Disk} {p : Plan ε α} {f : ε → ε'} {a : α}
    (ran : (p.mapError f).run d = (.ok a, d')) : p.run d = (.ok a, d') := by
  rw [run_mapError] at ran
  cases first : p.run d with
  | mk r d₁ =>
    rw [first] at ran
    cases r with
    | ok b =>
      obtain ⟨same, rfl⟩ := Prod.mk.inj ran
      obtain rfl : b = a := Except.ok.inj same
      rfl
    | error e => cases (Prod.mk.inj ran).1

/-- Every action that the plan may come to is an allowed one. -/
def Only (allowed : Action → Prop) : Plan ε α → Prop
  | done _ => True
  | act a next => allowed a ∧ ∀ r, (next r).Only allowed

namespace Only

variable {allowed : Action → Prop} {p : Plan ε α}

theorem bind {f : α → Plan ε β} (only : p.Only allowed) (later : ∀ a, (f a).Only allowed) :
    (p >>= f).Only allowed := by
  induction p with
  | done r =>
    cases r with
    | ok a => exact later a
    | error e => exact trivial
  | act a next ih => exact ⟨only.1, fun r => ih r (only.2 r)⟩

theorem mapError {f : ε → ε'} (only : p.Only allowed) : (p.mapError f).Only allowed := by
  induction p with
  | done r => exact trivial
  | act a next ih => exact ⟨only.1, fun r => ih r (only.2 r)⟩

theorem attempt {a : Action} (ok : allowed a) : (attempt a : Plan ε _).Only allowed :=
  ⟨ok, fun _ => trivial⟩

theorem perform {a : Action} (ok : allowed a) : (perform a).Only allowed :=
  ⟨ok, fun _ => trivial⟩

theorem run_keeps (only : p.Only allowed) (kept : Disk → Prop)
    (step : ∀ d a, allowed a → kept d → kept (d.perform a).2) {d : Disk} (start : kept d) :
    kept (p.run d).2 := by
  induction p generalizing d with
  | done r => exact start
  | act a next ih => exact ih _ (only.2 _) (step d a only.1 start)

theorem run_of_isQuery (only : p.Only (·.isQuery)) (d : Disk) : (p.run d).2 = d := by
  refine only.run_keeps (· = d) ?_ rfl
  rintro _ a query rfl
  exact Disk.perform_of_isQuery _ query

theorem run_bind (only : p.Only (·.isQuery)) (f : α → Plan ε β) (d : Disk) :
    (p >>= f).run d = match (p.run d).1 with
      | .ok a => (f a).run d
      | .error e => (.error e, d) := by
  have same := only.run_of_isQuery d
  cases first : p.run d with
  | mk r d₁ =>
    rw [first] at same
    obtain rfl : d₁ = d := same
    cases r with
    | ok a => exact run_bind_of_ok first
    | error e => exact run_bind_of_error first

theorem run_bind_snd {f : α → Plan ε β} (only : ∀ a, (f a).Only (·.isQuery)) (d : Disk) :
    ((p >>= f).run d).2 = (p.run d).2 := by
  cases first : p.run d with
  | mk r d₁ =>
    cases r with
    | ok a => rw [run_bind_of_ok first, (only a).run_of_isQuery]
    | error e => rw [run_bind_of_error first]

end Only

end Plan

end MockData
