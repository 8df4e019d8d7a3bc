import MockData.Proofs.Plans

/-!
Plans on a disk that fails. Any step may fail, with any error; the disk is then as it was before
the step, but for a write, which may have got through with a part of the data.
-/
namespace MockData

/-- What a disk may be once an action on it has failed. -/
inductive Disk.Fails (d : Disk) : Action → Disk → Prop
  | clean (a : Action) : d.Fails a d
  | partly {p : Path} {data front back : ByteArray} {d' : Disk} (split : data = front ++ back)
      (written : d.append p front = .ok d') : d.Fails (.append p data) d'

namespace Plan

/-- How a plan may fare when these actions fail, in this order and with these errors, and all
others do what they do on the disk. -/
inductive Fares {ε α : Type} :
    List (Action × DiskError) → Plan ε α → Disk → Except ε α → Disk → Prop
  | done (r : Except ε α) (d : Disk) : Fares [] (.done r) d r d
  | works {faults : List (Action × DiskError)} {a : Action}
      {next : Except DiskError a.Result → Plan ε α} {d d' : Disk} {r : Except ε α}
      (later : Fares faults (next (d.perform a).1) (d.perform a).2 r d') :
      Fares faults (.act a next) d r d'
  | fails {faults : List (Action × DiskError)} {a : Action}
      {next : Except DiskError a.Result → Plan ε α} {d d₁ d' : Disk} {r : Except ε α}
      {e : DiskError} (failed : d.Fails a d₁) (later : Fares faults (next (.error e)) d₁ r d') :
      Fares ((a, e) :: faults) (.act a next) d r d'

inductive Stops (d : Disk) (a : Action) : List (Action × DiskError) → DiskError → Disk → Prop
  | own {e : DiskError} (refused : (d.perform a).1 = .error e) : Stops d a [] e d
  | struck {e : DiskError} {d' : Disk} (failed : d.Fails a d') : Stops d a [(a, e)] e d'

variable {ε α β : Type} {faults : List (Action × DiskError)} {d d' : Disk} {a : Action}
  {p : Plan ε α} {r : Except ε α} {e : DiskError}

theorem Stops.fails (stops : Stops d a faults e d') : d.Fails a d' := by
  cases stops with
  | own _ => exact .clean a
  | struck failed => exact failed

theorem Stops.of_single {b : Action} {e' : DiskError} (stops : Stops d b [(a, e)] e' d') :
    a = b ∧ e' = e ∧ d.Fails a d' := by
  cases stops with
  | struck failed => exact ⟨rfl, rfl, failed⟩

theorem perform_of_error (refused : (d.perform a).1 = .error e) : (d.perform a).2 = d := by
  have keeps : ∀ r : Except DiskError Disk, (d.changed r).1 = .error e → (d.changed r).2 = d := by
    intro r refused
    cases r with
    | ok d₁ => cases refused
    | error e₁ => rfl
  cases a with
  | read p | probe p | isDirectory p | canonical p | sync p | elapsed => rfl
  | makeDirectory p | create p | append p data | rename old new | remove p =>
    exact keeps _ refused

namespace Fares

theorem nil_iff : Fares [] p d r d' ↔ p.run d = (r, d') := by
  induction p generalizing d with
  | done r₁ =>
    constructor
    · rintro ⟨⟩
      rfl
    · intro ran
      obtain ⟨rfl, rfl⟩ := Prod.mk.inj ran
      exact .done _ _
  | act a next ih =>
    constructor
    · rintro (_ | later)
      exact (ih _).mp later
    · intro ran
      exact .works ((ih _).mpr ran)

theorem of_done {r₁ : Except ε α} (fares : Fares faults (.done r₁) d r d') :
    faults = [] ∧ r = r₁ ∧ d' = d := by
  cases fares
  exact ⟨rfl, rfl, rfl⟩

theorem of_bind {f : α → Plan ε β} {r : Except ε β} (fares : Fares faults (p >>= f) d r d') :
    (∃ e, r = .error e ∧ Fares faults p d (.error e) d') ∨
    ∃ fs gs a d₁, faults = fs ++ gs ∧ Fares fs p d (.ok a) d₁ ∧ Fares gs (f a) d₁ r d' := by
  induction p generalizing d faults with
  | done r₁ =>
    cases r₁ with
    | ok a => exact .inr ⟨[], faults, a, d, rfl, .done _ d, fares⟩
    | error e =>
      obtain ⟨rfl, rfl, rfl⟩ := of_done fares
      exact .inl ⟨e, rfl, .done _ _⟩
  | act a next ih =>
    cases fares with
    | works later =>
      rcases ih _ later with ⟨e, ended, first⟩ | ⟨fs, gs, b, d₁, split, first, last⟩
      · exact .inl ⟨e, ended, .works first⟩
      · exact .inr ⟨fs, gs, b, d₁, split, .works first, last⟩
    | fails failed later =>
      rcases ih _ later with ⟨e, ended, first⟩ | ⟨fs, gs, b, d₁, rfl, first, last⟩
      · exact .inl ⟨e, ended, .fails failed first⟩
      · exact .inr ⟨_ :: fs, gs, b, d₁, rfl, .fails failed first, last⟩

theorem of_act {next : Except DiskError a.Result → Plan ε α}
    (fares : Fares faults (.act a next) d r d') :
    (∃ x d₁, d.perform a = (.ok x, d₁) ∧ Fares faults (next (.ok x)) d₁ r d') ∨
    ∃ e fs gs d₁, faults = fs ++ gs ∧ Stops d a fs e d₁ ∧ Fares gs (next (.error e)) d₁ r d' := by
  cases fares with
  | works later =>
    cases outcome : (d.perform a).1 with
    | ok x =>
      rw [outcome] at later
      exact .inl ⟨x, _, Prod.ext outcome rfl, later⟩
    | error e =>
      rw [outcome, perform_of_error outcome] at later
      exact .inr ⟨e, [], faults, d, rfl, .own outcome, later⟩
  | fails failed later => exact .inr ⟨_, [_], _, _, rfl, .struck failed, later⟩

theorem of_attempt_bind {f : Except DiskError a.Result → Plan ε α}
    (fares : Fares faults (attempt a >>= f) d r d') :
    (∃ x d₁, d.perform a = (.ok x, d₁) ∧ Fares faults (f (.ok x)) d₁ r d') ∨
    ∃ e fs gs d₁, faults = fs ++ gs ∧ Stops d a fs e d₁ ∧ Fares gs (f (.error e)) d₁ r d' :=
  of_act fares

theorem of_perform_bind {f : a.Result → Plan DiskError β} {r : Except DiskError β}
    (fares : Fares faults (perform a >>= f) d r d') :
    (∃ x d₁, d.perform a = (.ok x, d₁) ∧ Fares faults (f x) d₁ r d') ∨
    ∃ e, r = .error e ∧ Stops d a faults e d' := by
  rcases of_act fares with worked | ⟨e, fs, gs, d₁, rfl, stops, last⟩
  · exact .inl worked
  · obtain ⟨rfl, rfl, rfl⟩ := of_done last
    rw [List.append_nil]
    exact .inr ⟨e, rfl, stops⟩

theorem of_perform {r : Except DiskError a.Result} (fares : Fares faults (perform a) d r d') :
    (∃ x, faults = [] ∧ d.perform a = (.ok x, d')) ∨ ∃ e, Stops d a faults e d' := by
  rcases of_act fares with ⟨x, d₁, worked, last⟩ | ⟨e, fs, gs, d₁, rfl, stops, last⟩
  · obtain ⟨rfl, -, rfl⟩ := of_done last
    exact .inl ⟨x, rfl, worked⟩
  · obtain ⟨rfl, -, rfl⟩ := of_done last
    rw [List.append_nil]
    exact .inr ⟨e, stops⟩

end Fares

namespace Only

variable {allowed : Action → Prop}

theorem of_mem_faults (only : p.Only allowed) (fares : Fares faults p d r d') :
    ∀ fault ∈ faults, allowed fault.1 := by
  induction fares with
  | done r d => simp
  | works _ ih => exact ih (only.2 _)
  | fails _ _ ih => exact List.forall_mem_cons.mpr ⟨only.1, ih (only.2 _)⟩

theorem fares_keeps (only : p.Only allowed) (kept : Disk → Prop)
    (step : ∀ d a, allowed a → kept d → kept (d.perform a).2)
    (stop : ∀ d a d', allowed a → kept d → d.Fails a d' → kept d')
    (fares : Fares faults p d r d') (start : kept d) : kept d' := by
  induction fares with
  | done r d => exact start
  | works _ ih => exact ih (only.2 _) (step _ _ only.1 start)
  | fails failed _ ih => exact ih (only.2 _) (stop _ _ _ only.1 start failed)

end Only

end Plan

end MockData
