import Mathlib.Data.List.Forall2
import MockData.Proofs.Contents
import MockData.Proofs.Helpers

/-!
A store beside the functions of a module. The same sequence of requests is made as calls to the
one and asked of the other; what both have in common, and that it lasts over a run when it does
over one request, is said here for any store.
-/
namespace MockData

theorem modifyFirst_map {α β : Type} {p : β → Bool} {g : α → β} {f : β → β} {h : α → α}
    {as : List α} (same : ∀ a, as.find? (p ∘ g) = some a → f (g a) = g (h a)) :
    modifyFirst p f (as.map g) = (modifyFirst (p ∘ g) h as).map g := by
  induction as with
  | nil => rfl
  | cons b as ih =>
    by_cases passes : p (g b)
    · have first := same b (by simp [passes])
      simp [modifyFirst, passes, first]
    · have later := ih fun a found => same a (by simpa [passes] using found)
      simp [modifyFirst, passes, later]

namespace Script

namespace Entries

def object (es : Entries) : Bindings := es.map fun e => (e.1, e.2.meaning)

def present (es : List (String × Option Literal)) : Entries :=
  es.filterMap fun e => e.2.map (e.1, ·)

theorem spread_present_cons {o : Bindings} {name : String} (now : Literal)
    (there : o.get? name = some now.meaning) (l : Option Literal)
    (es : List (String × Option Literal)) : o.spread (object (present ((name, l) :: es))) =
      (o.put name (l.getD now).meaning).spread (object (present es)) := by
  cases l with
  | none => simp [present, object, Bindings.spread, Bindings.put_of_get? there]
  | some l => simp [present, object, Bindings.spread]

end Entries

theorem meaning_getD {β : Type} (write : β → Literal) (o : Option β) (b : β) :
    ((o.map write).getD (write b)).meaning = (write (o.getD b)).meaning := by
  cases o <;> rfl

/-- Requests to a store of type `σ` as calls, and what records and answers look like to callers. -/
structure Companion (σ ρ α : Type) where
  answer : σ → ρ → α × σ
  objects : σ → List Bindings
  call : ρ → Call
  Allows : σ → ρ → Prop
  Tells : Machine → Value → α → Prop

namespace Companion

variable {σ ρ α : Type} (c : Companion σ ρ α)

def replies : σ → List ρ → List (α × σ)
  | _, [] => []
  | s, r :: rs => c.answer s r :: replies (c.answer s r).2 rs

def AllowsAll : σ → List ρ → Prop
  | _, [] => True
  | s, r :: rs => c.Allows s r ∧ AllowsAll (c.answer s r).2 rs

instance decidableAllowsAll [∀ s r, Decidable (c.Allows s r)] :
    ∀ s rs, Decidable (c.AllowsAll s rs)
  | _, [] => .isTrue trivial
  | s, r :: rs => @instDecidableAnd _ _ _ (decidableAllowsAll (c.answer s r).2 rs)

structure Agrees (e : Value × Machine) (f : α × σ) : Prop where
  tells : c.Tells e.2 e.1 f.1
  holds : e.2.Holds (c.objects f.2)

end Companion

variable {σ ρ α : Type} {c : Companion σ ρ α}

def Contents.program (contents : Contents) : Program := ⟨contents.list, contents.functions⟩

def Contents.machine (contents : Contents) : Machine := .load (contents.records.map Entries.object)

/-- A module starts with the records of a store, and from there on its calls agree with the answers
of the store one by one. -/
structure Contents.Mirrors (contents : Contents) (depth : Nat) (c : Companion σ ρ α) (s : σ)
    (rs : List ρ) : Prop where
  records : contents.records.map Entries.object = c.objects s
  outcomes : ∃ outcomes,
    contents.program.answers depth contents.machine (rs.map c.call) = some outcomes ∧
      List.Forall₂ c.Agrees outcomes (c.replies s rs)

theorem Program.agrees_of_step {p : Program} {depth : Nat}
    (step : ∀ m s r, m.Holds (c.objects s) → c.Allows s r →
      ∃ e, p.answer depth m (c.call r) = some e ∧ c.Agrees e (c.answer s r))
    {s : σ} {rs : List ρ} (allowed : c.AllowsAll s rs) {m : Machine}
    (holds : m.Holds (c.objects s)) : ∃ outcomes,
      p.answers depth m (rs.map c.call) = some outcomes ∧
        List.Forall₂ c.Agrees outcomes (c.replies s rs) := by
  induction rs generalizing s m with
  | nil => exact ⟨[], rfl, .nil⟩
  | cons r rs ih =>
    obtain ⟨e, answered, agrees⟩ := step m s r holds allowed.1
    obtain ⟨outcomes, later, agree⟩ := ih allowed.2 agrees.holds
    refine ⟨e :: outcomes, ?_, .cons agrees agree⟩
    simp [answers, answered, later]

theorem Contents.mirrors_of_step {contents : Contents} {p : Program} {depth : Nat}
    (program : contents.program = p)
    (step : ∀ m s r, m.Holds (c.objects s) → c.Allows s r →
      ∃ e, p.answer depth m (c.call r) = some e ∧ c.Agrees e (c.answer s r))
    {s : σ} {rs : List ρ} (records : contents.records.map Entries.object = c.objects s)
    (allowed : c.AllowsAll s rs) : contents.Mirrors depth c s rs where
  records := records
  outcomes := by
    rw [program, machine, records]
    exact Program.agrees_of_step step allowed (Machine.holds_load _)

def Exposes {α : Type} (g : α → Bindings) (field : String) (get : α → String) : Prop :=
  ∀ a, (g a).get? field = some (.text (get a))

namespace Exposes

variable {α : Type} {g : α → Bindings} {field s : String} {get : α → String} {as : List α}

theorem has_comp (exposes : Exposes g field get) :
    (fun o : Bindings => o.has field s) ∘ g = fun a => decide (get a = s) := by
  funext a
  simp [Bindings.has, exposes a]

theorem find? (exposes : Exposes g field get) : (as.map g).find? (·.has field s) =
    (as.find? (get · = s)).map g := by
  rw [List.find?_map, exposes.has_comp]

theorem filter (exposes : Exposes g field get) : (as.map g).filter (·.has field s) =
    (as.filter (get · = s)).map g := by
  rw [List.filter_map, exposes.has_comp]

theorem eraseP (exposes : Exposes g field get) : (as.map g).eraseP (·.has field s) =
    (as.eraseP (get · = s)).map g := by
  rw [List.eraseP_map, exposes.has_comp]

theorem modifyFirst (exposes : Exposes g field get) {f : Bindings → Bindings} {h : α → α}
    (same : ∀ a, as.find? (get · = s) = some a → f (g a) = g (h a)) :
    MockData.modifyFirst (·.has field s) f (as.map g) =
      (MockData.modifyFirst (get · = s) h as).map g := by
  rw [modifyFirst_map (h := h) (exposes.has_comp ▸ same), exposes.has_comp]

end Exposes

end Script

end MockData
