import MockData.Script.Lexing

/-!
Texts without a brace of the code, and texts that leave the lexer in code as they found it. A
module is put together from pieces of the second kind and from the braces between them.
-/
namespace MockData.Script

namespace Mode

def isQuiet : Mode → List Char → Bool
  | _, [] => true
  | m, c :: cs => !(m.isCode && (c == '{' || c == '}')) && isQuiet (m.next c) cs

theorem isQuiet_append (m : Mode) (a b : List Char) :
    m.isQuiet (a ++ b) = (m.isQuiet a && (m.run a).isQuiet b) := by
  induction a generalizing m with
  | nil => rfl
  | cons c a ih => simp [isQuiet, ih, Bool.and_assoc]

theorem next_of_isCode {m : Mode} (code : m.isCode) {c : Char} (slash : c ≠ '/') (star : c ≠ '*') :
    m.next c = Mode.code.next c := by
  cases m <;> simp_all [isCode, next]

end Mode

structure Passes (cs : List Char) : Prop where
  quiet : Mode.code.isQuiet cs
  run_code : Mode.code.run cs = .code

instance (cs : List Char) : Decidable (Passes cs) :=
  decidable_of_iff (Mode.code.isQuiet cs ∧ Mode.code.run cs = .code)
    ⟨fun h => ⟨h.1, h.2⟩, fun h => ⟨h.quiet, h.run_code⟩⟩

def isPlain (c : Char) : Bool := !isQuote c && c != '/' && c != '{' && c != '}'

def marks : List Char := ['"', '\'', '`', '/', '{', '}']

theorem isPlain_of_class {p : Char → Bool} (apart : marks.all (!p ·)) {c : Char} (holds : p c) :
    isPlain c := by
  have differs : ∀ d ∈ marks, c ≠ d := by
    rintro d member rfl
    have other := List.all_eq_true.mp apart c member
    rw [holds] at other
    cases other
  simp only [marks, List.forall_mem_cons] at differs
  simp [isPlain, isQuote, differs]

/-- Whether no character of a name means anything to the lexer. Every identifier is such a name,
whatever letters are in it. -/
def isName (s : String) : Bool := s.toList.all isPlain

theorem next_code_of_isPlain {c : Char} (plain : isPlain c) : Mode.code.next c = .code := by
  simp only [isPlain, Bool.and_eq_true, Bool.not_eq_true', bne_iff_ne] at plain
  simp [Mode.next, Mode.fromCode, plain]

namespace Passes

theorem nil : Passes [] := ⟨rfl, rfl⟩

theorem append {a b : List Char} (ha : Passes a) (hb : Passes b) : Passes (a ++ b) where
  quiet := by simp [Mode.isQuiet_append, ha.quiet, ha.run_code, hb.quiet]
  run_code := by rw [Mode.run_append, ha.run_code, hb.run_code]

theorem of_isPlain {cs : List Char} (plain : ∀ c ∈ cs, isPlain c) : Passes cs := by
  induction cs with
  | nil => exact nil
  | cons c cs ih =>
    have hc := plain c (by simp)
    have rest := ih (fun d member => plain d (by simp [member]))
    have stays := next_code_of_isPlain hc
    refine ⟨?_, by rw [Mode.run_cons, stays, rest.run_code]⟩
    simp only [isPlain, Bool.and_eq_true, bne_iff_ne] at hc
    simp [Mode.isQuiet, stays, rest.quiet, hc]

theorem of_isName {s : String} (name : isName s) : Passes s.toList :=
  of_isPlain (List.all_eq_true.mp name)

end Passes

end MockData.Script
