import MockData.Proofs.Bodies
import MockData.Text.Digit

/-!
What a string literal in double quotes means in a module. Its value is a sequence of sixteen-bit
units, and an escape may be a letter, a null, two or four hexadecimal digits, a code point between
braces, or the end of a line, which stands for nothing. A quoted text is a literal that means this
text, and it needs few of these.
-/
namespace MockData.Script

open Text

def isLineEnd (c : Char) : Bool :=
  c = '\n' || c = '\r' || c.toNat = 0x2028 || c.toNat = 0x2029

def namedCharacter : Char → Char
  | 'b' => '\x08'
  | 't' => '\t'
  | 'n' => '\n'
  | 'v' => '\x0b'
  | 'f' => '\x0c'
  | 'r' => '\r'
  | c => c

def codePointEscape (cs : List Char) : Option (List Nat × List Char) :=
  match cs.takeWhile (· ≠ '}'), cs.dropWhile (· ≠ '}') with
  | [], _ | _, [] => none
  | digits, _ :: rest => (hexValue? digits).bind fun n =>
    if n ≤ 0x10FFFF then some (unitsOfNat n, rest) else none

/-- Reads an escape from behind its backslash. No digit but a null that no further digit follows
is one. -/
def escapeSequence : List Char → Option (List Nat × List Char)
  | [] => none
  | 'x' :: a :: b :: rest => (hexValue? [a, b]).map fun n => ([n], rest)
  | 'u' :: '{' :: rest => codePointEscape rest
  | 'u' :: a :: b :: c :: d :: rest => (hexValue? [a, b, c, d]).map fun n => ([n], rest)
  | '\r' :: '\n' :: rest => some ([], rest)
  | c :: rest =>
    if isLineEnd c then some ([], rest)
    else if c = '0' ∧ rest.head?.any isAsciiDigit = false then some ([0], rest)
    else if isAsciiDigit c || c = 'x' || c = 'u' then none
    else some (unitsOf (namedCharacter c), rest)

theorem length_lt_of_codePointEscape {cs rest : List Char} {us : List Nat}
    (read : codePointEscape cs = some (us, rest)) : rest.length < cs.length := by
  rw [codePointEscape] at read
  split at read
  · cases read
  · cases read
  · rename_i brace rest' behind _
    obtain ⟨n, -, found⟩ := Option.bind_eq_some_iff.mp read
    split at found
    · cases found
      have suffix : brace :: rest <:+ cs := behind ▸ List.dropWhile_suffix _
      exact suffix.length_le
    · cases found

theorem length_lt_of_escapeSequence {cs rest : List Char} {us : List Nat}
    (read : escapeSequence cs = some (us, rest)) : rest.length < cs.length := by
  rw [escapeSequence.eq_def] at read
  split at read
  case h_1 => cases read
  case h_3 =>
    have shorter := length_lt_of_codePointEscape read
    simp only [List.length_cons]
    omega
  case h_6 =>
    split at read
    · cases read
      exact Nat.lt_succ_self _
    · split at read
      · cases read
        exact Nat.lt_succ_self _
      · split at read
        · cases read
        · cases read
          exact Nat.lt_succ_self _
  case h_5 =>
    cases read
    simp only [List.length_cons]
    omega
  -- What is left are the escapes of two and four digits.
  all_goals
    obtain ⟨n, -, found⟩ := Option.map_eq_some_iff.mp read
    cases found
    simp only [List.length_cons]
    omega

def literalUnits (cs : List Char) : Option (List Nat) :=
  match cs with
  | [] => none
  | c :: rest =>
    if c = '"' then if rest = [] then some [] else none
    else if c = '\\' then
      match read : escapeSequence rest with
      | some (us, behind) =>
        have := length_lt_of_escapeSequence read
        (literalUnits behind).map (us ++ ·)
      | none => none
    else if c = '\n' ∨ c = '\r' then none
    else (literalUnits rest).map (unitsOf c ++ ·)
termination_by cs.length

def stringValue? : List Char → Option (List Nat)
  | '"' :: cs => literalUnits cs
  | _ => none

def isForbidden (c : Char) : Bool :=
  c.toNat < 0x20 || c.toNat = 0x7F || c.toNat = 0x2028 || c.toNat = 0x2029

/-- Bodies in which every backslash starts one of nine escapes, and a quote stands behind a
backslash only. -/
inductive WellEscaped : List Char → Prop
  | nil : WellEscaped []
  | raw {c : Char} {cs : List Char} (notQuote : c ≠ '"') (notEscape : c ≠ '\\')
      (allowed : isForbidden c = false) (later : WellEscaped cs) : WellEscaped (c :: cs)
  | short {e : Char} {cs : List Char} (named : e ∈ ['\\', '"', 'n', 'r', 't', 'b', 'f', 'v'])
      (later : WellEscaped cs) : WellEscaped ('\\' :: e :: cs)
  | unit {a b c d : Char} {n : Nat} {cs : List Char} (digits : hexValue? [a, b, c, d] = some n)
      (later : WellEscaped cs) : WellEscaped ('\\' :: 'u' :: a :: b :: c :: d :: cs)

theorem quoteChar_forms (c : Char) :
    (quoteChar c = [c] ∧ c ≠ '"' ∧ c ≠ '\\' ∧ isForbidden c = false) ∨
    (∃ e ∈ ['\\', '"', 'n', 'r', 't', 'b', 'f', 'v'],
      quoteChar c = ['\\', e] ∧ namedCharacter e = c) ∨
    (quoteChar c = '\\' :: 'u' :: hex4 c.toNat ∧ c.toNat < 0x10000) := by
  unfold quoteChar
  split
  case h_9 notEscape notQuote _ _ _ _ _ _ =>
    split
    · rename_i named
      simp only [Bool.or_eq_true, decide_eq_true_eq] at named
      exact .inr (.inr ⟨rfl, by omega⟩)
    · rename_i unnamed
      exact .inl ⟨rfl, notQuote, notEscape, Bool.eq_false_iff.mpr unnamed⟩
  all_goals exact .inr (.inl ⟨_, by decide, rfl, by decide⟩)

theorem wellEscaped_quoteBody (cs : List Char) : WellEscaped (quoteBody cs) := by
  induction cs with
  | nil => exact .nil
  | cons c cs ih =>
    rw [quoteBody, List.flatMap_cons]
    rcases quoteChar_forms c with ⟨eq, notQuote, notEscape, allowed⟩ | ⟨e, named, eq, -⟩ |
      ⟨eq, small⟩
    · rw [eq]
      exact .raw notQuote notEscape allowed ih
    · rw [eq]
      exact .short named ih
    · rw [eq]
      exact .unit (hexValue?_hex4 small) ih

theorem isForbidden_of_hexDigit? {c : Char} {n : Nat} (digit : hexDigit? c = some n) :
    isForbidden c = false := by
  have bounds := (hexDigit?_eq_some digit).2
  simp [isForbidden]
  omega

theorem WellEscaped.isForbidden {body : List Char} (escaped : WellEscaped body) :
    ∀ c ∈ body, isForbidden c = false := by
  induction escaped with
  | nil => simp
  | raw _ _ allowed _ ih => exact List.forall_mem_cons.mpr ⟨allowed, ih⟩
  | short named _ ih =>
    refine List.forall_mem_cons.mpr ⟨rfl, List.forall_mem_cons.mpr ⟨?_, ih⟩⟩
    simp only [List.mem_cons, List.not_mem_nil, or_false] at named
    rcases named with rfl | rfl | rfl | rfl | rfl | rfl | rfl | rfl <;> rfl
  | @unit a b c d n cs digits _ ih =>
    have allowed : ∀ e ∈ [a, b, c, d], Script.isForbidden e = false := by
      intro e member
      obtain ⟨m, digit⟩ := (hexValue?_eq_some digits).1 e member
      exact isForbidden_of_hexDigit? digit
    exact List.forall_mem_cons.mpr ⟨rfl, List.forall_mem_cons.mpr ⟨rfl,
      List.forall_mem_append.mpr ⟨allowed, ih⟩⟩⟩

theorem escapeSequence_unit {a b c d : Char} {n : Nat} (digits : hexValue? [a, b, c, d] = some n)
    (rest : List Char) :
    escapeSequence ('u' :: a :: b :: c :: d :: rest) = some ([n], rest) := by
  have notBrace : a ≠ '{' := by
    rintro rfl
    cases digits
  rw [escapeSequence, digits, Option.map_some]
  exact notBrace

theorem escapeSequence_named {e : Char} (named : e ∈ ['\\', '"', 'n', 'r', 't', 'b', 'f', 'v'])
    (rest : List Char) : escapeSequence (e :: rest) = some (unitsOf (namedCharacter e), rest) := by
  simp only [List.mem_cons, List.not_mem_nil, or_false] at named
  rcases named with rfl | rfl | rfl | rfl | rfl | rfl | rfl | rfl <;> rfl

theorem literalUnits_escape {cs rest : List Char} {us : List Nat}
    (read : escapeSequence cs = some (us, rest)) :
    literalUnits ('\\' :: cs) = (literalUnits rest).map (us ++ ·) := by
  rw [literalUnits, if_neg (by decide), if_pos rfl]
  split
  · rename_i us' behind found
    cases found.symm.trans read
    rfl
  · rename_i nothing
    cases nothing.symm.trans read

theorem literalUnits_raw {c : Char} (notQuote : c ≠ '"') (notEscape : c ≠ '\\')
    (allowed : isForbidden c = false) (cs : List Char) :
    literalUnits (c :: cs) = (literalUnits cs).map (unitsOf c ++ ·) := by
  have notLineEnd : ¬ (c = '\n' ∨ c = '\r') := by
    rintro (rfl | rfl)
    · cases allowed
    · cases allowed
  rw [literalUnits]
  simp [notQuote, notEscape, notLineEnd]

theorem unitsOf_of_lt {c : Char} (small : c.toNat < 0x10000) : unitsOf c = [c.toNat] :=
  if_pos small

theorem literalUnits_quoteChar (c : Char) (cs : List Char) :
    literalUnits (quoteChar c ++ cs) = (literalUnits cs).map (unitsOf c ++ ·) := by
  rcases quoteChar_forms c with ⟨eq, notQuote, notEscape, allowed⟩ | ⟨e, named, eq, meaning⟩ |
    ⟨eq, small⟩
  · rw [eq]
    exact literalUnits_raw notQuote notEscape allowed cs
  · rw [eq, ← meaning]
    exact literalUnits_escape (escapeSequence_named named cs)
  · rw [eq, unitsOf_of_lt small]
    exact literalUnits_escape (escapeSequence_unit (hexValue?_hex4 small) cs)

theorem literalUnits_quoteBody (cs : List Char) :
    literalUnits (quoteBody cs ++ ['"']) = some (units cs) := by
  induction cs with
  | nil =>
    have closing : literalUnits ['"'] = some [] := by simp [literalUnits]
    exact closing
  | cons c cs ih =>
    rw [quoteBody] at ih
    rw [quoteBody, List.flatMap_cons, List.append_assoc, literalUnits_quoteChar, ih]
    rfl

/-- A quoted text is a literal in which everything is escaped that has to be, and its value is the
units of this text and of no other. -/
theorem stringValue?_quote (s : String) : ∃ body,
    (quote s).toList = '"' :: (body ++ ['"']) ∧ WellEscaped body ∧
    (∀ c ∈ body, isForbidden c = false) ∧
    ∀ t : String, stringValue? (quote s).toList = some (units t.toList) ↔ t = s := by
  have layout : (quote s).toList = '"' :: (quoteBody s.toList ++ ['"']) := by simp [quote]
  have escaped := wellEscaped_quoteBody s.toList
  refine ⟨quoteBody s.toList, layout, escaped, escaped.isForbidden, ?_⟩
  intro t
  rw [layout, stringValue?, literalUnits_quoteBody, Option.some.injEq]
  constructor
  · intro same
    exact String.toList_injective (units_injective same.symm)
  · rintro rfl
    rfl

end MockData.Script
