/-!
The length of a text in bytes of its UTF-8 form. Offsets into a text count these bytes.
-/
namespace MockData.Text

def byteSize : List Char → Nat
  | [] => 0
  | c :: cs => c.utf8Size + byteSize cs

@[simp] theorem byteSize_append (a b : List Char) :
    byteSize (a ++ b) = byteSize a + byteSize b := by
  induction a with
  | nil => simp [byteSize]
  | cons c a ih => simp [byteSize, ih]; omega

/-- The front of a text that has so many bytes, and what follows it; nothing where the text is
shorter or a character would be cut. -/
def splitBytes? : (count : Nat) → List Char → Option (List Char × List Char)
  | 0, cs => some ([], cs)
  | _ + 1, [] => none
  | count + 1, c :: cs =>
    if c.utf8Size ≤ count + 1 then
      (splitBytes? (count + 1 - c.utf8Size) cs).map fun p => (c :: p.1, p.2)
    else none

def slice? (start stop : Nat) (cs : List Char) : Option (List Char) := do
  let (_, cs) ← splitBytes? start cs
  let (cs, _) ← splitBytes? (stop - start) cs
  return cs

theorem byteSize_pos {cs : List Char} (h : cs ≠ []) : 0 < byteSize cs := by
  cases cs with
  | nil => exact absurd rfl h
  | cons c cs => have := c.utf8Size_pos; simp [byteSize]; omega

theorem splitBytes?_byteSize (a b : List Char) :
    splitBytes? (byteSize a) (a ++ b) = some (a, b) := by
  induction a with
  | nil => simp [byteSize, splitBytes?]
  | cons c a ih =>
    obtain ⟨n, hn⟩ : ∃ n, c.utf8Size + byteSize a = n + 1 :=
      ⟨c.utf8Size + byteSize a - 1, by have := c.utf8Size_pos; omega⟩
    rw [byteSize, hn, List.cons_append, splitBytes?, if_pos (by omega)]
    rw [show n + 1 - c.utf8Size = byteSize a by omega, ih]
    rfl

theorem slice?_byteSize (a b c : List Char) :
    slice? (byteSize a) (byteSize (a ++ b)) (a ++ (b ++ c)) = some b := by
  simp [slice?, splitBytes?_byteSize]

end MockData.Text
