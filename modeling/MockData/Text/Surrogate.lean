/-!
Sixteen-bit units of a text. A character above U+FFFF takes two units, a high and a low surrogate;
a surrogate without its partner stands for no character and is replaced by U+FFFD.
-/
namespace MockData.Text

def isHighSurrogate (n : Nat) : Bool := 0xD800 ≤ n && n ≤ 0xDBFF
def isLowSurrogate (n : Nat) : Bool := 0xDC00 ≤ n && n ≤ 0xDFFF

def replacement : Char := Char.ofNat 0xFFFD

def ofSurrogates (high low : Nat) : Char :=
  Char.ofNat (0x10000 + (high - 0xD800) * 0x400 + (low - 0xDC00))

def ofUnit (n : Nat) : Char := if h : n.isValidChar then Char.ofNatAux n h else replacement

theorem ofUnit_of_surrogate {n : Nat} (h : isHighSurrogate n ∨ isLowSurrogate n) :
    ofUnit n = replacement := by
  simp only [isHighSurrogate, isLowSurrogate, Bool.and_eq_true, decide_eq_true_eq] at h
  have : ¬ n.isValidChar := by simp only [Nat.isValidChar]; omega
  simp [ofUnit, this]

end MockData.Text
