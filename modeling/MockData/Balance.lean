/-!
Balances are signed 64-bit numbers. A sum beyond either limit stops at the limit.
-/
namespace MockData

abbrev Balance := Int64

namespace Balance

def least : Int := -9223372036854775808
def greatest : Int := 9223372036854775807

def Fits (n : Int) : Prop := least ≤ n ∧ n ≤ greatest

instance (n : Int) : Decidable (Fits n) := inferInstanceAs (Decidable (_ ∧ _))

def clamp (n : Int) : Balance := Int64.ofInt (max least (min greatest n))

def add (b delta : Balance) : Balance := clamp (b.toInt + delta.toInt)

theorem toInt_clamp (n : Int) : (clamp n).toInt = max least (min greatest n) := by
  rw [clamp, Int64.toInt_ofInt_of_le] <;> simp only [least, greatest] <;> omega

theorem fits_toInt (b : Balance) : Fits b.toInt := by
  have above := b.le_toInt
  have below := b.toInt_lt
  simp only [Fits, least, greatest]
  omega

theorem toInt_add (b delta : Balance) :
    (b.add delta).toInt = max least (min greatest (b.toInt + delta.toInt)) := toInt_clamp _

/-- A sum within the limits is exact. -/
theorem toInt_add_of_fits {b delta : Balance} (fits : Fits (b.toInt + delta.toInt)) :
    (b.add delta).toInt = b.toInt + delta.toInt := by
  obtain ⟨above, below⟩ := fits
  rw [toInt_add]
  omega

end Balance

end MockData
