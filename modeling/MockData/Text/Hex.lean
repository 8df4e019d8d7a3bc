/-!
Hexadecimal digits: reading them in either case, and writing numbers in four lower-case ones.
-/
namespace MockData.Text

def hexDigit? (c : Char) : Option Nat :=
  if '0' ≤ c ∧ c ≤ '9' then some (c.toNat - '0'.toNat)
  else if 'a' ≤ c ∧ c ≤ 'f' then some (c.toNat - 'a'.toNat + 10)
  else if 'A' ≤ c ∧ c ≤ 'F' then some (c.toNat - 'A'.toNat + 10)
  else none

def hexValue? : List Char → Option Nat :=
  go 0
where
  go (n : Nat) : List Char → Option Nat
    | [] => some n
    | c :: cs => (hexDigit? c).bind fun d => go (16 * n + d) cs

def hexDigit (n : Nat) : Char := if n < 10 then Char.ofNat (48 + n) else Char.ofNat (87 + n)

def hex4 (n : Nat) : List Char :=
  [hexDigit (n / 4096 % 16), hexDigit (n / 256 % 16), hexDigit (n / 16 % 16), hexDigit (n % 16)]

theorem hexDigit?_hexDigit : ∀ n < 16, hexDigit? (hexDigit n) = some n := by decide

theorem hexValue?_hex4 {n : Nat} (h : n < 65536) : hexValue? (hex4 n) = some n := by
  have digit (m : Nat) : hexDigit? (hexDigit (m % 16)) = some (m % 16) :=
    hexDigit?_hexDigit _ (Nat.mod_lt _ (by decide))
  simp only [hex4, hexValue?, hexValue?.go, digit, Option.bind_some, Option.some.injEq]
  omega

end MockData.Text
