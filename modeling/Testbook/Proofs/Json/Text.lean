import Testbook.Json.Printer
import Testbook.Json.Reader

/-! A quoted text is read back as it was, whatever its characters and whatever follows it. -/

set_option autoImplicit false

namespace Testbook

theorem Hexadecimal.digit?_digitChar {d : Nat} (small : d < 16) :
    digit? (Nat.digitChar d) = some d := by
  have all : ∀ d < 16, digit? (Nat.digitChar d) = some d := by decide
  exact all d small

namespace Json

theorem hexUnit?_fixed {n : Nat} (bound : n < 65536) :
    ∃ a b c d, Hexadecimal.fixed 4 n = [a, b, c, d] ∧ hexUnit? a b c d = some n := by
  refine ⟨_, _, _, _, rfl, ?_⟩
  have first := Hexadecimal.digit?_digitChar (Nat.mod_lt (n / 16 / 16 / 16) (by decide : 0 < 16))
  have second := Hexadecimal.digit?_digitChar (Nat.mod_lt (n / 16 / 16) (by decide : 0 < 16))
  have third := Hexadecimal.digit?_digitChar (Nat.mod_lt (n / 16) (by decide : 0 < 16))
  have fourth := Hexadecimal.digit?_digitChar (Nat.mod_lt n (by decide : 0 < 16))
  simp only [hexUnit?, first, second, third, fourth, Option.bind_eq_bind, Option.bind_some]
  congr 1
  omega

theorem pieces?_plain {c : Char} (rest : List Char) (visible : 32 ≤ c.toNat) (noQuote : c ≠ '"')
    (noBackslash : c ≠ '\\') :
    pieces? (c :: rest) = (pieces? rest).map fun (ps, rest) => (.char c :: ps, rest) := by
  have kept : ¬(c.toNat < 32 ∨ c = '\\') := by
    rintro (control | backslash)
    · omega
    · exact noBackslash backslash
  rw [pieces?, if_neg kept]
  · exact noQuote
  · rintro _ _ _ _ _ rfl
    exact absurd rfl noBackslash
  · rintro _ _ rfl
    exact absurd rfl noBackslash

theorem pieces?_escape {e c : Char} (rest : List Char) (known : escaped? e = some c) :
    pieces? ('\\' :: e :: rest) = (pieces? rest).map fun (ps, rest) => (.char c :: ps, rest) := by
  have noUnit : e ≠ 'u' := by
    rintro rfl
    simp [escaped?] at known
  cases read : pieces? rest <;> simp [pieces?, noUnit, known, read]

theorem pieces?_control {c : Char} (rest : List Char) (control : c.toNat < 32) :
    pieces? ('\\' :: 'u' :: (Hexadecimal.fixed 4 c.toNat ++ rest)) =
      (pieces? rest).map fun (ps, rest) => (.char c :: ps, rest) := by
  obtain ⟨x, y, z, w, digits, unit⟩ := hexUnit?_fixed (n := c.toNat) (by omega)
  have same : Piece.ofUnit c.toNat = .char c := by
    rw [Piece.ofUnit, if_neg (by omega), if_neg (by omega), Char.ofNat_toNat]
  rw [digits]
  cases read : pieces? rest <;> simp [pieces?, unit, same, read]

theorem pieces?_escapeChar (c : Char) (rest : List Char) :
    pieces? (escapeChar c ++ rest) = (pieces? rest).map fun (ps, rest) => (.char c :: ps, rest) := by
  unfold escapeChar
  split
  case h_1 => exact pieces?_escape rest rfl
  case h_2 => exact pieces?_escape rest rfl
  case h_3 => exact pieces?_escape rest rfl
  case h_4 => exact pieces?_escape rest rfl
  case h_5 => exact pieces?_escape rest rfl
  case h_6 noQuote noBackslash _ _ _ =>
    split
    · next backspace =>
      rw [← Char.ofNat_toNat c, backspace]
      exact pieces?_escape rest rfl
    · split
      · next feed =>
        rw [← Char.ofNat_toNat c, feed]
        exact pieces?_escape rest rfl
      · split
        · next control => exact pieces?_control rest control
        · next visible => exact pieces?_plain rest (by omega) noQuote noBackslash

theorem pieces?_escaped (cs rest : List Char) :
    pieces? (cs.flatMap escapeChar ++ '"' :: rest) = some (cs.map .char, rest) := by
  induction cs with
  | nil => simp [pieces?]
  | cons c cs ih => simp [pieces?_escapeChar, ih]

@[simp] theorem joinPieces?_chars (cs : List Char) : joinPieces? (cs.map .char) = some cs := by
  induction cs with
  | nil => rfl
  | cons c cs ih => simp [joinPieces?, ih]

theorem readText?_quote (s : String) (rest : List Char) :
    readText? (s.toList.flatMap escapeChar ++ '"' :: rest) = some (some s, rest) := by
  simp [readText?, pieces?_escaped]

end Json

end Testbook
