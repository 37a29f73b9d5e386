namespace WhitespaceBench
namespace Whitespace

/-!
# The whitespace set

Every scan asks one question of every unit: is it a space, a tab, a newline or
a carriage return?  Nothing else counts, neither the vertical tab and the form
feed nor any of the wide spaces of Unicode.  The set is stated once for bytes,
and a decoded character belongs to it exactly when it is an ASCII character
whose byte does.
-/

/-- The members in comparison order: space, tab, newline, carriage return. -/
def bytes : List UInt8 := [0x20, 0x09, 0x0A, 0x0D]

/-- Membership of a byte.  The order of the comparisons affects only the cost. -/
def contains (byte : UInt8) : Bool :=
  byte == 0x20 || byte == 0x09 || byte == 0x0A || byte == 0x0D

def containsChar (character : Char) : Bool :=
  decide (character.toNat < 0x80) && contains (UInt8.ofNat character.toNat)

def size : Nat := bytes.length

theorem contains_iff_mem (byte : UInt8) : contains byte = true <-> byte ∈ bytes := by
  simp only [contains, bytes, Bool.or_eq_true, beq_iff_eq, List.mem_cons, List.not_mem_nil,
    or_false, or_assoc]

end Whitespace
end WhitespaceBench
