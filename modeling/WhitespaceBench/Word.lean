namespace WhitespaceBench
namespace Word

/-!
# Checked words

Counts are 64-bit words.  An addition or a multiplication whose exact result
needs more than 64 bits has no result here, so that an overflow can never pass
for a small count.
-/

/-- What is said when a sum does not fit: the words of the panic of a build that checks for
overflow. -/
def overflowText : String := "attempt to add with overflow"

/-- The exact sum, when it fits in 64 bits. -/
def add? (first second : UInt64) : Option UInt64 :=
  if fits : first.toNat + second.toNat < UInt64.size then
    some (UInt64.ofNatLT (first.toNat + second.toNat) fits)
  else none

def mul? (first second : UInt64) : Option UInt64 :=
  if fits : first.toNat * second.toNat < UInt64.size then
    some (UInt64.ofNatLT (first.toNat * second.toNat) fits)
  else none

/-- The same number in 32 bits, when it fits. -/
def narrow? (wide : UInt64) : Option UInt32 :=
  if fits : wide.toNat < UInt32.size then some (UInt32.ofNatLT wide.toNat fits) else none

/-- The exact sum in 32 bits, when it fits. -/
def add32? (first second : UInt32) : Option UInt32 :=
  if fits : first.toNat + second.toNat < UInt32.size then
    some (UInt32.ofNatLT (first.toNat + second.toNat) fits)
  else none

end Word
end WhitespaceBench
