import WhitespaceBench.ScanError

namespace WhitespaceBench

/-!
# The machine

What a benchmark needs from the machine that it runs on, apart from random bytes and
time: memory and worker threads.  A request may fail.
-/

structure Machine where
  processors : UInt64
  /-- Whether so many bytes of memory can be had. -/
  grants : UInt64 -> Bool
  /-- Starts so many worker threads, or says why not. -/
  startWorkers : UInt64 -> Except String Unit

namespace Machine

/-- Reserves memory.  Only lengths below 2^63 can be addressed. -/
def reserve (machine : Machine) (length : UInt64) :
    Except ReservationFault { size : Nat // size = length.toNat ∧ size < 0x8000000000000000 } :=
  if addressable : length.toNat < 0x8000000000000000 then
    if machine.grants length then .ok ⟨length.toNat, rfl, addressable⟩ else .error .refused
  else .error .capacity

/-- A machine that grants every request below a bound and starts all workers. -/
def bounded (processors : UInt64) (memory : Nat) : Machine where
  processors := processors
  grants := fun length => decide (length.toNat < memory)
  startWorkers := fun _ => .ok ()

end Machine
end WhitespaceBench
