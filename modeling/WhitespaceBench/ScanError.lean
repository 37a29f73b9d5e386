import WhitespaceBench.Config.File

namespace WhitespaceBench

/-!
# What can go wrong with a benchmark
-/

inductive ReservationFault where
  /-- More than can be addressed. -/
  | capacity
  /-- More than there is. -/
  | refused
  /-- A reason that was given by someone else. -/
  | stated (reason : String)
deriving Repr, DecidableEq

namespace ReservationFault

def message : ReservationFault -> String
  | capacity =>
      "memory allocation failed because the computed capacity exceeded the collection's maximum"
  | refused => "memory allocation failed because the memory allocator returned an error"
  | stated reason => reason

end ReservationFault

inductive ScanError where
  | allocation (requested : UInt64) (fault : ReservationFault)
  | randomSource (reason : String)
  | config (error : ConfigError)
  | threadPool (reason : String)
  | logging (reason : String)

namespace ScanError

def message : ScanError -> String
  | allocation requested fault =>
      "Failed to allocate " ++ toString requested.toNat ++ " bytes for scan buffer: " ++
        fault.message
  | randomSource reason => "Random source failed: " ++ reason
  | config error => "Configuration error: " ++ error.message
  | threadPool reason => "Thread pool error: " ++ reason
  | logging reason => "Logging initialization failed: " ++ reason

/-- Whether there can be no buffer at all. -/
def isFatal : ScanError -> Bool
  | allocation _ _ => true
  | randomSource _ => true
  | config _ => false
  | threadPool _ => false
  | logging _ => false

/-- The wordings of the causes below an error, the nearest first. -/
def causes : ScanError -> List String
  | config error => error.message :: error.causes
  | _ => []

end ScanError
end WhitespaceBench
