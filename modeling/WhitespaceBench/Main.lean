import Std.Time.DateTime.Timestamp
import WhitespaceBench.Logging.Line
import WhitespaceBench.Program

namespace WhitespaceBench
namespace Main

/-!
# The command line

Reads the configuration file, the environment, the clock and the entropy of the system,
runs the program on them and prints what it says.
-/

/-- The number of processors, one if it is not known. -/
def processors : IO UInt64 := do
  try
    let listing <- IO.FS.readFile "/proc/cpuinfo"
    let count := (Text.split '\n' listing.toList).countP fun line =>
      "processor".toList.isPrefixOf line
    return UInt64.ofNat (max 1 count)
  catch _ => return 1

def architecture : IO String := do
  try
    let name <- IO.FS.readFile "/proc/sys/kernel/arch"
    return String.ofList (name.toList.takeWhile (· != '\n'))
  catch _ => return "unknown"

/-- A store with the configuration file as it is. -/
def currentStore : IO Store := do
  try
    let bytes <- IO.FS.readBinFile Config.fileName
    return Store.empty.put [Config.fileName] (.file bytes.toList)
  catch error =>
    match error with
    | .noFileOrDirectory _ _ _ => return Store.empty
    | _ => return Store.empty.put [Config.fileName] .directory

/-- The microseconds since the start of 1970. -/
def clock : IO Nat := do
  let now <- Std.Time.Timestamp.now
  return now.toNanosecondsSinceUnixEpoch.val.toNat / 1000

def report (notice : Program.Notice) : IO Unit := do
  match notice with
  | .complaint text => IO.eprintln text
  | .logged event => IO.eprintln (Logging.line (<- clock) event)
  | .failure diagnostic => diagnostic.lines.forM IO.eprintln

/-- Makes so many passes and measures them.  The answers are counted, so that they have
to be made. -/
def measure (harness : Harness) (count : Nat) : IO Duration := do
  let checked <- IO.mkRef 0
  let start <- IO.monoNanosNow
  for _ in [0:count] do
    let hits := harness.traces.foldl (fun total trace => total + trace.count true) 0
    checked.modify (· + hits)
  let stop <- IO.monoNanosNow
  return Duration.ofNanos (stop - start)

/-- The random bytes that a program will ask for. -/
def entropyFor (surroundings : Program.Surroundings) : IO (List UInt8) := do
  let bytes <- IO.getRandomBytes (USize.ofNat (Program.entropyNeeded surroundings))
  return bytes.toList

/-- Prints the output and the notices of a program that has ended. -/
def conclude (outcome : Program.Outcome) (shown : Nat) : IO UInt32 := do
  (outcome.notices.drop shown).forM report
  outcome.output.forM IO.println
  return outcome.status.toUInt32

/-- Runs the program.  Notices are printed as they come about. -/
def run : IO UInt32 := do
  let machine := Machine.bounded (<- processors) 0x800000000000
  let surroundings : Program.Surroundings :=
    ⟨machine, <- architecture, <- IO.getEnv "RUST_LOG", <- currentStore⟩
  let entropy <- entropyFor surroundings
  match Program.prepare surroundings Random.Source.supplied entropy with
  | .error outcome => conclude outcome 0
  | .ok prepared =>
      prepared.notices.forM report
      let warmup <- measure prepared.harness prepared.harness.settings.warmupIterations.toNat
      let total <- measure prepared.harness prepared.harness.settings.iterations.toNat
      conclude (Program.complete prepared ⟨warmup, total⟩) prepared.notices.length

end Main
end WhitespaceBench

/-- Runs the benchmark that the configuration file in the working directory describes. -/
def main : IO UInt32 :=
  WhitespaceBench.Main.run
