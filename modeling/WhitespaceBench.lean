import WhitespaceBench.Main
import WhitespaceBench.Proofs.Admissibility
import WhitespaceBench.Proofs.AsciiBoundaries
import WhitespaceBench.Proofs.BenchmarkPass
import WhitespaceBench.Proofs.CanonicalFile
import WhitespaceBench.Proofs.ConfigHistory
import WhitespaceBench.Proofs.ConfigRoundTrip
import WhitespaceBench.Proofs.ConsecutivePieces
import WhitespaceBench.Proofs.DefaultsText
import WhitespaceBench.Proofs.DocumentSpelling
import WhitespaceBench.Proofs.HarnessReport
import WhitespaceBench.Proofs.LossySegments
import WhitespaceBench.Proofs.MeanTime
import WhitespaceBench.Proofs.MergeOrder
import WhitespaceBench.Proofs.ProgramOutcome
import WhitespaceBench.Proofs.ReportLines
import WhitespaceBench.Proofs.ReportMembers
import WhitespaceBench.Proofs.ScanViews
import WhitespaceBench.Proofs.SeededBuffer
import WhitespaceBench.Proofs.SetupOutcome
import WhitespaceBench.Proofs.WellFormedText
