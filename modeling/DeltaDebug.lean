import DeltaDebug.CommandLine.Run
import DeltaDebug.Main
import DeltaDebug.Oracle.Scripted
import DeltaDebug.Json.Parser
import DeltaDebug.Search.Interleaving
import DeltaDebug.Proofs.Inquiry
import DeltaDebug.Proofs.Partition
import DeltaDebug.Proofs.Scan
import DeltaDebug.Proofs.Pool.Board
import DeltaDebug.Proofs.Pool.Decision
import DeltaDebug.Proofs.Round
import DeltaDebug.Proofs.Minimality
import DeltaDebug.Proofs.Pool.Agreement
import DeltaDebug.Proofs.Adoption
import DeltaDebug.Proofs.Termination
import DeltaDebug.Proofs.Progress
import DeltaDebug.Proofs.Work
import DeltaDebug.Proofs.SublistMinimality
import DeltaDebug.Proofs.Repetition
import DeltaDebug.Proofs.Account
import DeltaDebug.Proofs.Pool.Account
import DeltaDebug.Proofs.Pool.ProbeCount
import DeltaDebug.Proofs.Confirmation
import DeltaDebug.Proofs.Failure
import DeltaDebug.Proofs.Replay
import DeltaDebug.Proofs.Word
import DeltaDebug.Proofs.Delivery
import DeltaDebug.Proofs.CommandLine
import DeltaDebug.Proofs.Output
import DeltaDebug.Proofs.Needle
import DeltaDebug.Proofs.Extremes
import DeltaDebug.Proofs.Log
import DeltaDebug.Proofs.Hex
import DeltaDebug.Proofs.JsonText
import DeltaDebug.Proofs.ResultFormat
import DeltaDebug.Proofs.Wait
import DeltaDebug.Proofs.Tiling
import DeltaDebug.Proofs.Pool.Turns
import DeltaDebug.Proofs.Pool.LowestIndex
