import RecordIdl.CommandLine
import RecordIdl.Files.TreeSystem
import RecordIdl.Main
import RecordIdl.Proofs.AncestorChain
import RecordIdl.Proofs.MemoSound
import RecordIdl.Proofs.PruningAnswers
import RecordIdl.Proofs.PruningQueries
import RecordIdl.Proofs.PrunedChain
import RecordIdl.Proofs.CycleDetection
import RecordIdl.Proofs.DirectBuild
import RecordIdl.Proofs.BuildFaults
import RecordIdl.Proofs.BuildHistory
import RecordIdl.Proofs.OutputFiles
import RecordIdl.Proofs.RecordAccounts
import RecordIdl.Proofs.Surroundings
import RecordIdl.Proofs.OverrideScope
import RecordIdl.Proofs.ReferencedFiles
import RecordIdl.Proofs.ImportCompleteness
import RecordIdl.Proofs.DeclaredNames
import RecordIdl.Proofs.DeclaredTypes
import RecordIdl.Proofs.DescribedRecords
import RecordIdl.Proofs.FirstFaults
import RecordIdl.Proofs.ElementTree
import RecordIdl.Proofs.ElementRuns
import RecordIdl.Proofs.TreeReading
import RecordIdl.Proofs.EscapedValues
import RecordIdl.Proofs.WrittenElements
import RecordIdl.Proofs.WrittenRecords
import RecordIdl.Proofs.UnfinishedRecords
import RecordIdl.Proofs.MalformedAttributes
import RecordIdl.Proofs.VisibleText
import RecordIdl.Proofs.WrittenProperties
import RecordIdl.Proofs.AppendedProperties
import RecordIdl.Proofs.BrokenLines
import RecordIdl.Proofs.CommentErasure
import RecordIdl.Proofs.FaultState
import RecordIdl.Proofs.TreeEntries
import RecordIdl.Proofs.JoinedPaths
import RecordIdl.Proofs.FileOperations
import RecordIdl.Proofs.ProjectRuns
import RecordIdl.Proofs.WrittenFiles
import RecordIdl.Proofs.FieldNumbers
import RecordIdl.Proofs.ListWrappers
import RecordIdl.Proofs.ImportOrder
import RecordIdl.Proofs.SpelledNumbers
import RecordIdl.Proofs.Designations
import RecordIdl.Proofs.SetOffCapitals
import RecordIdl.Proofs.AddedRecords
