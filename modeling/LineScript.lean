import LineScript.CommandLine.FileTree
import LineScript.CommandLine.Run
import LineScript.Host.Recorded
import LineScript.Main
import LineScript.Proofs.Refinement
import LineScript.Proofs.SinglePass
import LineScript.Proofs.Trimming
import LineScript.Proofs.Headed
import LineScript.Proofs.Levels
import LineScript.Proofs.Depth
import LineScript.Proofs.Suppression
import LineScript.Proofs.DecidedBranch
import LineScript.Proofs.BlockLife
import LineScript.Proofs.Recovery
import LineScript.Proofs.Failures
import LineScript.Proofs.ReadOnly
import LineScript.Proofs.VerbatimSearch
import LineScript.Proofs.LetterCase
import LineScript.Proofs.Overrides
import LineScript.Proofs.FaultyLines
import LineScript.Proofs.SettingForms
import LineScript.Proofs.NewestMessages
import LineScript.Proofs.QuotedMessage
import LineScript.Proofs.Evaluation
import LineScript.Proofs.Comparison
import LineScript.Proofs.Storage
import LineScript.Proofs.References
import LineScript.Proofs.ReadBack
