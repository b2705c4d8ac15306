import MacroShell.Device.Faulty
import MacroShell.Main
import MacroShell.Shell.Describe
import MacroShell.Proofs.WordGrammar
import MacroShell.Proofs.RecordRecall
import MacroShell.Proofs.SavedState
import MacroShell.Proofs.StoredText
import MacroShell.Proofs.RecallDepth
import MacroShell.Proofs.Nesting
import MacroShell.Proofs.Quiet
import MacroShell.Proofs.Failures
import MacroShell.Proofs.Following
import MacroShell.Proofs.Snapshots
import MacroShell.Proofs.Repetitions
import MacroShell.Proofs.Watching
import MacroShell.Proofs.Quitting
import MacroShell.Proofs.Moments
import MacroShell.Proofs.Clicks
import MacroShell.Proofs.OneWay
import MacroShell.Proofs.RepeatedRecall
import MacroShell.Proofs.Rerecording
import MacroShell.Proofs.SavedLines
import MacroShell.Proofs.RecallLaw
import MacroShell.Proofs.Loading
import MacroShell.Proofs.DeviceHistory
import MacroShell.Proofs.PendingKeys
import MacroShell.Proofs.Hotkeys
import MacroShell.Proofs.Location
import MacroShell.Proofs.Substitution
import MacroShell.Proofs.RecallRings
import MacroShell.Proofs.SlotEdits
import MacroShell.Proofs.Typing
import MacroShell.Proofs.Owners
import MacroShell.Proofs.JoinedLines
