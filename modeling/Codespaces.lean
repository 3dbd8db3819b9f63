import Codespaces.Creation.View
import Codespaces.Main
import Codespaces.Program.Rehearsal
import Codespaces.Relay.Stream
import Codespaces.Session.Operation
import Codespaces.Workflow.Log
import Codespaces.Proofs.Numerals
import Codespaces.Proofs.JsonText
import Codespaces.Proofs.JsonGrammar
import Codespaces.Proofs.RequestBody
import Codespaces.Proofs.Lifetimes
import Codespaces.Proofs.YamlLines
import Codespaces.Proofs.YamlScalars
import Codespaces.Proofs.YamlBlocks
import Codespaces.Proofs.YamlDocument
import Codespaces.Proofs.SettingsText
import Codespaces.Proofs.SettingsFile
import Codespaces.Proofs.Exchange
import Codespaces.Proofs.SessionCalls
import Codespaces.Proofs.PollScript
import Codespaces.Proofs.PollVerdict
import Codespaces.Proofs.History
import Codespaces.Proofs.SelectionCalls
import Codespaces.Proofs.CreationCalls
import Codespaces.Proofs.RelayBalance
import Codespaces.Proofs.WaitCalls
import Codespaces.Proofs.CreationOrder
import Codespaces.Proofs.RequestOrigin
import Codespaces.Proofs.RelayPermits
import Codespaces.Proofs.RelayGate
import Codespaces.Proofs.Telling
import Codespaces.Proofs.SetupSteps
import Codespaces.Proofs.Stages
import Codespaces.Proofs.RunReports
import Codespaces.Proofs.Record
import Codespaces.Proofs.Recording
import Codespaces.Proofs.Yielding
import Codespaces.Proofs.Cancellation
import Codespaces.Proofs.PollRequests
import Codespaces.Proofs.Trimming
import Codespaces.Proofs.LineText
import Codespaces.Proofs.AuthorizedKeys
import Codespaces.Proofs.SettingsValid
import Codespaces.Proofs.SettingsChanges
import Codespaces.Proofs.SessionLife
import Codespaces.Proofs.Ordinary
import Codespaces.Proofs.Demands
import Codespaces.Proofs.DurationSums
import Codespaces.Proofs.UserStream
import Codespaces.Proofs.RecordMembers
import Codespaces.Proofs.Snapshots
import Codespaces.Proofs.AnswerClasses
import Codespaces.Proofs.ClientPolling
import Codespaces.Proofs.Unprompted
import Codespaces.Proofs.StandardOutput
import Codespaces.Proofs.SshReading
import Codespaces.Proofs.ShellRuns
import Codespaces.Proofs.Utf8Text
import Codespaces.Proofs.StreamFraming
import Codespaces.Proofs.PollBound
import Codespaces.Proofs.Secrets
import Codespaces.Proofs.Confidentiality
import Codespaces.Proofs.ClosedPorts
import Codespaces.Proofs.Choices
import Codespaces.Proofs.RepositoryName
import Codespaces.Proofs.RepositoryAddress
import Codespaces.Proofs.PollArithmetic
