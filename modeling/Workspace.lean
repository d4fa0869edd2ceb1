import Workspace.Main
import Workspace.Proofs.Reencoding
import Workspace.Proofs.Unedited
import Workspace.Proofs.ReadBack
import Workspace.Proofs.Frame
import Workspace.Proofs.Outline
import Workspace.Proofs.TextReading
import Workspace.Proofs.DocumentText
import Workspace.Proofs.Reload
import Workspace.Proofs.Rounding
import Workspace.Proofs.NumberText
import Workspace.Proofs.StringText
import Workspace.Proofs.Brackets
import Workspace.Proofs.WrittenText
import Workspace.Proofs.Path
import Workspace.Proofs.Edit
import Workspace.Proofs.DocumentWritten
import Workspace.Proofs.EditedText
import Workspace.Proofs.Listing
import Workspace.Proofs.DevFlag
import Workspace.Proofs.LastWrite
import Workspace.Proofs.Commuting
import Workspace.Proofs.Outcome
import Workspace.Proofs.OwnedFields
import Workspace.Proofs.MachinesMember
import Workspace.Proofs.DevRuns
import Workspace.Proofs.NumericLimit
import Workspace.Proofs.EditedRows
import Workspace.Proofs.RepeatedRebuild
import Workspace.Proofs.MissingAgents
import Workspace.Proofs.Accepted
import Workspace.Proofs.TextLimit
import Workspace.Proofs.MachineForms
import Workspace.Proofs.CutBrackets
import Workspace.Proofs.CutText
import Workspace.Proofs.CutDocument
import Workspace.Proofs.CutLexeme
