import IngestCheck.CommandLine.OnHost
import IngestCheck.Main
import IngestCheck.Session
import IngestCheck.Proofs.Check.Course
import IngestCheck.Proofs.Interruption.Discipline
import IngestCheck.Proofs.Interruption.Safety
import IngestCheck.Proofs.Display.Masking
import IngestCheck.Proofs.Credential.Displays
import IngestCheck.Proofs.Script.Likeness
import IngestCheck.Proofs.Command.Assembly
import IngestCheck.Proofs.Script.Scope
import IngestCheck.Proofs.Check.Tidying
import IngestCheck.Proofs.Credential.Noninterference
import IngestCheck.Proofs.Settings.Resolution
import IngestCheck.Proofs.CommandLine.ExitCode
import IngestCheck.Proofs.Display.Reading
import IngestCheck.Proofs.Path.Components
import IngestCheck.Proofs.Plan.Options
import IngestCheck.Proofs.Settings.Confinement
import IngestCheck.Proofs.Check.Announcement
import IngestCheck.Proofs.Display.Remarks
import IngestCheck.Proofs.Display.SecretFlags
import IngestCheck.Proofs.Path.Normalisation
import IngestCheck.Proofs.Text.Encoding
import IngestCheck.Proofs.Text.Decoding
import IngestCheck.Proofs.Settings.Obstacles
import IngestCheck.Proofs.Settings.Stability
import IngestCheck.Proofs.Plan.Recovery
import IngestCheck.Proofs.Host.Route
import IngestCheck.Proofs.Host.Removal
import IngestCheck.Proofs.Check.Clearance
import IngestCheck.Proofs.Command.Lookup
import IngestCheck.Proofs.Check.Reporting
import IngestCheck.Proofs.Command.Independence
import IngestCheck.Proofs.Rehearsal.Finishing
import IngestCheck.Proofs.Settings.Variables
import IngestCheck.Proofs.Text.Pieces
import IngestCheck.Proofs.Display.Occurrences
