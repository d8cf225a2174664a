import WindowShell.Client.Check
import WindowShell.Client.Fixture
import WindowShell.Main
import WindowShell.Registry.Handles
import WindowShell.Proofs.Outcome
import WindowShell.Proofs.Census
import WindowShell.Proofs.LastMove
import WindowShell.Proofs.Rejection
import WindowShell.Proofs.Handshake
import WindowShell.Proofs.Likeness
import WindowShell.Proofs.Arrival
import WindowShell.Proofs.Repetition
import WindowShell.Proofs.Wire
import WindowShell.Proofs.Flattening
import WindowShell.Proofs.Wishes
import WindowShell.Proofs.Commuting
import WindowShell.Proofs.Custody
import WindowShell.Proofs.Integrity
import WindowShell.Proofs.Refusals
import WindowShell.Proofs.Spelling
import WindowShell.Proofs.Playback
import WindowShell.Proofs.FarEdge
import WindowShell.Proofs.Memory
import WindowShell.Proofs.Insistence
import WindowShell.Proofs.Dismissal
import WindowShell.Proofs.Forwarding
import WindowShell.Proofs.Supply
import WindowShell.Proofs.SettingsText
import WindowShell.Proofs.Grammar
import WindowShell.Proofs.Nearest
