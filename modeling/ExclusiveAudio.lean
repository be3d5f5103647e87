import ExclusiveAudio.Main
import ExclusiveAudio.Format.Json
import ExclusiveAudio.Proofs.Session.Identity
import ExclusiveAudio.Proofs.Session.Numbering
import ExclusiveAudio.Proofs.Session.Overflow
import ExclusiveAudio.Proofs.Session.Settling
import ExclusiveAudio.Proofs.Session.Lifecycle
import ExclusiveAudio.Proofs.Session.Teardown
import ExclusiveAudio.Proofs.Session.Tenancy
import ExclusiveAudio.Proofs.Format.Ranking
import ExclusiveAudio.Proofs.Session.Prospect
import ExclusiveAudio.Proofs.Session.Drivable
import ExclusiveAudio.Proofs.Session.Reload
import ExclusiveAudio.Proofs.Session.Degraded
import ExclusiveAudio.Proofs.Format.Rank
import ExclusiveAudio.Proofs.Hardware.Ledger
import ExclusiveAudio.Proofs.Session.Framing
import ExclusiveAudio.Proofs.Session.Confinement
import ExclusiveAudio.Proofs.Session.Latency
import ExclusiveAudio.Proofs.Session.Pacing
import ExclusiveAudio.Proofs.System.Servicing
import ExclusiveAudio.Proofs.Player.Reloading
import ExclusiveAudio.Proofs.Format.Description
import ExclusiveAudio.Proofs.Player.Waveform
import ExclusiveAudio.Proofs.Player.Decoding
import ExclusiveAudio.Proofs.Player.Loudness
import ExclusiveAudio.Proofs.System.Subscribing
import ExclusiveAudio.Proofs.Session.Selection
import ExclusiveAudio.Proofs.Configuration.Overrides
import ExclusiveAudio.Proofs.Hardware.Switching
