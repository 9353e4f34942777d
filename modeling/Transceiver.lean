import Transceiver.Backend.Declared
import Transceiver.Bcd.Frequency
import Transceiver.Builder
import Transceiver.Line.Disturbed
import Transceiver.Line.Recorded
import Transceiver.Line.Scripted
import Transceiver.Loader
import Transceiver.Megahertz
import Transceiver.Models
import Transceiver.Proofs.Bcd.Acceptance
import Transceiver.Proofs.Bcd.Digits
import Transceiver.Proofs.Bcd.Frequency
import Transceiver.Proofs.Bcd.Layout
import Transceiver.Proofs.Bcd.RoundTrip
import Transceiver.Proofs.Engine.HalfDuplex
import Transceiver.Proofs.Engine.Pace
import Transceiver.Proofs.Engine.Reading
import Transceiver.Proofs.Engine.Retry
import Transceiver.Proofs.Engine.StaleInput
import Transceiver.Proofs.Engine.WriteFailure
import Transceiver.Proofs.Engine.WritePace
import Transceiver.Proofs.Frame.Overrides
import Transceiver.Proofs.Line.Reply
import Transceiver.Proofs.Loader.Course
import Transceiver.Proofs.Loader.LoadAll
import Transceiver.Proofs.Loader.Outcome
import Transceiver.Proofs.Loader.Probes
import Transceiver.Proofs.Loader.Repetition
import Transceiver.Proofs.Registry.Batch
import Transceiver.Proofs.Registry.Refinement
import Transceiver.Proofs.ResponseCache.History
import Transceiver.Proofs.Rig.Changeover
import Transceiver.Proofs.Rig.Coverage
import Transceiver.Proofs.Rig.Failure
import Transceiver.Proofs.Rig.Keying
import Transceiver.Proofs.Rig.Modes
import Transceiver.Proofs.Rig.Offsets
import Transceiver.Proofs.Rig.Refusal
import Transceiver.Proofs.Rig.Transmitting
import Transceiver.Proofs.Rig.Tuning
import Transceiver.Proofs.SearchPath.FirstSpellings
import Transceiver.SearchPath
