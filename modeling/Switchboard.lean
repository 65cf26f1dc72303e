import Switchboard.Main
import Switchboard.Proofs.Cache.Boundary
import Switchboard.Proofs.Cache.Cancellation
import Switchboard.Proofs.Cache.Directory
import Switchboard.Proofs.Cache.Failures
import Switchboard.Proofs.Cache.HandOver
import Switchboard.Proofs.Cache.Inspection
import Switchboard.Proofs.Cache.SingleFlight
import Switchboard.Proofs.Cache.Succession
import Switchboard.Proofs.Channel.Replacement
import Switchboard.Proofs.Client.DialSecurity
import Switchboard.Proofs.Client.Gating
import Switchboard.Proofs.Client.Isolation
import Switchboard.Proofs.Config.Locality
import Switchboard.Proofs.Config.RoundTrip
import Switchboard.Proofs.Endpoint
import Switchboard.Proofs.Meeting
import Switchboard.Proofs.Receipt
import Switchboard.Proofs.Secrets.Output
