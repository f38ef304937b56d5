import LinkCourier.Main
import LinkCourier.Trial.Far
import LinkCourier.Proofs.Framing.Lines
import LinkCourier.Proofs.Framing.Verdict
import LinkCourier.Proofs.Framing.Codec
import LinkCourier.Proofs.Framing.Cuts
import LinkCourier.Proofs.Framing.RoundTrip
import LinkCourier.Proofs.Framing.Carries
import LinkCourier.Proofs.Framing.Resume
import LinkCourier.Proofs.Framing.Agreement
import LinkCourier.Proofs.Framing.Reuse
import LinkCourier.Proofs.Text.WellFormed
import LinkCourier.Proofs.Relay.Turns
import LinkCourier.Proofs.Download
import LinkCourier.Proofs.Relay.Exchange
import LinkCourier.Proofs.Relay.Submission
import LinkCourier.Proofs.Relay.Timing
import LinkCourier.Proofs.Framing.Grammar
import LinkCourier.Proofs.Framing.Terminators
import LinkCourier.Proofs.Shell.Queue
import LinkCourier.Proofs.Shell.History
import LinkCourier.Proofs.Shell.Loading
import LinkCourier.Proofs.Shell.Telling
import LinkCourier.Proofs.Shell.Sharing
import LinkCourier.Proofs.Relay.Accounts
import LinkCourier.Proofs.Relay.Accepting
import LinkCourier.Proofs.Relay.Draining
import LinkCourier.Proofs.Relay.Returning
import LinkCourier.Proofs.Framing.Normal
import LinkCourier.Proofs.Framing.Endings
import LinkCourier.Proofs.Framing.Limits
import LinkCourier.Proofs.Text.Unbroken
import LinkCourier.Proofs.Link.Unbroken
import LinkCourier.Proofs.Shell.Plain
import LinkCourier.Proofs.Shell.Replying
import LinkCourier.Proofs.Framing.Response
import LinkCourier.Proofs.Framing.Recovery
import LinkCourier.Proofs.Framing.Queueing
import LinkCourier.Proofs.Text.Decimal
import LinkCourier.Proofs.Shell.Changing
import LinkCourier.Proofs.Endpoint.Grammar
import LinkCourier.Proofs.Endpoint.RoundTrip
import LinkCourier.Proofs.Shell.Listing
import LinkCourier.Proofs.Words
import LinkCourier.Proofs.Framing.Writing
import LinkCourier.Proofs.Framing.Progress
