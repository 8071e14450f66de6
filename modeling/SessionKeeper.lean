import SessionKeeper.Main
import SessionKeeper.Proofs.Closing.Ending
import SessionKeeper.Proofs.Closing.Exchange
import SessionKeeper.Proofs.Keeper.Steps
import SessionKeeper.Proofs.Keeper.Operation
import SessionKeeper.Proofs.Keeper.Registry
import SessionKeeper.Proofs.Keeper.Cleanup
import SessionKeeper.Proofs.Keeper.Teardown
import SessionKeeper.Proofs.Network.Conformance
import SessionKeeper.Proofs.Network.Fallback
import SessionKeeper.Proofs.Keeper.Confidential
import SessionKeeper.Proofs.Keeper.Reconnect
import SessionKeeper.Proofs.Keeper.Publication
import SessionKeeper.Proofs.Keeper.Misuse
import SessionKeeper.Proofs.Network.Boundaries
import SessionKeeper.Proofs.Keeper.LeftOpen
import SessionKeeper.Proofs.Network.Framing
import SessionKeeper.Proofs.Payload.RoundTrip
import SessionKeeper.Proofs.Message.Recovery
import SessionKeeper.Proofs.Network.Notices
import SessionKeeper.Proofs.Keeper.Treatment
import SessionKeeper.Proofs.Keeper.Bookkeeping
import SessionKeeper.Proofs.Keeper.Snapshot
import SessionKeeper.Proofs.Keeper.Isolation
import SessionKeeper.Session.Numbered
import SessionKeeper.Proofs.Keeper.Transparency
import SessionKeeper.Proofs.Keeper.Custody
import SessionKeeper.Proofs.Keeper.Leakage
import SessionKeeper.Proofs.Variables.Substitution
import SessionKeeper.Proofs.Keeper.Quietness
import SessionKeeper.Proofs.Keeper.Accounts
import SessionKeeper.Proofs.Network.Traces
import SessionKeeper.Proofs.Keeper.Farewells
import SessionKeeper.Proofs.Keeper.Aborting
import SessionKeeper.Proofs.Closing.Repetition
import SessionKeeper.Proofs.Tls.Assurance
import SessionKeeper.Proofs.Authentication.Response
import SessionKeeper.Proofs.Authentication.Parts
import SessionKeeper.Proofs.Network.Receipts
import SessionKeeper.Proofs.Message.ClientId
import SessionKeeper.Proofs.Message.Display
import SessionKeeper.Proofs.Cli.Settings
import SessionKeeper.Proofs.Message.Undeclared
import SessionKeeper.Proofs.Network.Truncation
import SessionKeeper.Proofs.Cli.Driving
import SessionKeeper.Proofs.Tls.Modes
import SessionKeeper.Proofs.Network.Progress
