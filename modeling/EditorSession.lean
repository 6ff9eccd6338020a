import EditorSession.Integration.Shared
import EditorSession.Main
import EditorSession.Proofs.Backend.Agreement
import EditorSession.Proofs.Integration.Association
import EditorSession.Proofs.Session.Marking
import EditorSession.Proofs.Session.Lifecycle
import EditorSession.Proofs.Integration.History
import EditorSession.Proofs.Session.Conduct
import EditorSession.Proofs.Session.Isolation
import EditorSession.Proofs.Integration.Isolation
import EditorSession.Proofs.Integration.Unwinding
import EditorSession.Proofs.Integration.Order
import EditorSession.Proofs.Channel.Unrelated
import EditorSession.Proofs.Handshake
import EditorSession.Proofs.Message.RoundTrip
import EditorSession.Proofs.Activation
import EditorSession.Proofs.Configuration.Overlay
import EditorSession.Proofs.Replay.Rehearsal
import EditorSession.Proofs.Backend.Whereabouts
import EditorSession.Proofs.Session.Batch
import EditorSession.Proofs.Frame.Grammar
import EditorSession.Proofs.Channel.Taken
import EditorSession.Proofs.Integration.Spelling
import EditorSession.Proofs.Replay.Ending
import EditorSession.Proofs.Replay.Chain
import EditorSession.Proofs.Replay.Interruption
import EditorSession.Proofs.Session.Register
import EditorSession.Proofs.Text.Refusal
