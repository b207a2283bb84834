import Replay.Main
import Replay.Proofs.Json.Reading
import Replay.Proofs.Json.Text
import Replay.Proofs.Json.Numeral
import Replay.Proofs.Json.Scalar
import Replay.Proofs.Json.Items
import Replay.Proofs.Json.Value
import Replay.Proofs.LastNamed
import Replay.Proofs.Responder.Identifier
import Replay.Proofs.Text.Decimal
import Replay.Proofs.Http.DeclaredLength
import Replay.Proofs.Responder.Decision
import Replay.Proofs.Catalogue.Document
import Replay.Proofs.Catalogue.Loading
import Replay.Proofs.Responder.EndToEnd
import Replay.Proofs.Responder.Posted
import Replay.Proofs.Wire.Reply
import Replay.Proofs.Server.Intake
import Replay.Proofs.Server.Tracker
import Replay.Proofs.Server.Waiters
import Replay.Proofs.Server.Drain
import Replay.Proofs.Server.Conversation
import Replay.Proofs.Catalogue.Agreement
import Replay.Proofs.Catalogue.Shapes
import Replay.Proofs.Wire.FieldMap
import Replay.Proofs.Wire.Sent
import Replay.Proofs.Wire.Taken
import Replay.Proofs.Wire.Framing
import Replay.Proofs.Server.Chunked
import Replay.Proofs.Catalogue.Failing
import Replay.Proofs.Catalogue.Views
import Replay.Proofs.Settings
import Replay.Proofs.Server.Oversize
import Replay.Proofs.Server.Posting
import Replay.Proofs.Program
import Replay.Proofs.Failure.Tiers
import Replay.Proofs.Failure.Messages
