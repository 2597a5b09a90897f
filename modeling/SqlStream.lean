import SqlStream.Channel.Stream
import SqlStream.Connection
import SqlStream.Http.Outline
import SqlStream.Proofs.Channel.AnyOrder
import SqlStream.Proofs.Channel.Handshake
import SqlStream.Proofs.Channel.LastAnswer
import SqlStream.Proofs.Connection.CheckedFirst
import SqlStream.Proofs.Connection.EndedStream
import SqlStream.Proofs.Connection.Executed
import SqlStream.Proofs.Connection.ExpectedAnswers
import SqlStream.Proofs.Connection.KeptRollback
import SqlStream.Proofs.Connection.LostTransaction
import SqlStream.Proofs.Connection.NamedErrors
import SqlStream.Proofs.Connection.ParameterErrors
import SqlStream.Proofs.Connection.Threshold
import SqlStream.Proofs.Connection.TransactionFlag
import SqlStream.Proofs.Connection.Transactional
import SqlStream.Proofs.Http.Continuity
import SqlStream.Proofs.Http.Redirects
import SqlStream.Proofs.Http.Refusals
import SqlStream.Proofs.NamedArguments
import SqlStream.Proofs.NamedBinding
import SqlStream.Proofs.PlaceholderGaps
import SqlStream.Proofs.PositionalArguments
import SqlStream.Proofs.Prepared
import SqlStream.Proofs.Script.ChunkSize
import SqlStream.Proofs.Sql.Explained
import SqlStream.Proofs.Sql.Finality
import SqlStream.Proofs.Sql.PlainScripts
import SqlStream.Proofs.Sql.Rejoining
import SqlStream.Proofs.Sql.Tiling
import SqlStream.Proofs.Sql.Triggers
import SqlStream.Proofs.Stream.Operations
import SqlStream.Proofs.Time.ExclusiveLayouts
import SqlStream.Proofs.Value.BlobTexts
import SqlStream.Proofs.Value.CanonicalText
import SqlStream.Proofs.Value.Timestamps
import SqlStream.Proofs.Watermark
import SqlStream.Proofs.Wire.FaithfulRequests
import SqlStream.Proofs.Wire.KnownFields
