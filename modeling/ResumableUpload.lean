import ResumableUpload.Service.Reply
import ResumableUpload.Setting.Environment
import ResumableUpload.Activity
import ResumableUpload.Bytes
import ResumableUpload.Call
import ResumableUpload.Cipher.Aes
import ResumableUpload.Cipher.Feedback
import ResumableUpload.Cipher.Part
import ResumableUpload.Client.Chunking
import ResumableUpload.Client.Failure
import ResumableUpload.Client.Upload
import ResumableUpload.Digest.Sha256
import ResumableUpload.File.ETag
import ResumableUpload.Form.Decoding
import ResumableUpload.Form.Rules
import ResumableUpload.Http.Message
import ResumableUpload.Json.Display
import ResumableUpload.Rehearsal
import ResumableUpload.Remote.Registry
import ResumableUpload.Remote.Secrets
import ResumableUpload.S3.Instant
import ResumableUpload.S3.Request
import ResumableUpload.S3.Storage
import ResumableUpload.Service.Wiring
import ResumableUpload.Proofs.Store.Parts
import ResumableUpload.Proofs.Upload.Stage
import ResumableUpload.Proofs.Store.Holding
import ResumableUpload.Proofs.Upload.Turn
import ResumableUpload.Proofs.Upload.Traffic
import ResumableUpload.Proofs.Upload.Course
import ResumableUpload.Proofs.Upload.Contents
import ResumableUpload.Proofs.Upload.Ledger
import ResumableUpload.Proofs.Upload.Custody
import ResumableUpload.Proofs.Upload.Law
import ResumableUpload.Proofs.Upload.Orderly
import ResumableUpload.Proofs.Upload.Assembly
import ResumableUpload.Proofs.Key
import ResumableUpload.Proofs.Upload.Secrecy
import ResumableUpload.Proofs.Cipher.Feedback
import ResumableUpload.Proofs.Upload.Completion
import ResumableUpload.Proofs.Upload.Delivery
import ResumableUpload.Proofs.Upload.Alone
import ResumableUpload.Proofs.Upload.Finality
import ResumableUpload.Proofs.Upload.Recording
import ResumableUpload.Proofs.Upload.Sending
import ResumableUpload.Proofs.Upload.Resumption
import ResumableUpload.Proofs.Text.Decimal
import ResumableUpload.Proofs.Bytes
import ResumableUpload.Proofs.Form.Description
import ResumableUpload.Proofs.Service.Serving
import ResumableUpload.Proofs.Upload.Arrival
import ResumableUpload.Proofs.Client.Composition
import ResumableUpload.Proofs.Upload.Transcript
import ResumableUpload.Proofs.Upload.Itinerary
import ResumableUpload.Proofs.Text.Trim
import ResumableUpload.Proofs.Upload.Verdict
import ResumableUpload.Proofs.Upload.Residue
import ResumableUpload.Proofs.Upload.Faithful
import ResumableUpload.Proofs.Upload.Enrolment
import ResumableUpload.Proofs.Upload.Resending
import ResumableUpload.Proofs.S3.Provider
import ResumableUpload.Proofs.S3.Stage
import ResumableUpload.Proofs.S3.Mirror
import ResumableUpload.Proofs.S3.Agreement
import ResumableUpload.Proofs.S3.Race
import ResumableUpload.Proofs.S3.Standing
import ResumableUpload.Proofs.S3.Convergence
import ResumableUpload.Proofs.Dialogue
import ResumableUpload.Proofs.S3.Remains
import ResumableUpload.Proofs.Upload.Remnant
import ResumableUpload.Proofs.Http.Url
import ResumableUpload.Proofs.Remote.Target
import ResumableUpload.Proofs.Service.Codes
import ResumableUpload.Proofs.Service.Tracing
import ResumableUpload.Proofs.Service.Distinction
import ResumableUpload.Proofs.Service.Simulation
import ResumableUpload.Proofs.Service.Crowd
import ResumableUpload.Proofs.Service.Acceptance
import ResumableUpload.Proofs.Service.Account
import ResumableUpload.Proofs.Service.Duration
import ResumableUpload.Proofs.Service.Probing
import ResumableUpload.Proofs.Upload.Registration
import ResumableUpload.Proofs.Service.Reporting
import ResumableUpload.Proofs.Service.Session
import ResumableUpload.Proofs.Service.Digest
import ResumableUpload.Proofs.Store.Addressing
import ResumableUpload.Proofs.Service.Isolation
import ResumableUpload.Proofs.Form.Recovery
import ResumableUpload.Proofs.Client.Understanding
import ResumableUpload.Proofs.Service.Admission
import ResumableUpload.Proofs.Cipher.Part
import ResumableUpload.Proofs.Store.History
import ResumableUpload.Proofs.Service.Discretion
import ResumableUpload.Proofs.Form.Violation
import ResumableUpload.Proofs.Client.Conversation
import ResumableUpload.Proofs.Client.Size
import ResumableUpload.Proofs.S3.Paging
import ResumableUpload.Proofs.S3.Choice
import ResumableUpload.Proofs.Text.Hex
import ResumableUpload.Proofs.Key.Keeping
