import RemoteSigning.About
import RemoteSigning.Main
import RemoteSigning.Session.Network
import RemoteSigning.Proofs.Text.Coding
import RemoteSigning.Proofs.Encoding.Base64
import RemoteSigning.Proofs.Encoding.Armor
import RemoteSigning.Proofs.Encoding.DigestInfo
import RemoteSigning.Proofs.Crypto.Rsa
import RemoteSigning.Proofs.Json.Texts
import RemoteSigning.Proofs.Json.Nesting
import RemoteSigning.Proofs.Service.Transcript
import RemoteSigning.Proofs.Service.Classification
import RemoteSigning.Proofs.Token.Handles
import RemoteSigning.Proofs.Token.Selection
import RemoteSigning.Proofs.Token.Signing
import RemoteSigning.Proofs.Token.Agreement
import RemoteSigning.Proofs.Token.Calls
import RemoteSigning.Proofs.Token.Declines
import RemoteSigning.Proofs.Session.Course
import RemoteSigning.Proofs.Session.Moves
import RemoteSigning.Proofs.Session.Reachable
import RemoteSigning.Proofs.Session.Observed
import RemoteSigning.Proofs.Session.Transitions
import RemoteSigning.Proofs.Session.Dialogue
import RemoteSigning.Proofs.Session.Life
import RemoteSigning.Proofs.Session.Alone
import RemoteSigning.Proofs.Session.Isolation
import RemoteSigning.Proofs.Session.Acceptance
import RemoteSigning.Proofs.Session.Conduct
import RemoteSigning.Proofs.Session.Closing
import RemoteSigning.Proofs.Session.Escape
import RemoteSigning.Proofs.Session.Abandonment
import RemoteSigning.Proofs.Session.LastWord
import RemoteSigning.Proofs.Session.Verdict
import RemoteSigning.Proofs.Session.Sequence
import RemoteSigning.Proofs.Session.Returns
import RemoteSigning.Proofs.Session.Reports
import RemoteSigning.Proofs.Token.Meaning
import RemoteSigning.Proofs.Token.Certificates
import RemoteSigning.Proofs.Secrecy.Sessions
import RemoteSigning.Proofs.Secrecy.Cards
import RemoteSigning.Proofs.Secrecy.Adapters
import RemoteSigning.Proofs.Secrecy.Stage
import RemoteSigning.Proofs.Secrecy.Runs
import RemoteSigning.Proofs.Secrecy.Play
import RemoteSigning.Proofs.Secrecy.Destinations
import RemoteSigning.Proofs.Request.Person
import RemoteSigning.Proofs.Encoding.StrictBase64
import RemoteSigning.Proofs.Service.Digest
import RemoteSigning.Proofs.Text.Reading
import RemoteSigning.Proofs.Token.Uncancelled
import RemoteSigning.Proofs.Rehearsal.Backstage
import RemoteSigning.Proofs.Rehearsal.Requests
import RemoteSigning.Proofs.CommandLine.Asked
import RemoteSigning.Proofs.CommandLine.Document
import RemoteSigning.Proofs.Rehearsal.Calls
import RemoteSigning.Proofs.Rehearsal.Ending
import RemoteSigning.Proofs.CommandLine.Status
import RemoteSigning.Proofs.Text.Stripping
import RemoteSigning.Proofs.Algorithm.Identifiers
import RemoteSigning.Proofs.Encoding.Certificate
import RemoteSigning.Proofs.Encoding.DigestReader
import RemoteSigning.Proofs.Service.Lossless
import RemoteSigning.Proofs.Crypto.Ecdsa
import RemoteSigning.Proofs.Token.Software
import RemoteSigning.Proofs.Token.Cache
import RemoteSigning.Proofs.Session.Refusal
import RemoteSigning.Proofs.Session.Interruption
import RemoteSigning.Proofs.Session.Leftover
import RemoteSigning.Proofs.Session.Chronicle
import RemoteSigning.Proofs.Session.Log
