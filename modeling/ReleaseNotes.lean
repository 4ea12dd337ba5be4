import ReleaseNotes.Main
import ReleaseNotes.Proofs.Attribution
import ReleaseNotes.Proofs.Deduplication
import ReleaseNotes.Proofs.LineBreaks
import ReleaseNotes.Proofs.Changelog
import ReleaseNotes.Proofs.SectionHistory
import ReleaseNotes.Proofs.Subject
import ReleaseNotes.Proofs.Title
import ReleaseNotes.Proofs.DependencyUpdate
import ReleaseNotes.Proofs.Lowercased
import ReleaseNotes.Proofs.Header
import ReleaseNotes.Proofs.Regeneration
import ReleaseNotes.Proofs.Precedence
import ReleaseNotes.Proofs.HeaderSection
import ReleaseNotes.Proofs.Json.Scanner
import ReleaseNotes.Proofs.Json.Reader
import ReleaseNotes.Proofs.Json.Writer
import ReleaseNotes.Proofs.Decoding
import ReleaseNotes.Proofs.RoundTrip
import ReleaseNotes.Proofs.EntryOrigin
import ReleaseNotes.Proofs.Account
import ReleaseNotes.Proofs.LineEnds
import ReleaseNotes.Proofs.LineCuts
import ReleaseNotes.Proofs.PullNumber
import ReleaseNotes.Proofs.PullRequest
import ReleaseNotes.Proofs.Candidates
import ReleaseNotes.Proofs.ConventionalLine
import ReleaseNotes.Proofs.SmallLetters
import ReleaseNotes.Proofs.CaseBlindness
import ReleaseNotes.Proofs.Grammar
import ReleaseNotes.Proofs.Delivery
import ReleaseNotes.Proofs.Directive
import ReleaseNotes.Proofs.CommandLine
import ReleaseNotes.Proofs.Program
import ReleaseNotes.Proofs.Resolution
import ReleaseNotes.Proofs.Continuation
import ReleaseNotes.Proofs.Condensed
import ReleaseNotes.Proofs.WrittenLines
import ReleaseNotes.Proofs.Exchange
import ReleaseNotes.Proofs.DecodeErrors
import ReleaseNotes.Proofs.KnownMembers
