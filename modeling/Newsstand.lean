import Newsstand.Aggregator.Session
import Newsstand.Breaker.RingBuffer
import Newsstand.Breaker.Run
import Newsstand.CommandLine.Run
import Newsstand.Config.Reading
import Newsstand.Feed.Document
import Newsstand.Main
import Newsstand.Outline
import Newsstand.Proofs.Aggregator.Feeds
import Newsstand.Proofs.Aggregator.Group
import Newsstand.Proofs.Aggregator.OneByOne
import Newsstand.Proofs.Aggregator.Rest
import Newsstand.Proofs.Aggregator.Subscriptions
import Newsstand.Proofs.Aggregator.Traffic
import Newsstand.Proofs.Aggregator.Workers
import Newsstand.Proofs.Breaker.RingBuffer
import Newsstand.Proofs.Breaker.Span
import Newsstand.Proofs.Breaker.Trial
import Newsstand.Proofs.Breaker.Trip
import Newsstand.Proofs.CommandLine.Runs
import Newsstand.Proofs.Config.Warnings
import Newsstand.Proofs.Documents.Doctype
import Newsstand.Proofs.Documents.SelfClosing
import Newsstand.Proofs.Feed.Acceptance
import Newsstand.Proofs.Feed.Anchors
import Newsstand.Proofs.Feed.Discipline
import Newsstand.Proofs.Feed.Extraction
import Newsstand.Proofs.Feed.Influence
import Newsstand.Proofs.Feed.Reference
import Newsstand.Proofs.Feed.Rendering
import Newsstand.Proofs.Feed.Slots
import Newsstand.Proofs.Fetch.Accounts
import Newsstand.Proofs.Fetch.Body
import Newsstand.Proofs.Fetch.Chronicle
import Newsstand.Proofs.Fetch.Course
import Newsstand.Proofs.Fetch.Grants
import Newsstand.Proofs.Fetch.Line
import Newsstand.Proofs.Fetch.Moves
import Newsstand.Proofs.Fetch.OneByOne
import Newsstand.Proofs.Fetch.Progress
import Newsstand.Proofs.Fetch.Results
import Newsstand.Proofs.Fetch.Start
import Newsstand.Proofs.Fetch.Sweep
import Newsstand.Proofs.Fetch.Traffic
import Newsstand.Proofs.Outline.Depth
import Newsstand.Proofs.Outline.Guard
import Newsstand.Proofs.Outline.Links
import Newsstand.Proofs.Outline.Listing
import Newsstand.Proofs.Outline.Truncation
import Newsstand.Proofs.Store.Distinctness
import Newsstand.Proofs.Store.Durability
import Newsstand.Proofs.Store.History
import Newsstand.Proofs.Store.Interchange
import Newsstand.Proofs.Store.Numbering
import Newsstand.Proofs.Store.Opening
import Newsstand.Proofs.WorkerPool.Admission
import Newsstand.Proofs.WorkerPool.Conservation
import Newsstand.Proofs.WorkerPool.Fairness
import Newsstand.Proofs.WorkerPool.Waiting
import Newsstand.Proofs.Xml.Beginning
import Newsstand.Proofs.Xml.Continuation
import Newsstand.Proofs.Xml.Cutting
import Newsstand.Proofs.Xml.Expansion
import Newsstand.Proofs.Xml.Keys
import Newsstand.Proofs.Xml.Level
import Newsstand.Proofs.Xml.Order
import Newsstand.Proofs.Xml.Place
import Newsstand.Proofs.Xml.References
import Newsstand.Proofs.Xml.Spelling
import Newsstand.Store.Run
import Newsstand.WorkerPool.Run
