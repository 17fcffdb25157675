import PriceTracker.Main
import PriceTracker.Web.Fetch
import PriceTracker.Proofs.FirstOccurrences
import PriceTracker.Proofs.Storage.Insertion
import PriceTracker.Proofs.Storage.Creation
import PriceTracker.Proofs.Storage.Growth
import PriceTracker.Proofs.Storage.RowByRow
import PriceTracker.Proofs.Storage.FailedWrites
import PriceTracker.Proofs.Delivery.Ledger
import PriceTracker.Proofs.Delivery.Tables
import PriceTracker.Proofs.Text.Trimming
import PriceTracker.Proofs.Text.Words
import PriceTracker.Proofs.Number.Amounts
import PriceTracker.Proofs.Number.Ranks
import PriceTracker.Proofs.Number.Nearest
import PriceTracker.Proofs.Number.Digits
import PriceTracker.Proofs.Price.Reading
import PriceTracker.Proofs.Price.Writing
import PriceTracker.Proofs.Product.Blocks
import PriceTracker.Proofs.Delivery.Prices
import PriceTracker.Proofs.Url.Domain
import PriceTracker.Proofs.Url.Marks
import PriceTracker.Proofs.Url.Page
import PriceTracker.Proofs.Crawl.Frontier
import PriceTracker.Proofs.Crawl.Turn
import PriceTracker.Proofs.Crawl.History
import PriceTracker.Proofs.Crawl.Termination
import PriceTracker.Proofs.Crawl.Links
import PriceTracker.Proofs.Crawl.Coverage
import PriceTracker.Proofs.Crawl.Stopping
import PriceTracker.Proofs.Crawl.Handover
import PriceTracker.Proofs.Crawl.Answers
import PriceTracker.Proofs.Crawl.Lockstep
import PriceTracker.Proofs.Crawl.Resumption
import PriceTracker.Proofs.Crawl.Recast
import PriceTracker.Proofs.Crawl.Reliable
import PriceTracker.Proofs.Crawl.Tuning
import PriceTracker.Proofs.Crawl.PageLimit
import PriceTracker.Proofs.Delivery.Trace
import PriceTracker.Proofs.Delivery.Journal
import PriceTracker.Proofs.Delivery.Operations
import PriceTracker.Proofs.Delivery.Orphans
import PriceTracker.Proofs.Crawl.Failures
import PriceTracker.Proofs.Delivery.Sharing
import PriceTracker.Proofs.Storage.Provision
import PriceTracker.Proofs.Crawl.Repetition
import PriceTracker.Proofs.Delivery.TableNames
import PriceTracker.Proofs.Delivery.Fidelity
import PriceTracker.Proofs.Text.Alphanumeric
import PriceTracker.Proofs.Crawl.Startup
import PriceTracker.Proofs.Crawl.Spacing
import PriceTracker.Proofs.Crawl.Stages
import PriceTracker.Proofs.Crawl.Launch
import PriceTracker.Proofs.Crawl.Accounting
import PriceTracker.Proofs.Url.Visible
import PriceTracker.Proofs.Orbits
import PriceTracker.Proofs.Html.Walks
import PriceTracker.Proofs.Html.Cutting
import PriceTracker.Proofs.Html.Trees
import PriceTracker.Proofs.Catalog.Availability
import PriceTracker.Proofs.Crawl.References
import PriceTracker.Proofs.Catalog.Listing
import PriceTracker.Proofs.Crawl.Addresses
import PriceTracker.Proofs.Crawl.Queueing
import PriceTracker.Proofs.Calendar.Writing
import PriceTracker.Proofs.Storage.Days
import PriceTracker.Proofs.Crawl.Batches
import PriceTracker.Proofs.Environment.Shadowing
import PriceTracker.Proofs.Settings.BlankVariables
import PriceTracker.Proofs.Product.Range
import PriceTracker.Proofs.Web.ContentType
