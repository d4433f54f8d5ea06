import FeedCache.Fetch.Script
import FeedCache.Main
import FeedCache.Proofs.Fetch.Shape
import FeedCache.Proofs.Session.Cleanup
import FeedCache.Proofs.Session.Reuse
import FeedCache.Proofs.Store.Refinement
import FeedCache.Store.Outside
import FeedCache.Proofs.Disk.Path
import FeedCache.Proofs.Fetch.Outcome
import FeedCache.Proofs.Store.Location
import FeedCache.Proofs.Settings.StorePath
import FeedCache.Proofs.Disk.Sharing
import FeedCache.Proofs.Session.Separation
import FeedCache.Proofs.Session.Serving
import FeedCache.Proofs.Command.Files
import FeedCache.Proofs.Command.Grab
import FeedCache.Proofs.Session.Answering
import FeedCache.Proofs.Command.Interruption
import FeedCache.Proofs.Url.Percent
import FeedCache.Proofs.Url.Path
import FeedCache.Proofs.Host.Address
import FeedCache.Proofs.Host.Reading
import FeedCache.Proofs.Url.Sound
import FeedCache.Proofs.Fetch.Requests
import FeedCache.Proofs.Url.RoundTrip
import FeedCache.Proofs.Text.Characters
import FeedCache.Proofs.Fetch.Budget
import FeedCache.Proofs.Store.History
import FeedCache.Proofs.Settings.Loading
import FeedCache.Proofs.Fetch.Bounds
import FeedCache.Proofs.Store.Agreement
import FeedCache.Proofs.Session.Lifecycle
import FeedCache.Proofs.Fetch.Constant
import FeedCache.Proofs.Session.Opened
import FeedCache.Proofs.Session.Order
import FeedCache.Proofs.Command.Frame
import FeedCache.Proofs.Command.Series
import FeedCache.Proofs.Url.Location
import FeedCache.Proofs.Url.Fragment
import FeedCache.Proofs.Fetch.Fragment
import FeedCache.Proofs.Session.Fragment
import FeedCache.Proofs.Settings.Proxies
import FeedCache.Proofs.Decimal.Literal
import FeedCache.Proofs.Settings.Spelling
import FeedCache.Proofs.Settings.Variables
import FeedCache.Proofs.Fetch.Progress
import FeedCache.Proofs.Http.Capped
