import Audience.Catalog
import Audience.Dashboard.Refresh
import Audience.Json.Printer
import Audience.Preview
import Audience.Proofs.Fallbacks
import Audience.Proofs.Residue
import Audience.Proofs.Runs
import Audience.Proofs.Shown
import Audience.Proofs.Interference
import Audience.Proofs.Badges
import Audience.Proofs.Quiet
import Audience.Proofs.Composition
import Audience.Proofs.Segments
import Audience.Proofs.Previews
import Audience.Proofs.Order
import Audience.Proofs.Interchange
import Audience.Proofs.Partition
import Audience.Proofs.Loading
import Audience.Proofs.Selecting
import Audience.Proofs.Rates
import Audience.Proofs.Totals
import Audience.Proofs.Quotes
import Audience.Proofs.Unanswered
import Audience.Proofs.Thresholds
import Audience.Proofs.Samples
import Audience.Proofs.Sidebars
import Audience.Proofs.Inert
import Audience.Proofs.AllowLists
import Audience.Proofs.Intervals
import Audience.Proofs.WholeAmounts
import Audience.Proofs.Locations
import Audience.Proofs.Occurrences
import Audience.Proofs.ClientLookups
import Audience.Proofs.Conversions
import Audience.Proofs.WholeTotals
import Audience.Proofs.SpelledAmounts
