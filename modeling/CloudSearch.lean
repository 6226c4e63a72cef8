import CloudSearch.Client
import CloudSearch.Document.Reader
import CloudSearch.Domain.Resolver
import CloudSearch.Filter.OfJson
import CloudSearch.Schema
import CloudSearch.Proofs.Client
import CloudSearch.Proofs.Document.Nulls
import CloudSearch.Proofs.Document.RoundTrip
import CloudSearch.Proofs.Domain.Interleaving
import CloudSearch.Proofs.Domain.Runs
import CloudSearch.Proofs.Domain.SearchUrl
import CloudSearch.Proofs.Domain.Words
import CloudSearch.Proofs.Filter.Meaning
import CloudSearch.Proofs.Filter.Noise
import CloudSearch.Proofs.Filter.Portable
import CloudSearch.Proofs.Filter.Tightening
import CloudSearch.Proofs.Geo.Corners
import CloudSearch.Proofs.Page.Entries
import CloudSearch.Proofs.Page.Hits
import CloudSearch.Proofs.Schema
import CloudSearch.Proofs.Search.Names
import CloudSearch.Proofs.Search.Paging
import CloudSearch.Proofs.Search.StructuredQuery
import CloudSearch.Proofs.Search.Url
import CloudSearch.Proofs.Text.Quoted
import CloudSearch.Proofs.Version
