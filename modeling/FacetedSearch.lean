import FacetedSearch.Definition.Search
import FacetedSearch.Session
import FacetedSearch.Proofs.Filter.Selection
import FacetedSearch.Proofs.Request.Meaning
import FacetedSearch.Proofs.Search.Call
import FacetedSearch.Proofs.Search.Paging
import FacetedSearch.Proofs.Search.Reachable
import FacetedSearch.Proofs.Search.Brackets
import FacetedSearch.Proofs.Search.MorePages
import FacetedSearch.Proofs.Request.SelfExclusion
import FacetedSearch.Proofs.Request.SeededFilter
import FacetedSearch.Proofs.Search.Absorb
import FacetedSearch.Proofs.Session.Delivery
import FacetedSearch.Proofs.Session.Replay
import FacetedSearch.Proofs.Search.Reselect
import FacetedSearch.Proofs.Search.SortCell
import FacetedSearch.Proofs.Request.SwitchedOff
import FacetedSearch.Proofs.Search.Interleaving
import FacetedSearch.Proofs.Search.Offered
import FacetedSearch.Proofs.Search.RangeIds
import FacetedSearch.Proofs.Request.Recount
import FacetedSearch.Proofs.Request.Passes
import FacetedSearch.Proofs.Filter.Check
import FacetedSearch.Proofs.Search.WellFormed
import FacetedSearch.Proofs.Definition.Document
import FacetedSearch.Proofs.Facet.RangeGrammar
import FacetedSearch.Proofs.Search.NumericValue
import FacetedSearch.Proofs.Filter.FacetTotal
import FacetedSearch.Proofs.Request.Rejection
import FacetedSearch.Proofs.Request.Union
import FacetedSearch.Proofs.Request.Repetition
import FacetedSearch.Proofs.Request.Extension
import FacetedSearch.Proofs.Search.OneFilter
import FacetedSearch.Proofs.Definition.SetUp
import FacetedSearch.Proofs.Text.Thousands
