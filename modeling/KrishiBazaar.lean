import KrishiBazaar.Schema
import KrishiBazaar.Lib.Run
import KrishiBazaar.Lib.Pool
import KrishiBazaar.Lib.Duo
import KrishiBazaar.Marketplace
import KrishiBazaar.Lots
import KrishiBazaar.Offers
import KrishiBazaar.Payments
import KrishiBazaar.Logistics
import KrishiBazaar.Requests
import KrishiBazaar.Moves
import KrishiBazaar.Pooling
import KrishiBazaar.FinalLots
import KrishiBazaar.Settlement
import KrishiBazaar.Oversell
import KrishiBazaar.DeadOffers
import KrishiBazaar.Isolation
import KrishiBazaar.Capacity
import KrishiBazaar.Inbound
import KrishiBazaar.Series
import KrishiBazaar.Alerts
import KrishiBazaar.Cooldown
import KrishiBazaar.Checkers
import KrishiBazaar.Crossing
import KrishiBazaar.OpenPayments
import KrishiBazaar.Backing
import KrishiBazaar.Overbooking
import KrishiBazaar.Acceptance
import KrishiBazaar.Prices
import KrishiBazaar.SamePrice
import KrishiBazaar.Lib.FirstSeen
import KrishiBazaar.Matching
import KrishiBazaar.SaleWindow
import KrishiBazaar.Replies
import KrishiBazaar.Unregistered
import KrishiBazaar.QuotedAdvice
import KrishiBazaar.Forecasting
import KrishiBazaar.ForecastRuns
import KrishiBazaar.Horizon
import KrishiBazaar.DayOne
import KrishiBazaar.Ties
import KrishiBazaar.Lib.Chunk
import KrishiBazaar.Ingestion
import KrishiBazaar.Accounting
import KrishiBazaar.Conflicts
import KrishiBazaar.DataGovIn
import KrishiBazaar.Truncation
import KrishiBazaar.JobLocks
import KrishiBazaar.Grievances
import KrishiBazaar.Regrading
import KrishiBazaar.GradeCache
import KrishiBazaar.SeededGrade
import KrishiBazaar.Ledger
import KrishiBazaar.Lib.Tx
import KrishiBazaar.Roles
import KrishiBazaar.Lib.LeastSquares
import KrishiBazaar.Regression
import KrishiBazaar.Bands
import KrishiBazaar.Lib.Fault
import KrishiBazaar.Faults
import KrishiBazaar.HalfPaid
import KrishiBazaar.HalfPooled
import KrishiBazaar.Sweeps
import KrishiBazaar.Pages
import KrishiBazaar.RunOrder
import KrishiBazaar.Phones
import KrishiBazaar.Lib.Limiter
import KrishiBazaar.OutboundCap
import KrishiBazaar.Subscribers
import KrishiBazaar.Lib.OrderStat
import KrishiBazaar.SupplyOrder
import KrishiBazaar.TrueAdvice
import KrishiBazaar.Lib.PageEnds
import KrishiBazaar.Trends
import KrishiBazaar.Lib.Numeric
import KrishiBazaar.Columns
import KrishiBazaar.MarketKeys
import KrishiBazaar.Lib.Loop
import KrishiBazaar.Fetching
import KrishiBazaar.ProviderRefs
import KrishiBazaar.SaleSms
import KrishiBazaar.Locality
import KrishiBazaar.Lib.StableSort
import KrishiBazaar.Nearest
import KrishiBazaar.NearbyStorage
import KrishiBazaar.BuyerSupply
import KrishiBazaar.Lib.History
import KrishiBazaar.Provenance
import KrishiBazaar.Webhook
import KrishiBazaar.Checks
import KrishiBazaar.OwnAlerts
import KrishiBazaar.Lib.Upserts
import KrishiBazaar.PriceStore
import KrishiBazaar.JobRunners
import KrishiBazaar.Reads
import KrishiBazaar.Lib.Policies
import KrishiBazaar.RowSecurity
import KrishiBazaar.Lib.Rely
import KrishiBazaar.Interleaved
import KrishiBazaar.LiveForecasts
import KrishiBazaar.ListedSupply
import KrishiBazaar.BetterTerms
import KrishiBazaar.ForecastStats
import KrishiBazaar.LastingLedger
import KrishiBazaar.Agmarknet
