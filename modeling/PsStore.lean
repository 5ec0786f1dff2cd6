import PsStore.Lib.Transition
import PsStore.Lib.FirstWins
import PsStore.Application.Cache
import PsStore.Application.CacheRuns
import PsStore.Application.CacheOutcomes
import PsStore.Application.GameLookup
import PsStore.Application.InFlight
import PsStore.Sources.Igdb.TokenRotation
import PsStore.Domain.DateNormalisation
import PsStore.Application.ListedCards
import PsStore.Application.ReleaseFlags
import PsStore.Sources.Transport
import PsStore.Sources.Sony.Catalog
import PsStore.Sources.Sony.Account
import PsStore.Sources.Sony.DecodeAccounting
import PsStore.Sources.Sony.ServerErrors
import PsStore.Application.ProductDrift
import PsStore.Application.UniqueIds
import PsStore.Application.BrowseCandidates
import PsStore.Application.WishlistEnrichment
import PsStore.Http.SignedIn
import PsStore.Contract.ManifestDiff
import PsStore.Web.ReleaseDay
import PsStore.Web.SortGames
import PsStore.Web.PrefetchAbort
import PsStore.Domain.CriticMatch
import PsStore.Domain.EditionPhrases
import PsStore.Observability
import PsStore.Lib.Binary64
import PsStore.Domain.Js
import PsStore.Sources.Igdb.Query
import PsStore.Domain.Collation
import PsStore.Sources.Sony.GenreMenu
import PsStore.Sources.Sony.ProductPrice
import PsStore.Application.CardEnrichment
import PsStore.Http.Session
import PsStore.Domain.DateOverflow
import PsStore.Lib.Utf8
import PsStore.Http.Params
import PsStore.Sources.Sony.AccessCode
import PsStore.Web.SearchTerm
import PsStore.Domain.SearchScope
import PsStore.Web.Price
import PsStore.Http.StaticSite
import PsStore.Lib.JsonText
import PsStore.Lib.CookieJar
import PsStore.Domain.Payload
import PsStore.Http.Problem
import PsStore.Client.Schema
import PsStore.Client.Call
import PsStore.Client.Answers
import PsStore.Client.Requests
import PsStore.Http.App
import PsStore.Http.Documented
import PsStore.Http.SessionEffect
import PsStore.Http.Browser
import PsStore.Http.SessionRuns
import PsStore.Web.Shell
import PsStore.Web.ListView
import PsStore.Web.ViewOrder
import PsStore.Application.CriticScores
import PsStore.Web.Persistence
import PsStore.Sources.Sony.Wire
import PsStore.Web.LoadedPages
