import HyderabadHomes.Transition.Interference
import HyderabadHomes.App
import HyderabadHomes.SearchExact
import HyderabadHomes.OwnerIsolation
import HyderabadHomes.CatalogRefinement
import HyderabadHomes.CatalogGuard
import HyderabadHomes.FavouritesAtomic
import HyderabadHomes.References
import HyderabadHomes.FavouritesInvisible
import HyderabadHomes.LoginSearch
import HyderabadHomes.CatalogRace
import HyderabadHomes.ProfileRace
import HyderabadHomes.ProfileRejection
import HyderabadHomes.AccountMenu
import HyderabadHomes.ListingForm
import HyderabadHomes.ProfileForm
import HyderabadHomes.ContactImport
import HyderabadHomes.ColumnLimits
import HyderabadHomes.CatalogSearch
import HyderabadHomes.FirstName
import HyderabadHomes.Sessions
import HyderabadHomes.Views
import HyderabadHomes.Effects
import HyderabadHomes.WellFormed
import HyderabadHomes.EmailRace
import HyderabadHomes.OwnerRace
import HyderabadHomes.Routing.Pattern
import HyderabadHomes.Lookup
import HyderabadHomes.ProfileMerge
import HyderabadHomes.ChartLabels
import HyderabadHomes.SessionHistory
import HyderabadHomes.Orphans
import HyderabadHomes.Confirmation
import HyderabadHomes.Cancellation
import HyderabadHomes.Accounts
import HyderabadHomes.Redirects
import HyderabadHomes.SearchAgreement
import HyderabadHomes.RedirectChains
import HyderabadHomes.Redelivery
