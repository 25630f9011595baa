import HyderabadHomes.ActiveRecord
import HyderabadHomes.Relational.ForeignKey

/-! Routes, pages, responses and the session of one browser. -/
namespace HyderabadHomes
open Relational

/-- The columns that both search pages show and that DISTINCT ON compares. -/
structure ListingKey where
  location : Option String
  propertyId : Option Int
  kindId : Option Int
deriving DecidableEq,Repr

inductive Path
  | root
  | homeSearchProperties
  | homeAddToCart
  | homeAddToFavourites
  | newUserRegistration
  | newUserSession
  | newAdministratorRegistration
  | newAdministratorSession
  | usersDashboardIndex
  | usersProfile (id : Int)
  | usersUserProperties
  | usersUserProperty (id : Int)
  | usersUserLookingForProperties
  | usersUserLookingForProperty (id : Int)
  | administratorsDashboardIndex
  | administratorsCatalog (c : Catalog)
  | administratorsCatalogRow (c : Catalog) (id : Int)
deriving DecidableEq,Repr

inductive Template
  | new
  | edit
  | fixed
deriving DecidableEq,Repr

/-- A rendered page: listings appear with the catalog rows whose names the view prints. -/
inductive Page
  | template (name : Template)
  | searchResults (rows : List (Row ListingKey × Row Named × Row Named))
  | userProperties (rows : List (Row UserProperty × Row Named × Row Named))
  | userLookingForProperties (rows : List (Row UserLookingForProperty × Row Named × Row Named))
  | profile (row : Row Profile)
  | catalog (rows : List (Row Named))
deriving DecidableEq,Repr

inductive Response
  | redirect (path : Path) (notice : Option String)
  | render (page : Page)
  | error (e : Error)
deriving DecidableEq,Repr

structure Session where
  user : Option Int
  administrator : Option Int
  returnTo : Option Path
  location : Option String
  property : Option Int
  lookingFor : Option Int
deriving DecidableEq,Repr

def Session.empty : Session := ⟨none,none,none,none,none,none⟩

/-- `.property` and `.ownership_type` or `.looking_for` of a listing, as the views
read them: an association whose row is gone is nil, and nil has no `name`. -/
def dereference (properties kinds : Table Named) (propertyId kindId : Option Int) :
    Except Error (Row Named × Row Named) :=
  match propertyId.bind properties.find?,kindId.bind kinds.find? with
  | some p,some k => .ok (p,k)
  | _,_ => .error .noMethod

/-- A view's row loop; the first exception ends it. -/
def renderRows {α : Type} (properties kinds : Table Named) (propertyId kindId : α → Option Int) :
    List (Row α) → Except Error (List (Row α × Row Named × Row Named))
  | [] => .ok []
  | row :: rest =>
    match dereference properties kinds (propertyId row.val) (kindId row.val) with
    | .error e => .error e
    | .ok names =>
      match renderRows properties kinds propertyId kindId rest with
      | .error e => .error e
      | .ok shown => .ok ((row,names) :: shown)

theorem dereference_ok {properties kinds : Table Named} {propertyId kindId : Option Int}
    (property : Refers propertyId properties) (kind : Refers kindId kinds) :
    ∃ names, dereference properties kinds propertyId kindId = .ok names := by
  obtain ⟨p,hp⟩ := refers_iff_find.mp property
  obtain ⟨k,hk⟩ := refers_iff_find.mp kind
  exact ⟨(p,k),by simp only [dereference,hp,hk]⟩

theorem dereference_ids {properties kinds : Table Named} {propertyId kindId : Option Int} {p k : Row Named}
    (ok : dereference properties kinds propertyId kindId = .ok (p,k)) :
    propertyId = some p.id ∧ kindId = some k.id := by
  unfold dereference at ok
  split at ok
  · rename_i p' k' hp hk
    cases ok
    obtain ⟨i,rfl,found⟩ := Option.bind_eq_some_iff.mp hp
    obtain ⟨j,rfl,found'⟩ := Option.bind_eq_some_iff.mp hk
    rw [(Table.find?_eq_some.mp found).2,(Table.find?_eq_some.mp found').2]
    exact ⟨rfl,rfl⟩
  · cases ok

theorem renderRows_ok {α : Type} {properties kinds : Table Named} {propertyId kindId : α → Option Int}
    {rows : List (Row α)}
    (refers : ∀ row ∈ rows, Refers (propertyId row.val) properties ∧ Refers (kindId row.val) kinds) :
    ∃ shown, renderRows properties kinds propertyId kindId rows = .ok shown ∧ shown.map (·.1) = rows := by
  induction rows with
  | nil => exact ⟨[],rfl,rfl⟩
  | cons row rest ih =>
    obtain ⟨property,kind⟩ := refers row (by simp)
    obtain ⟨names,here⟩ := dereference_ok property kind
    obtain ⟨shown,later,same⟩ := ih (fun r member => refers r (by simp [member]))
    exact ⟨(row,names) :: shown,by simp only [renderRows,here,later],by simp [same]⟩

end HyderabadHomes
