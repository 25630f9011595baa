import HyderabadHomes.Search
import Mathlib.Data.List.Dedup

/-! `HomeController`: the public search, the way through registration to the
favourites page, and the copying of favourites. -/
namespace HyderabadHomes
open Relational

structure Criteria where
  propertyId : Option String
  kindId : Option String
deriving DecidableEq,Repr

/-- `find(ids)`: nils and repetitions are dropped, and a row short is an error. -/
def findMany {α : Type} (t : Table α) (ids : List (Option String)) : Except Error (List (Row α)) :=
  if ids.isEmpty then .ok []
  else
    let wanted := (ids.filterMap id).dedup
    let found := t.rows.filter fun row => wanted.any fun s => Ruby.toI s == row.id
    if wanted.isEmpty || found.length != wanted.length then .error .recordNotFound
    else .ok found

theorem findMany_ok {α : Type} {t : Table α} {ids : List (Option String)} {found : List (Row α)}
    (ok : findMany t ids = .ok found) :
    (ids = [] ∧ found = []) ∨
      (found = t.rows.filter (fun row => (ids.filterMap id).dedup.any fun s => Ruby.toI s == row.id) ∧
        found.length = (ids.filterMap id).dedup.length) := by
  unfold findMany at ok
  split at ok
  · rename_i none
    cases ok
    exact .inl ⟨List.isEmpty_iff.mp none,rfl⟩
  · simp only at ok
    split at ok
    · cases ok
    · rename_i complete
      cases ok
      simp only [Bool.or_eq_true,bne_iff_ne,not_or,not_not] at complete
      exact .inr ⟨rfl,complete.2⟩

theorem findMany_mem {α : Type} {t : Table α} {ids : List (Option String)} {found : List (Row α)}
    (ok : findMany t ids = .ok found) : ∀ row ∈ found, row ∈ t.rows := by
  intro row member
  rcases findMany_ok ok with ⟨_,none⟩ | ⟨rows,_⟩
  · rw [none] at member
    cases member
  · rw [rows] at member
    exact (List.mem_filter.mp member).1

namespace HomeController

/-- What one pass of the loop of `_search_properties.html.erb` leaves in the session. -/
def remember (session : Session) (shown : Row ListingKey × Row Named × Row Named) : Session :=
  {session with location := shown.1.val.location,property := some shown.2.1.id,lookingFor := some shown.2.2.id}

def renderSearch (db : Db) (session : Session) (rows : List (Row ListingKey)) : Session × Response :=
  match renderRows db.properties db.lookingFors ListingKey.propertyId ListingKey.kindId rows with
  | .error e => (session,.error e)
  | .ok shown => (shown.foldl remember session,.render (.searchResults shown))

/-- Without `params[:search]`, nil is asked for `[]`. -/
def searchProperties (plan : Plan) (db : Db) (search : Option Criteria) (addr : Option String) (session : Session) :
    Session × Response :=
  match search with
  | none => (session,.error .noMethod)
  | some criteria =>
    match UserLookingForProperty.search plan db (.ofText criteria.propertyId) (.ofText criteria.kindId)
        (.ofText addr) with
    | .error e => (session,.error e)
    | .ok rows => renderSearch db session rows

/-- `deny_access` stores the path of the request itself. -/
def addToCart (currentUser : Option Int) (session : Session) : Session × Response :=
  match currentUser with
  | none => ({session with returnTo := some .homeAddToCart},.redirect .newUserRegistration (some "Need to Register"))
  | some _ => (session,.redirect .homeAddToFavourites none)

def addToFavourites (plan : Plan) (db : Db) (session : Session) : Session × Response :=
  match UserLookingForProperty.search plan db (.ofInteger session.property) (.ofInteger session.lookingFor)
      (.ofText session.location) with
  | .error e => (session,.error e)
  | .ok rows => renderSearch db session rows

def copyOf (currentUser : Int) (product : UserLookingForProperty) : UserLookingForProperty :=
  {UserLookingForProperty.fresh with
    userId := some currentUser
    propertyId := product.propertyId
    location := product.location
    lookingForId := product.lookingForId}

/-- The result of `save` is dropped; only an exception ends the loop. -/
def saveCopies (currentUser : Int) (answer : Row UserLookingForProperty → Geocoding) :
    List (Row UserLookingForProperty) → Table UserLookingForProperty → Table UserLookingForProperty × Option Error
  | [],t => (t,none)
  | product :: rest,t =>
    match UserLookingForProperty.model.save (answer product) (copyOf currentUser product.val) with
    | .stored stored => saveCopies currentUser answer rest (t.insert stored)
    | .rejected => saveCopies currentUser answer rest t
    | .raised e => (t,some e)

def favouritesAdded : Response :=
  .redirect .usersUserLookingForProperties (some "Your Favourites added successfully....")

def createProperties (currentUser : Option Int) (property : Option (List (Option String)))
    (answer : Row UserLookingForProperty → Geocoding) (t : Table UserLookingForProperty) :
    Table UserLookingForProperty × Response :=
  match property with
  | none => (t,.error .recordNotFound)
  | some ids =>
    match findMany t ids with
    | .error e => (t,.error e)
    | .ok products =>
      match currentUser with
      | none => (t,if products.isEmpty then favouritesAdded else .error .noMethod)
      | some user =>
        match saveCopies user answer products t with
        | (t',none) => (t',favouritesAdded)
        | (t',some e) => (t',.error e)

theorem copy_stored {user : Int} {answer : Geocoding} {product stored : UserLookingForProperty}
    (ok : UserLookingForProperty.model.save answer (copyOf user product) = .stored stored) :
    stored.userId = some user ∧ UserLookingForProperty.model.keyOf stored = UserLookingForProperty.model.keyOf product ∧
      stored.price = none := by
  obtain ⟨latitude,longitude,_,_,_,rfl⟩ := saveGeocoded_stored ok
  exact ⟨rfl,rfl,rfl⟩

theorem saveCopies_effect (user : Int) (answer : Row UserLookingForProperty → Geocoding)
    (products : List (Row UserLookingForProperty)) (t : Table UserLookingForProperty) :
    ∃ added, (saveCopies user answer products t).1 = t.insertAll added ∧
      ∀ copy ∈ added, ∃ product ∈ products, copy.userId = some user ∧ copy.price = none ∧
        UserLookingForProperty.model.keyOf copy = UserLookingForProperty.model.keyOf product.val := by
  induction products generalizing t with
  | nil => exact ⟨[],rfl,by simp⟩
  | cons product rest ih =>
    unfold saveCopies
    cases saved : UserLookingForProperty.model.save (answer product) (copyOf user product.val) with
    | raised e => exact ⟨[],rfl,by simp⟩
    | rejected =>
      obtain ⟨added,table,copies⟩ := ih t
      refine ⟨added,table,fun copy member => ?_⟩
      obtain ⟨source,inside,same⟩ := copies copy member
      exact ⟨source,by simp [inside],same⟩
    | stored stored =>
      obtain ⟨added,table,copies⟩ := ih (t.insert stored)
      refine ⟨stored :: added,table,fun copy member => ?_⟩
      rcases List.mem_cons.mp member with here | later
      · obtain ⟨owner,key,price⟩ := copy_stored saved
        exact ⟨product,by simp,by rw [here]; exact ⟨owner,price,key⟩⟩
      · obtain ⟨source,inside,same⟩ := copies copy later
        exact ⟨source,by simp [inside],same⟩

theorem createProperties_effect (currentUser : Option Int) (property : Option (List (Option String)))
    (answer : Row UserLookingForProperty → Geocoding) (t : Table UserLookingForProperty) :
    (createProperties currentUser property answer t).1 = t ∨
      ∃ user added, currentUser = some user ∧ (createProperties currentUser property answer t).1 = t.insertAll added ∧
        ∀ copy ∈ added, ∃ product ∈ t.rows, copy.userId = some user ∧ copy.price = none ∧
          UserLookingForProperty.model.keyOf copy = UserLookingForProperty.model.keyOf product.val := by
  unfold createProperties
  cases property with
  | none => exact .inl rfl
  | some ids =>
    cases found : findMany t ids with
    | error e => exact .inl (by simp only [found])
    | ok products =>
      cases currentUser with
      | none => exact .inl (by simp only [found])
      | some user =>
        obtain ⟨added,table,copies⟩ := saveCopies_effect user answer products t
        refine .inr ⟨user,added,rfl,?_,fun copy member => ?_⟩
        · simp only [found]
          rcases outcome : saveCopies user answer products t with ⟨t',e⟩
          rw [outcome] at table
          cases e <;> exact table
        · obtain ⟨product,inside,same⟩ := copies copy member
          exact ⟨product,findMany_mem found product inside,same⟩

end HomeController
end HyderabadHomes
