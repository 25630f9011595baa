import HyderabadHomes.App
import HyderabadHomes.Relational.Ownership
import HyderabadHomes.Transition.Run

/-! Which requests keep to the requester's own listings and profiles. Creates stamp the
requester after the hash; updates look a row up by id alone and let the hash name an owner. -/
namespace HyderabadHomes
open Relational Transition

def ListingModel.Rewrites {α : Type} (m : ListingModel α) (env : Env) (currentUser : Int) (held : α) (attrs : Attrs)
    (answer : Geocoding) : Prop :=
  ∃ stored, m.updated env currentUser held attrs answer = some stored ∧ stored ≠ held

def Profile.Rewrites (env : Env) (held : Profile) (attrs : Attrs) (addr dob : Option String) (answer : Geocoding) : Prop :=
  ∃ stored, Profile.updated env held attrs addr dob answer = some stored ∧ stored ≠ held

namespace ListingRequest
variable {α : Type}

def OwnerSafe (m : ListingModel α) (env : Env) (currentUser : Int) (t : Table α) : ListingRequest α → Prop
  | .update id attrs answer =>
    ∀ row, t.find? (Ruby.toI id) = some row → m.Rewrites env currentUser row.val attrs answer →
      m.userId row.val = some currentUser ∧
        ListingModel.submittedId "user_id" attrs (some currentUser) = some currentUser
  | .destroy id => ∀ row, t.find? (Ruby.toI id) = some row → m.userId row.val = some currentUser
  | _ => True

theorem isolated_iff (m : ListingModel α) (env : Env) (currentUser : Int) (t : Table α) (request : ListingRequest α) :
    Isolated m.userId (some currentUser) t (request.apply m env currentUser t) ↔ request.OwnerSafe m env currentUser t := by
  cases request with
  | create attrs addr answer =>
    refine ⟨fun _ => trivial,fun _ => ?_⟩
    simp only [apply]
    cases saved : m.created env currentUser attrs addr answer with
    | none => exact .refl t
    | some stored =>
      have owner := (ListingModel.created_ids saved).1
      exact .insert ((owns_some currentUser _).mpr owner)
  | update id attrs answer =>
    simp only [apply,OwnerSafe,Isolated.rewrite_iff,owns_some]
    constructor
    · intro owned row found rewrites
      obtain ⟨stored,saved,changed⟩ := rewrites
      rw [← (ListingModel.updated_ids saved).1]
      exact owned row stored found saved changed
    · intro safe row stored found saved changed
      rw [(ListingModel.updated_ids saved).1]
      exact safe row found ⟨stored,saved,changed⟩
  | destroy id => simp only [apply,OwnerSafe,Isolated.delete_iff,owns_some]
  | _ => exact ⟨fun _ => trivial,fun _ => .refl t⟩

end ListingRequest

namespace ProfileRequest

def OwnerSafe (env : Env) (currentUser : Option Int) (t : Table Profile) : ProfileRequest → Prop
  | .update id attrs addr dob answer =>
    ∀ row, t.find? (Ruby.toI id) = some row → Profile.Rewrites env row.val attrs addr dob answer →
      Owns currentUser row.val.userId ∧ Owns currentUser (ListingModel.submittedId "user_id" attrs row.val.userId)
  | _ => True

theorem isolated_destroyTarget (user : Int) (t : Table Profile) :
    Isolated Profile.userId (some user) t (Profile.destroyTarget user t) where
  kept _ member foreign := Profile.mem_destroyTarget_of_foreign member fun owned => foreign ((owns_some user _).mpr owned)
  stamped _ member new := absurd (Profile.mem_destroyTarget member) new

theorem isolated_create (env : Env) (user : Int) (attrs : Attrs) (addr : Option String) (answer : Geocoding)
    (t : Table Profile) :
    Isolated Profile.userId (some user) t (ProfilesController.create env user attrs addr answer t).1 := by
  rcases ProfilesController.create_effect env user attrs addr answer t with same | dropped | ⟨stored,made,owner⟩
  · rw [same]
    exact .refl t
  · rw [dropped]
    exact isolated_destroyTarget user t
  · rw [made]
    exact (isolated_destroyTarget user t).trans (.insert ((owns_some user _).mpr owner))

theorem isolated_iff (env : Env) (currentUser : Option Int) (t : Table Profile) (request : ProfileRequest) :
    Isolated Profile.userId currentUser t (request.apply env currentUser t) ↔ request.OwnerSafe env currentUser t := by
  cases request with
  | create attrs addr answer =>
    refine ⟨fun _ => trivial,fun _ => ?_⟩
    cases currentUser with
    | none => exact .refl t
    | some user => exact isolated_create env user attrs addr answer t
  | update id attrs addr dob answer =>
    simp only [apply,OwnerSafe,Isolated.rewrite_iff]
    constructor
    · intro owned row found rewrites
      obtain ⟨stored,saved,changed⟩ := rewrites
      have both := owned row stored found saved changed
      rw [Profile.updated_userId saved] at both
      exact both
    · intro safe row stored found saved changed
      rw [Profile.updated_userId saved]
      exact safe row found ⟨stored,saved,changed⟩
  | _ => exact ⟨fun _ => trivial,fun _ => .refl t⟩

end ProfileRequest

structure OwnersIsolated (requester : Option Int) (before after : Db) : Prop where
  userProperties : Isolated UserProperty.userId requester before.userProperties after.userProperties
  userLookingForProperties :
    Isolated UserLookingForProperty.userId requester before.userLookingForProperties after.userLookingForProperties
  profiles : Isolated Profile.userId requester before.profiles after.profiles

theorem isolated_createProperties (currentUser : Option Int) (property : Option (List (Option String)))
    (answer : Row UserLookingForProperty → Geocoding) (t : Table UserLookingForProperty) :
    Isolated UserLookingForProperty.userId currentUser t
      (HomeController.createProperties currentUser property answer t).1 := by
  rcases HomeController.createProperties_effect currentUser property answer t with same | ⟨user,added,rfl,made,copies⟩
  · rw [same]
    exact .refl t
  · rw [made]
    refine .insertAll (fun copy member => ?_) t
    obtain ⟨_,_,owner,_⟩ := copies copy member
    exact (owns_some user _).mpr owner

def Action.writesOwned : Action → Bool
  | .home (.createProperties _ _) => true
  | .userProperties _ => true
  | .userLookingForProperties _ => true
  | .profiles _ => true
  | _ => false

def IsolatesOwners (env : Env) (app : App) (request : Request) : Prop :=
  request.action.writesOwned = true →
    OwnersIsolated (currentUser app.db (app.sessions request.browser)) app.db (app.next env request).db

/-- An update that rewrites a listing or a profile, and a destroy that finds a listing,
name a row of the requester's; an update does not submit another owner. -/
def OwnerSafe (env : Env) (app : App) (request : Request) : Prop :=
  match request.action,currentUser app.db (app.sessions request.browser) with
  | .userProperties listing,some user => listing.OwnerSafe UserProperty.model env user app.db.userProperties
  | .userLookingForProperties listing,some user =>
    listing.OwnerSafe UserLookingForProperty.model env user app.db.userLookingForProperties
  | .profiles profile,requester => profile.OwnerSafe env requester app.db.profiles
  | _,_ => True

theorem isolatesOwners_iff (env : Env) (app : App) (request : Request) :
    IsolatesOwners env app request ↔ OwnerSafe env app request := by
  obtain ⟨browser,action⟩ := request
  unfold IsolatesOwners OwnerSafe
  rw [App.next_db]
  cases action with
  | home request =>
    cases request with
    | createProperties property answer =>
      exact ⟨fun _ => trivial,fun _ _ => ⟨.refl _,isolated_createProperties _ property answer _,.refl _⟩⟩
    | _ => exact ⟨fun _ => trivial,fun _ owned => by cases owned⟩
  | userProperties listing =>
    simp only [Action.apply]
    cases currentUser app.db (app.sessions browser) with
    | none => exact ⟨fun _ => trivial,fun _ _ => ⟨.refl _,.refl _,.refl _⟩⟩
    | some user =>
      have exactly := ListingRequest.isolated_iff UserProperty.model env user app.db.userProperties listing
      exact ⟨fun h => exactly.mp (h rfl).userProperties,fun h _ => ⟨exactly.mpr h,.refl _,.refl _⟩⟩
  | userLookingForProperties listing =>
    simp only [Action.apply]
    cases currentUser app.db (app.sessions browser) with
    | none => exact ⟨fun _ => trivial,fun _ _ => ⟨.refl _,.refl _,.refl _⟩⟩
    | some user =>
      have exactly := ListingRequest.isolated_iff UserLookingForProperty.model env user
        app.db.userLookingForProperties listing
      exact ⟨fun h => exactly.mp (h rfl).userLookingForProperties,fun h _ => ⟨.refl _,exactly.mpr h,.refl _⟩⟩
  | profiles profile =>
    have exactly := ProfileRequest.isolated_iff env (currentUser app.db (app.sessions browser)) app.db.profiles profile
    exact ⟨fun h => exactly.mp (h rfl).profiles,fun h _ => ⟨.refl _,.refl _,exactly.mpr h⟩⟩
  | _ => exact ⟨fun _ => trivial,fun _ owned => by cases owned⟩

/-- A run isolates owners at every step exactly when every step of it is safe. -/
theorem run_isolates_owners_iff (env : Env) (app : App) (requests : List Request) :
    Along (App.next env) (IsolatesOwners env) app requests ↔ Along (App.next env) (OwnerSafe env) app requests :=
  along_congr (App.next env) (isolatesOwners_iff env) app requests

theorem foreign_listing_destroyed :
    ¬ Along (App.next .production) (IsolatesOwners .production) (App.init Db.empty)
      [⟨0,.users (.signUp ⟨"owner@example.com"⟩ true)⟩,
        ⟨0,.userProperties (.create [("property_id",some "1"),("ownership_type_id",some "1")] (some "Hyderabad")
          (.accepted none none))⟩,
        ⟨1,.users (.signUp ⟨"other@example.com"⟩ true)⟩,
        ⟨1,.userProperties (.destroy "1")⟩] := by
  intro all
  obtain ⟨_,_,_,last,_⟩ := all
  have isolated := (last rfl).userProperties
  have kept := isolated.kept ⟨1,⟨some 1,some "Hyderabad",some 1,none,some 1,none,none⟩⟩ (by decide) (by decide)
  revert kept
  decide

end HyderabadHomes
