import HyderabadHomes.Sessions
import HyderabadHomes.WellFormed

/-! What is left of an account that has been cancelled. Its rows go with it, and as long as no
update names it as an owner none comes back: only contacts are always put down to user 1. -/
namespace HyderabadHomes
open Relational Transition

/-- The owner that the hash of an update names; creations stamp the requester after the hash. -/
def Action.namesOwner : Action → Option (Option Int)
  | .userProperties (.update _ attrs _) => (submitted "user_id" attrs).map castInteger
  | .userLookingForProperties (.update _ attrs _) => (submitted "user_id" attrs).map castInteger
  | .profiles (.update _ attrs _ _ _) => (submitted "user_id" attrs).map castInteger
  | _ => none

structure Forgotten (id : Int) (db : Db) : Prop where
  drawn : id ≤ db.users.seq
  gone : id ∉ db.users.ids
  userProperties : db.userProperties.Check fun r => r.userId ≠ some id
  userLookingForProperties : db.userLookingForProperties.Check fun r => r.userId ≠ some id
  profiles : db.profiles.Check fun r => r.userId ≠ some id
  userContacts : id ≠ 1 → db.userContacts.Check fun r => r.userId ≠ some id

theorem getD_ne_of_named {named : Option (Option Int)} {held : Option Int} {id : Int} (other : held ≠ some id)
    (spared : named ≠ some (some id)) : named.getD held ≠ some id := by
  cases named with
  | none => exact other
  | some owner => exact fun same => spared (congrArg some same)

theorem ListingRequest.apply_forgets {α : Type} {m : ListingModel α} {env : Env} {user id : Int} (other : user ≠ id)
    {t : Table α} (check : t.Check fun r => m.userId r ≠ some id) (request : ListingRequest α)
    (spared : ∀ text attrs answer, request = .update text attrs answer →
      (submitted "user_id" attrs).map castInteger ≠ some (some id)) :
    (request.apply m env user t).Check fun r => m.userId r ≠ some id := by
  have own : (some user : Option Int) ≠ some id := fun same => other (Option.some.inj same)
  cases request with
  | create attrs addr answer =>
    simp only [apply]
    cases made : m.created env user attrs addr answer with
    | none => exact check
    | some stored =>
      refine check.insert ?_
      rw [(ListingModel.created_ids made).1]
      exact own
  | update text attrs answer =>
    refine check.rewrite _ fun row stored _ made => ?_
    rw [(ListingModel.updated_ids made).1]
    exact getD_ne_of_named own (spared text attrs answer rfl)
  | destroy text => exact check.delete _
  | _ => exact check

theorem ProfileRequest.apply_forgets {env : Env} {currentUser : Option Int} {id : Int} (other : currentUser ≠ some id)
    {t : Table Profile} (check : t.Check fun r => r.userId ≠ some id) (request : ProfileRequest)
    (spared : ∀ text attrs addr dob answer, request = .update text attrs addr dob answer →
      (submitted "user_id" attrs).map castInteger ≠ some (some id)) :
    (request.apply env currentUser t).Check fun r => r.userId ≠ some id := by
  cases request with
  | create attrs addr answer =>
    cases currentUser with
    | none => exact check
    | some user =>
      simp only [apply]
      rcases ProfilesController.create_table env user attrs addr answer t with ⟨stored,made,table⟩ | ⟨_,same | gone⟩
      · rw [table]
        refine (Profile.destroyTarget_check check user).insert ?_
        rw [Profile.created_userId made]
        exact other
      · rw [same]
        exact check
      · rw [gone]
        exact Profile.destroyTarget_check check user
  | update text attrs addr dob answer =>
    refine check.rewrite _ fun row stored found made => ?_
    rw [Profile.updated_userId made]
    exact getD_ne_of_named (check row (Table.find?_eq_some.mp found).1) (spared text attrs addr dob answer rfl)
  | _ => exact check

theorem UsersDashboard.contactOf_userId {email : String} {contact : UserContact} (read : contactOf email = .ok contact) :
    contact.userId = some 1 := by
  unfold contactOf at read
  split at read
  · cases read
    rfl
  · cases read

theorem UsersDashboard.saveContacts_forgets {id : Int} (other : id ≠ 1) (email : List String) {t : Table UserContact}
    (check : t.Check fun r => r.userId ≠ some id) : (saveContacts email t).1.Check fun r => r.userId ≠ some id := by
  induction email generalizing t with
  | nil => exact check
  | cons value rest ih =>
    unfold saveContacts
    cases read : contactOf value with
    | error e => exact check
    | ok contact =>
      simp only
      split
      · refine ih (check.insert ?_)
        rw [contactOf_userId read]
        exact fun same => other (Option.some.inj same).symm
      · exact check

namespace Forgotten
variable {id : Int} {db : Db}

theorem not_current (h : Forgotten id db) (session : Session) : currentUser db session ≠ some id := by
  intro current
  obtain ⟨row,member,same⟩ := currentUser_refers current
  cases same
  exact h.gone (List.mem_map_of_mem member)

/-- An account takes its rows with it; of its profiles only the one that is loaded. -/
theorem destroy (stored : id ∈ db.users.ids)
    (single : ∀ p ∈ db.profiles.rows, ∀ q ∈ db.profiles.rows, p.val.userId = some id → q.val.userId = some id → p = q) :
    Forgotten id (User.destroy id db) where
  drawn := show id ≤ db.users.seq from Table.ids_le_seq stored
  gone member := (Table.mem_ids_delete.mp member).2 rfl
  userProperties row member := by simpa using (Table.mem_keep.mp member).2
  userLookingForProperties row member := by simpa using (Table.mem_keep.mp member).2
  userContacts _ row member := by simpa using (Table.mem_keep.mp member).2
  profiles row member := by
    intro owned
    change row ∈ (Profile.destroyTarget id db.profiles).rows at member
    have inside := Profile.mem_destroyTarget member
    cases found : Profile.ofUser db.profiles id with
    | none => exact Profile.ofUser_eq_none.mp found row inside owned
    | some loaded =>
      obtain ⟨present,own⟩ := Profile.ofUser_eq_some found
      unfold Profile.destroyTarget at member
      rw [found] at member
      exact (Table.mem_delete.mp member).2 (congrArg Row.id (single row inside loaded present owned own))

/-- The account of another user may go as well. -/
theorem destroy_other (h : Forgotten id db) (other : Int) : Forgotten id (User.destroy other db) where
  drawn := h.drawn
  gone member := h.gone (Table.mem_ids_delete.mp member).1
  userProperties := h.userProperties.keep _
  userLookingForProperties := h.userLookingForProperties.keep _
  userContacts unlike := (h.userContacts unlike).keep _
  profiles := Profile.destroyTarget_check h.profiles other

theorem users_request (h : Forgotten id db) {db' : Db} {session session' : Session} {request : AccountRequest User}
    (handled : usersScope.Handled db session request db' session') : Forgotten id db' := by
  cases handled with
  | signedUp record accepted valid storable =>
    have inserted := Evolves.insert db.users record
    exact {h with
      drawn := Int.le_trans h.drawn inserted.grown
      gone := fun back => h.gone (inserted.mem_of_mem h.drawn back)}
  | updated other record accepted current valid storable =>
    exact {h with gone := fun back => h.gone ((Evolves.update db.users other fun _ => record).mem_of_mem h.drawn back)}
  | destroyed other current => exact h.destroy_other other
  | _ => exact h

theorem administrators_request (h : Forgotten id db) {db' : Db} {session session' : Session}
    {request : AccountRequest Administrator} (handled : administratorsScope.Handled db session request db' session') :
    Forgotten id db' := by
  cases handled <;> exact ⟨h.drawn,h.gone,h.userProperties,h.userLookingForProperties,h.profiles,h.userContacts⟩

theorem action (h : Forgotten id db) (env : Env) (session : Session) {action : Action}
    (spared : action.namesOwner ≠ some (some id)) : Forgotten id (action.apply env db session) := by
  cases action with
  | home request =>
    cases request with
    | createProperties property answer =>
      simp only [Action.apply]
      rcases HomeController.createProperties_effect (currentUser db session) property answer db.userLookingForProperties
        with same | ⟨user,added,current,same,copies⟩
      · rw [same]
        exact h
      · rw [same]
        refine {h with userLookingForProperties := h.userLookingForProperties.insertAll fun copy member => ?_}
        obtain ⟨_,_,owner,_⟩ := copies copy member
        rw [owner,← current]
        exact h.not_current session
    | _ => exact h
  | userProperties request =>
    simp only [Action.apply]
    cases current : currentUser db session with
    | none => exact h
    | some user =>
      have other : user ≠ id := fun same => h.not_current session (current.trans (congrArg some same))
      have check : db.userProperties.Check fun r => UserProperty.model.userId r ≠ some id := h.userProperties
      refine {h with userProperties := ListingRequest.apply_forgets other check request fun text attrs answer same => ?_}
      subst same
      exact spared
  | userLookingForProperties request =>
    simp only [Action.apply]
    cases current : currentUser db session with
    | none => exact h
    | some user =>
      have other : user ≠ id := fun same => h.not_current session (current.trans (congrArg some same))
      have check : db.userLookingForProperties.Check fun r => UserLookingForProperty.model.userId r ≠ some id :=
        h.userLookingForProperties
      refine {h with
        userLookingForProperties := ListingRequest.apply_forgets other check request fun text attrs answer same => ?_}
      subst same
      exact spared
  | profiles request =>
    refine {h with
      profiles := ProfileRequest.apply_forgets (h.not_current session) h.profiles request
        fun text attrs addr dob answer same => ?_}
    subst same
    exact spared
  | usersDashboard request =>
    cases request with
    | createContacts email =>
      cases email with
      | none => exact h
      | some email =>
        exact {h with userContacts := fun unlike => UsersDashboard.saveContacts_forgets unlike email (h.userContacts unlike)}
    | _ => exact h
  | catalogs c request =>
    simp only [Action.apply]
    cases c.controller.target request <;>
      exact ⟨h.drawn,h.gone,h.userProperties,h.userLookingForProperties,h.profiles,h.userContacts⟩
  | administratorsDashboard => exact h
  | administratorsDashboardMissing _ => exact h
  | users request => exact h.users_request (usersScope.handle_handled db session request)
  | administrators request =>
    exact h.administrators_request (administratorsScope.handle_handled db session request)

end Forgotten

/-- After a user has cancelled the account, nobody is signed in with it again and no listing
and no profile is its, as long as no update names it as the owner, provided it had no more
than one profile; contacts can come back to user 1 alone. -/
theorem cancelled_account_stays_forgotten (env : Env) (app : App) (requests : List Request) {i j browser : Nat} {id : Int}
    (later : i < j) (cancelled : requests[i]? = some ⟨browser,.users .destroy⟩)
    (current : let before := stateAt (App.next env) app requests i
      currentUser before.db (before.sessions browser) = some id)
    (single : let before := stateAt (App.next env) app requests i
      ∀ p ∈ before.db.profiles.rows, ∀ q ∈ before.db.profiles.rows, p.val.userId = some id → q.val.userId = some id → p = q)
    (spared : ∀ n request, i < n → n < j → requests[n]? = some request → request.action.namesOwner ≠ some (some id)) :
    let reached := stateAt (App.next env) app requests j
    (∀ other, currentUser reached.db (reached.sessions other) ≠ some id) ∧
      (∀ row ∈ reached.db.userProperties.rows, row.val.userId ≠ some id) ∧
      (∀ row ∈ reached.db.userLookingForProperties.rows, row.val.userId ≠ some id) ∧
      (∀ row ∈ reached.db.profiles.rows, row.val.userId ≠ some id) ∧
      (id ≠ 1 → ∀ row ∈ reached.db.userContacts.rows, row.val.userId ≠ some id) := by
  intro reached
  have start : Forgotten id (stateAt (App.next env) app requests (i+1)).db := by
    rw [stateAt_succ (App.next env) app cancelled,App.next_db]
    have known := current
    unfold currentUser at known
    simp only [Action.apply,Scope.handle,known]
    obtain ⟨row,member,same⟩ := currentUser_refers current
    cases same
    exact Forgotten.destroy (List.mem_map_of_mem member) single
  have forgotten : Forgotten id reached.db :=
    stateAt_from (App.next env) (fun app => Forgotten id app.db) start
      (fun n request low high taken sofar => by
        rw [App.next_db]
        exact sofar.action env _ (spared n request low high taken))
      later
  exact ⟨fun other => forgotten.not_current _,forgotten.userProperties,forgotten.userLookingForProperties,
    forgotten.profiles,forgotten.userContacts⟩

def cancelledOwner : List Request :=
  [⟨0,.users (.signUp ⟨"a@x"⟩ true)⟩,⟨1,.users (.signUp ⟨"b@x"⟩ true)⟩,
    ⟨0,.userProperties (.create [("property_id",some "1"),("ownership_type_id",some "1")] (some "Hyderabad")
      (.accepted none none))⟩,
    ⟨0,.users .destroy⟩,
    ⟨1,.userProperties (.create [("property_id",some "1"),("ownership_type_id",some "1"),("user_id",some "1")]
      (some "Hyderabad") (.accepted none none))⟩]

theorem cancelled_owner_stays_forgotten :
    some 1 ∉ (stateAt (App.next .production) (App.init .empty) cancelledOwner 5).db.userProperties.rows.map
      fun row => row.val.userId := by
  have unowned := (@cancelled_account_stays_forgotten .production (App.init .empty) cancelledOwner 3 5 0 1 (by decide) rfl
    rfl (by
      intro before p member
      cases member) (by
      intro n request low high taken
      obtain rfl : n = 4 := by omega
      cases taken
      exact fun same => nomatch same)).2.1
  rw [List.mem_map]
  rintro ⟨row,member,owner⟩
  exact unowned row member owner

end HyderabadHomes
