import HyderabadHomes.Account

/-! `Users::DashboardController`. -/
namespace HyderabadHomes
open Relational

/-- What `resources :dashboard` routes to actions that neither controller has. -/
inductive MissingAction
  | new
  | create
  | show (id : String)
  | edit (id : String)
  | update (id : String)
  | destroy (id : String)
deriving DecidableEq,Repr

inductive DashboardRequest
  | index
  | inviteFriends
  | import (contacts : Option (List (String × String)))
  | createContacts (email : Option (List String))
  | missing (action : MissingAction)

namespace UsersDashboard

/-- One contact out of a ticked checkbox; every contact goes to user 1. -/
def contactOf (email : String) : Except Error UserContact :=
  match Ruby.split ',' email with
  | name :: address :: _ => .ok ⟨some (Ruby.delete ['[','"'] name),some (Ruby.delete [']','"'] address),some 1⟩
  | _ => .error .noMethod

/-- The page of this action always fails: it iterates over a variable that is nil. -/
def saveContacts : List String → Table UserContact → Table UserContact × Error
  | [],t => (t,.noMethod)
  | email :: rest,t =>
    match contactOf email with
    | .error e => (t,e)
    | .ok contact => if contact.fits then saveContacts rest (t.insert contact) else (t,.statementInvalid)

def handle (db : Db) (currentUser : Option Int) : DashboardRequest → Db × Response
  | .index => (db,if currentUser.isSome then .render (.template .fixed) else .error .noMethod)
  | .inviteFriends => (db,.render (.template .fixed))
  | .import contacts => (db,if contacts.isSome then .render (.template .fixed) else .error .external)
  | .createContacts none => (db,.error .noMethod)
  | .createContacts (some email) =>
    ({db with userContacts := (saveContacts email db.userContacts).1},.error (saveContacts email db.userContacts).2)
  | .missing _ => (db,.error .actionNotFound)

theorem handle_effect (db : Db) (currentUser : Option Int) (request : DashboardRequest) :
    ∃ contacts, (handle db currentUser request).1 = {db with userContacts := contacts} := by
  cases request with
  | index => exact ⟨db.userContacts,rfl⟩
  | inviteFriends => exact ⟨db.userContacts,rfl⟩
  | «import» contacts => exact ⟨db.userContacts,rfl⟩
  | createContacts email =>
    cases email with
    | none => exact ⟨db.userContacts,rfl⟩
    | some email => exact ⟨_,rfl⟩
  | missing action => exact ⟨db.userContacts,rfl⟩

end UsersDashboard
end HyderabadHomes
