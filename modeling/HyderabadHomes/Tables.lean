import HyderabadHomes.App
import HyderabadHomes.Relational.Evolution

/-! The nine tables as one family, so that a property of every table is stated once, and
how the ids of each evolve under a request. -/
namespace HyderabadHomes
open Relational

inductive TableName
  | users
  | administrators
  | profiles
  | properties
  | ownershipTypes
  | lookingFors
  | userContacts
  | userLookingForProperties
  | userProperties
deriving DecidableEq,Repr

def TableName.Record : TableName → Type
  | .users => User
  | .administrators => Administrator
  | .profiles => Profile
  | .properties => Named
  | .ownershipTypes => Named
  | .lookingFors => Named
  | .userContacts => UserContact
  | .userLookingForProperties => UserLookingForProperty
  | .userProperties => UserProperty

def Catalog.tableName : Catalog → TableName
  | .properties => .properties
  | .ownershipTypes => .ownershipTypes
  | .lookingFors => .lookingFors

namespace Db

def table (db : Db) : (n : TableName) → Table n.Record
  | .users => db.users
  | .administrators => db.administrators
  | .profiles => db.profiles
  | .properties => db.properties
  | .ownershipTypes => db.ownershipTypes
  | .lookingFors => db.lookingFors
  | .userContacts => db.userContacts
  | .userLookingForProperties => db.userLookingForProperties
  | .userProperties => db.userProperties

def setTable (db : Db) : (n : TableName) → Table n.Record → Db
  | .users,t => {db with users := t}
  | .administrators,t => {db with administrators := t}
  | .profiles,t => {db with profiles := t}
  | .properties,t => {db with properties := t}
  | .ownershipTypes,t => {db with ownershipTypes := t}
  | .lookingFors,t => {db with lookingFors := t}
  | .userContacts,t => {db with userContacts := t}
  | .userLookingForProperties,t => {db with userLookingForProperties := t}
  | .userProperties,t => {db with userProperties := t}

@[simp] theorem table_setTable_self (db : Db) (n : TableName) (t : Table n.Record) : (db.setTable n t).table n = t := by
  cases n <;> rfl

theorem table_setTable_of_ne (db : Db) {n m : TableName} (t : Table n.Record) (apart : m ≠ n) :
    (db.setTable n t).table m = db.table m := by
  cases n <;> cases m <;> first | rfl | exact absurd rfl apart

theorem ext_tables {db db' : Db} (same : ∀ n, db.table n = db'.table n) : db = db' := by
  cases db
  cases db'
  simp only [Db.mk.injEq]
  exact ⟨same .users,same .administrators,same .profiles,same .properties,same .ownershipTypes,same .lookingFors,
    same .userContacts,same .userLookingForProperties,same .userProperties⟩

def Evolves (before after : Db) : Prop := ∀ n, Relational.Evolves (before.table n) (after.table n)

namespace Evolves

theorem refl (db : Db) : Evolves db db := fun n => .refl (db.table n)

theorem trans {a b c : Db} (first : Evolves a b) (second : Evolves b c) : Evolves a c :=
  fun n => (first n).trans (second n)

theorem setTable (db : Db) (n : TableName) {t : Table n.Record} (evolves : Relational.Evolves (db.table n) t) :
    Evolves db (db.setTable n t) := by
  intro m
  by_cases here : m = n
  · subst here
    rw [table_setTable_self]
    exact evolves
  · rw [table_setTable_of_ne db t here]
    exact .refl _

end Evolves
end Db

namespace ListingRequest
variable {α : Type}

theorem apply_evolves (m : ListingModel α) (env : Env) (currentUser : Int) (t : Table α) (request : ListingRequest α) :
    Evolves t (request.apply m env currentUser t) := by
  cases request with
  | create attrs addr answer =>
    simp only [apply]
    cases m.created env currentUser attrs addr answer with
    | none => exact .refl t
    | some stored => exact .insert t stored
  | update id attrs answer => exact .rewrite t _ _
  | destroy id => exact .delete t _
  | _ => exact .refl t

end ListingRequest

theorem Profile.destroyTarget_evolves (user : Int) (t : Table Profile) : Evolves t (destroyTarget user t) := by
  unfold destroyTarget
  cases ofUser t user with
  | none => exact .refl t
  | some row => exact .delete t row.id

theorem ProfileRequest.apply_evolves (env : Env) (currentUser : Option Int) (t : Table Profile)
    (request : ProfileRequest) : Evolves t (request.apply env currentUser t) := by
  cases request with
  | create attrs addr answer =>
    cases currentUser with
    | none => exact .refl t
    | some user =>
      simp only [apply]
      rcases ProfilesController.create_table env user attrs addr answer t with ⟨stored,_,table⟩ | ⟨_,same | gone⟩
      · rw [table]
        exact (Profile.destroyTarget_evolves user t).trans (.insert _ stored)
      · rw [same]
        exact .refl t
      · rw [gone]
        exact Profile.destroyTarget_evolves user t
  | update id attrs addr dob answer => exact .rewrite t _ _
  | _ => exact .refl t

theorem CatalogRequest.apply_evolves (env : Env) (t : Table Named) (request : CatalogRequest) :
    Evolves t (request.apply env t) := by
  cases request with
  | create attrs =>
    simp only [apply]
    cases Named.accepted env t none Named.fresh attrs with
    | none => exact .refl t
    | some record => exact .insert t record
  | update id attrs => exact .rewrite t _ _
  | destroy id => exact .delete t _
  | _ => exact .refl t

theorem UsersDashboard.saveContacts_insertAll (email : List String) (t : Table UserContact) :
    ∃ added, (saveContacts email t).1 = t.insertAll added := by
  induction email generalizing t with
  | nil => exact ⟨[],rfl⟩
  | cons value rest ih =>
    unfold saveContacts
    cases contactOf value with
    | error e => exact ⟨[],rfl⟩
    | ok contact =>
      simp only
      split
      · obtain ⟨added,table⟩ := ih (t.insert contact)
        exact ⟨contact :: added,table⟩
      · exact ⟨[],rfl⟩

theorem User.destroy_evolves (id : Int) (db : Db) : Db.Evolves db (User.destroy id db) := by
  intro n
  cases n with
  | users => exact .delete db.users id
  | profiles => exact Profile.destroyTarget_evolves id db.profiles
  | userContacts => exact .keep db.userContacts _
  | userLookingForProperties => exact .keep db.userLookingForProperties _
  | userProperties => exact .keep db.userProperties _
  | _ => exact .refl _

theorem Action.apply_evolves (env : Env) (db : Db) (session : Session) (action : Action) :
    Db.Evolves db (action.apply env db session) := by
  cases action with
  | home request =>
    cases request with
    | createProperties property answer =>
      rcases HomeController.createProperties_effect (currentUser db session) property answer
        db.userLookingForProperties with same | ⟨_,added,_,table,_⟩
      · simp only [apply,same]
        exact .refl db
      · simp only [apply,table]
        exact .setTable db .userLookingForProperties (.insertAll _ added)
    | _ => exact .refl db
  | userProperties request =>
    simp only [apply]
    cases currentUser db session with
    | none => exact .refl db
    | some user => exact .setTable db .userProperties (request.apply_evolves _ env user _)
  | userLookingForProperties request =>
    simp only [apply]
    cases currentUser db session with
    | none => exact .refl db
    | some user => exact .setTable db .userLookingForProperties (request.apply_evolves _ env user _)
  | profiles request => exact .setTable db .profiles (request.apply_evolves env _ _)
  | usersDashboard request =>
    cases request with
    | createContacts email =>
      cases email with
      | none => exact .refl db
      | some email =>
        obtain ⟨added,table⟩ := UsersDashboard.saveContacts_insertAll email db.userContacts
        simp only [apply,UsersDashboard.handle,table]
        exact .setTable db .userContacts (.insertAll _ added)
    | _ => exact .refl db
  | catalogs c request =>
    simp only [apply]
    cases c.controller.target request with
    | properties => exact .setTable db .properties (request.apply_evolves env _)
    | ownershipTypes => exact .setTable db .ownershipTypes (request.apply_evolves env _)
    | lookingFors => exact .setTable db .lookingFors (request.apply_evolves env _)
  | administratorsDashboard => exact .refl db
  | administratorsDashboardMissing _ => exact .refl db
  | users request =>
    apply usersScope.handle_preserves (Db.Evolves db) (.refl db)
    · exact fun record => .setTable db .users (.insert db.users record)
    · exact fun id record => .setTable db .users (.update db.users id _)
    · exact fun id => User.destroy_evolves id db
  | administrators request =>
    apply administratorsScope.handle_preserves (Db.Evolves db) (.refl db)
    · exact fun record => .setTable db .administrators (.insert db.administrators record)
    · exact fun id record => .setTable db .administrators (.update db.administrators id _)
    · exact fun id => .setTable db .administrators (.delete db.administrators id)

end HyderabadHomes
