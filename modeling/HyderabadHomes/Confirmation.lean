import HyderabadHomes.Sessions

/-! Requests that are not answered by a redirect: forms shown again, pages and exceptions. For
pages in HTML all actions but three confirm what they change with a redirect, so these leave the
data alone. -/
namespace HyderabadHomes
open Relational Transition

def Response.redirects : Response → Bool
  | .redirect _ _ => true
  | _ => false

/-- All that an action does to its table: it saves a row and redirects to it, deletes one and
redirects to the index, or does neither and does not redirect. -/
inductive Saves {α : Type} (path : Int → Path) (index : Path) (t : Table α) : Table α × Response → Prop
  | idle {response : Response} (plain : response.redirects = false) : Saves path index t (t,response)
  | inserted (val : α) (notice : Option String) :
      Saves path index t (t.insert val,.redirect (path (t.seq+1)) notice)
  | updated {row : Row α} (member : row ∈ t.rows) (change : α → α) (notice : Option String) :
      Saves path index t (t.update row.id change,.redirect (path row.id) notice)
  | deleted (id : Int) (notice : Option String) : Saves path index t (t.delete id,.redirect index notice)

theorem Saves.unconfirmed {α : Type} {path : Int → Path} {index : Path} {t : Table α} {reply : Table α × Response}
    (saves : Saves path index t reply) (plain : reply.2.redirects = false) : reply.1 = t := by
  cases saves with
  | idle => rfl
  | inserted => cases plain
  | updated => cases plain
  | deleted => cases plain

namespace ListingModel
variable {α : Type} (m : ListingModel α)

theorem create_saves (path : Int → Path) (index : Path) (env : Env) (currentUser : Int) (attrs : Attrs)
    (addr : Option String) (answer : Geocoding) (t : Table α) :
    Saves path index t (m.create path env currentUser attrs addr answer t) := by
  unfold create
  cases m.new env attrs with
  | error e => exact .idle rfl
  | ok record =>
    simp only
    cases m.save answer (m.setLocation addr (m.setUserId currentUser record)) with
    | stored stored => exact .inserted stored _
    | rejected => exact .idle rfl
    | raised e => exact .idle rfl

theorem update_saves (path : Int → Path) (index : Path) (env : Env) (currentUser : Int) (id : String) (attrs : Attrs)
    (answer : Geocoding) (t : Table α) : Saves path index t (m.update path env currentUser id attrs answer t) := by
  unfold update
  cases found : t.find? (Ruby.toI id) with
  | none => exact .idle rfl
  | some row =>
    simp only
    cases assign (m.attrAccessible env) env.strict (m.setUserId currentUser row.val) attrs with
    | error e => exact .idle rfl
    | ok record =>
      simp only
      cases m.save answer record with
      | stored stored => exact .updated (Table.find?_eq_some.mp found).1 _ _
      | rejected => exact .idle rfl
      | raised e => exact .idle rfl

theorem destroy_saves (path : Int → Path) (index : Path) (id : String) (t : Table α) :
    Saves path index t (destroy index id t) := by
  unfold destroy
  cases t.find? (Ruby.toI id) with
  | none => exact .idle rfl
  | some row => exact .deleted row.id _

end ListingModel

namespace Named

theorem create_saves (env : Env) (path : Int → Path) (index : Path) (attrs : Attrs) (t : Table Named) :
    Saves path index t (create env path attrs t) := by
  unfold create
  cases assign attrAccessible env.strict fresh attrs with
  | error e => exact .idle rfl
  | ok record =>
    simp only
    cases save env t none record with
    | stored stored => exact .inserted stored _
    | rejected => exact .idle rfl
    | raised e => exact .idle rfl

theorem update_saves (env : Env) (path : Int → Path) (index : Path) (id : String) (attrs : Attrs) (t : Table Named) :
    Saves path index t (update env path id attrs t) := by
  unfold update
  cases found : t.find? (Ruby.toI id) with
  | none => exact .idle rfl
  | some row =>
    simp only
    cases assign attrAccessible env.strict row.val attrs with
    | error e => exact .idle rfl
    | ok record =>
      simp only
      cases save env t (some row.id) record with
      | stored stored => exact .updated (Table.find?_eq_some.mp found).1 _ _
      | rejected => exact .idle rfl
      | raised e => exact .idle rfl

theorem destroy_saves (path : Int → Path) (index : Path) (id : String) (t : Table Named) :
    Saves path index t (destroy index id t) := by
  unfold destroy
  cases t.find? (Ruby.toI id) with
  | none => exact .idle rfl
  | some row => exact .deleted row.id _

end Named

/-- `create` destroys the stored profile before it knows whether the new one will be saved. -/
theorem ProfilesController.create_saves (index : Path) (env : Env) (user : Int) (attrs : Attrs) (addr : Option String)
    (answer : Geocoding) (t : Table Profile) :
    (∃ e, create env user attrs addr answer t = (t,.error e)) ∨
      Saves .usersProfile index (Profile.destroyTarget user t) (create env user attrs addr answer t) := by
  unfold create
  cases assign (Profile.attrAccessible env) env.strict Profile.fresh attrs with
  | error e => exact .inl ⟨e,rfl⟩
  | ok record =>
    simp only
    cases Profile.save answer {record with userId := some user,workLocation := addr} with
    | stored stored =>
      rw [← Profile.destroyTarget_seq user t]
      exact .inr (.inserted stored _)
    | rejected => exact .inr (.idle rfl)
    | raised e => exact .inr (.idle rfl)

theorem ProfilesController.update_saves (index : Path) (env : Env) (id : String) (attrs : Attrs) (addr dob : Option String)
    (answer : Geocoding) (t : Table Profile) : Saves .usersProfile index t (update env id attrs addr dob answer t) := by
  unfold update
  cases found : t.find? (Ruby.toI id) with
  | none => exact .idle rfl
  | some row =>
    simp only
    cases assign (Profile.attrAccessible env) env.strict {row.val with workLocation := addr,dob := dob} attrs with
    | error e => exact .idle rfl
    | ok record =>
      simp only
      cases Profile.save answer record with
      | stored stored => exact .updated (Table.find?_eq_some.mp found).1 _ _
      | rejected => exact .idle rfl
      | raised e => exact .idle rfl

namespace ListingController
variable {α : Type} (k : ListingController α)

theorem renderListings_plain (db : Db) (rows : List (Row α)) : (k.renderListings db rows).redirects = false := by
  unfold renderListings
  cases renderRows db.properties (db.catalog k.kinds) k.model.propertyId k.model.kindId rows <;> rfl

theorem renderSearch_plain (db : Db) (rows : List (Row ListingKey)) : (k.renderSearch db rows).redirects = false := by
  unfold renderSearch
  cases renderRows db.properties (db.catalog k.kinds) ListingKey.propertyId ListingKey.kindId rows <;> rfl

theorem handle_saves (env : Env) (db : Db) (user : Int) (request : ListingRequest α) :
    ∃ reply, Saves k.row k.index (k.table db) reply ∧ k.handle env db user request = (k.setTable reply.1 db,reply.2) := by
  have plain : ∀ response : Response, response.redirects = false →
      ∃ reply, Saves k.row k.index (k.table db) reply ∧ (db,response) = (k.setTable reply.1 db,reply.2) := by
    intro response plain
    exact ⟨(k.table db,response),.idle plain,by rw [k.setTable_table]⟩
  cases request with
  | index onPage => exact plain _ (k.renderListings_plain db _)
  | new => exact plain (.render (.template .new)) rfl
  | create attrs addr answer => exact ⟨_,k.model.create_saves k.row k.index env user attrs addr answer _,rfl⟩
  | «show» id =>
    simp only [handle]
    cases (k.table db).find? (Ruby.toI id) with
    | none => exact plain (.error .recordNotFound) rfl
    | some row => exact plain _ (k.renderListings_plain db [row])
  | edit id =>
    simp only [handle]
    cases (k.table db).find? (Ruby.toI id) with
    | none => exact plain (.error .recordNotFound) rfl
    | some row => exact plain (.render (.template .edit)) rfl
  | update id attrs answer => exact ⟨_,k.model.update_saves k.row k.index env user id attrs answer _,rfl⟩
  | destroy id => exact ⟨_,ListingModel.destroy_saves k.row k.index id _,rfl⟩
  | search plan search addr =>
    simp only [handle]
    cases search with
    | none => exact plain (.error .noMethod) rfl
    | some criteria =>
      simp only
      split
      · exact plain (.error _) rfl
      · exact plain _ (k.renderSearch_plain db _)

theorem handle_unconfirmed {env : Env} {db : Db} {user : Int} {request : ListingRequest α}
    (plain : (k.handle env db user request).2.redirects = false) : (k.handle env db user request).1 = db := by
  obtain ⟨reply,saves,same⟩ := k.handle_saves env db user request
  rw [same] at plain ⊢
  rw [saves.unconfirmed plain,k.setTable_table]

end ListingController

namespace CatalogController

theorem handle_saves (k : CatalogController) (env : Env) (db : Db) (request : CatalogRequest) :
    ∃ reply, Saves (.administratorsCatalogRow (k.target request)) (.administratorsCatalog k.model)
        (db.catalog (k.target request)) reply ∧
      k.handle env db request = (db.setCatalog (k.target request) reply.1,reply.2) := by
  have plain : ∀ c, ∀ response : Response, response.redirects = false →
      ∃ reply, Saves (.administratorsCatalogRow c) (.administratorsCatalog k.model) (db.catalog c) reply ∧
        (db,response) = (db.setCatalog c reply.1,reply.2) := by
    intro c response plain
    exact ⟨(db.catalog c,response),.idle plain,by rw [setCatalog_self]⟩
  cases request with
  | index search => exact plain _ _ (by cases search <;> rfl)
  | new => exact plain _ (.render (.template .new)) rfl
  | create attrs => exact ⟨_,Named.create_saves env _ _ attrs _,rfl⟩
  | «show» id =>
    simp only [handle]
    cases (db.catalog k.model).find? (Ruby.toI id) with
    | none => exact plain _ (.error .recordNotFound) rfl
    | some row => exact plain _ (.render (.catalog [row])) rfl
  | edit id =>
    simp only [handle]
    cases (db.catalog k.model).find? (Ruby.toI id) with
    | none => exact plain _ (.error .recordNotFound) rfl
    | some row => exact plain _ (.render (.template .edit)) rfl
  | update id attrs => exact ⟨_,Named.update_saves env _ _ id attrs _,rfl⟩
  | destroy id => exact ⟨_,Named.destroy_saves _ _ id _,rfl⟩

theorem handle_unconfirmed (k : CatalogController) {env : Env} {db : Db} {request : CatalogRequest}
    (plain : (k.handle env db request).2.redirects = false) : (k.handle env db request).1 = db := by
  obtain ⟨reply,saves,same⟩ := k.handle_saves env db request
  rw [same] at plain ⊢
  rw [saves.unconfirmed plain,setCatalog_self]

end CatalogController

theorem Scope.handle_unconfirmed {α : Type} (s : Scope α) (db : Db) (session : Session) (request : AccountRequest α)
    (plain : (s.handle db session request).2.2.redirects = false) : (s.handle db session request).1 = db := by
  cases request with
  | signUp record accepted =>
    simp only [handle,requireNoAuthentication] at plain ⊢
    cases current : s.current db session with
    | some id => rfl
    | none =>
      simp only [current] at plain ⊢
      split
      · rfl
      · rename_i passed
        rw [if_neg passed] at plain
        split
        · rfl
        · rename_i fit
          rw [if_neg fit] at plain
          cases plain
  | update record accepted =>
    simp only [handle] at plain ⊢
    cases current : s.current db session with
    | none => rfl
    | some id =>
      simp only [current] at plain ⊢
      split
      · rfl
      · rename_i passed
        rw [if_neg passed] at plain
        split
        · rfl
        · rename_i fit
          rw [if_neg fit] at plain
          cases plain
  | destroy =>
    simp only [handle] at plain ⊢
    cases current : s.current db session with
    | none => rfl
    | some id =>
      rw [current] at plain
      cases plain
  | _ => exact (s.handle_handled db session _).db_eq s rfl

inductive Unconfirmed (db : Db) (session : Session) : Action → Db → Prop
  | unchanged {action : Action} : Unconfirmed db session action db
  | replaced (attrs : Attrs) (addr : Option String) (answer : Geocoding) (user : Int)
      (current : currentUser db session = some user) :
      Unconfirmed db session (.profiles (.create attrs addr answer))
        {db with profiles := Profile.destroyTarget user db.profiles}
  | copied (property : Option (List (Option String))) (answer : Row UserLookingForProperty → Geocoding)
      (added : List UserLookingForProperty) :
      Unconfirmed db session (.home (.createProperties property answer))
        {db with userLookingForProperties := db.userLookingForProperties.insertAll added}
  | imported (email : Option (List String)) (added : List UserContact) :
      Unconfirmed db session (.usersDashboard (.createContacts email))
        {db with userContacts := db.userContacts.insertAll added}

theorem ProfilesController.handle_unconfirmed {env : Env} {db : Db} {session : Session} {request : ProfileRequest}
    (plain : (handle env db (currentUser db session) request).2.redirects = false) :
    Unconfirmed db session (.profiles request) (handle env db (currentUser db session) request).1 := by
  cases request with
  | create attrs addr answer =>
    cases current : currentUser db session with
    | none => exact .unchanged
    | some user =>
      rw [current] at plain
      rcases create_saves .root env user attrs addr answer db.profiles with ⟨e,same⟩ | saves
      · simp only [handle,same]
        exact .unchanged
      · simp only [handle,saves.unconfirmed plain]
        exact .replaced attrs addr answer user current
  | update id attrs addr dob answer =>
    have same := (update_saves .root env id attrs addr dob answer db.profiles).unconfirmed plain
    simp only [handle,same]
    exact .unchanged
  | new => cases current : currentUser db session <;> exact .unchanged
  | _ => exact .unchanged

theorem serve_unconfirmed {env : Env} {db : Db} {session : Session} {action : Action}
    (plain : (serve env db session action).2.2.redirects = false) :
    Unconfirmed db session action (serve env db session action).1 := by
  have unchanged : ∀ {db'}, db' = db → Unconfirmed db session action db' := by
    rintro _ rfl
    exact .unchanged
  cases action with
  | home request =>
    cases request with
    | createProperties property answer =>
      simp only [serve,HomeController.handle]
      rcases HomeController.createProperties_effect (currentUser db session) property answer db.userLookingForProperties
        with same | ⟨_,added,_,same,_⟩
      · rw [same]
        exact .unchanged
      · rw [same]
        exact .copied property answer added
    | _ => exact .unchanged
  | userProperties request =>
    apply unchanged
    simp only [serve,authenticateUser] at plain ⊢
    cases current : currentUser db session with
    | none => rfl
    | some user =>
      rw [current] at plain
      exact userPropertiesController.handle_unconfirmed plain
  | userLookingForProperties request =>
    apply unchanged
    simp only [serve,authenticateUser] at plain ⊢
    cases current : currentUser db session with
    | none => rfl
    | some user =>
      rw [current] at plain
      exact userLookingForPropertiesController.handle_unconfirmed plain
  | profiles request => exact ProfilesController.handle_unconfirmed plain
  | usersDashboard request =>
    cases request with
    | createContacts email =>
      cases email with
      | none => exact .unchanged
      | some email =>
        obtain ⟨added,same⟩ := UsersDashboard.saveContacts_insertAll email db.userContacts
        simp only [serve,UsersDashboard.handle,same]
        exact .imported (some email) added
    | _ => exact .unchanged
  | catalogs c request => exact unchanged (c.controller.handle_unconfirmed plain)
  | administratorsDashboard => exact .unchanged
  | administratorsDashboardMissing _ => exact .unchanged
  | users request => exact unchanged (usersScope.handle_unconfirmed db session request plain)
  | administrators request => exact unchanged (administratorsScope.handle_unconfirmed db session request plain)

namespace Unconfirmed
variable {db db' : Db} {session : Session} {action : Action} (left : Unconfirmed db session action db')
include left

theorem kept {n : TableName} (other : n ≠ .profiles) {row : Row n.Record} (stored : row ∈ (db.table n).rows) :
    row ∈ (db'.table n).rows := by
  cases left with
  | unchanged => exact stored
  | replaced attrs addr answer user current => cases n <;> first | exact stored | exact absurd rfl other
  | copied property answer added => cases n <;> first | exact stored | exact Table.mem_insertAll_of_mem added stored
  | imported email added => cases n <;> first | exact stored | exact Table.mem_insertAll_of_mem added stored

theorem known {n : TableName} (listings : n ≠ .userLookingForProperties) (contacts : n ≠ .userContacts)
    {row : Row n.Record} (stored : row ∈ (db'.table n).rows) : row ∈ (db.table n).rows := by
  cases left with
  | unchanged => exact stored
  | replaced attrs addr answer user current => cases n <;> first | exact stored | exact Profile.mem_destroyTarget stored
  | copied property answer added => cases n <;> first | exact stored | exact absurd rfl listings
  | imported email added => cases n <;> first | exact stored | exact absurd rfl contacts

theorem profile {row : Row Profile} (stored : row ∈ db.profiles.rows) :
    row ∈ db'.profiles.rows ∨ ∃ attrs addr answer user, action = .profiles (.create attrs addr answer) ∧
      currentUser db session = some user ∧ row.val.userId = some user := by
  cases left with
  | replaced attrs addr answer user current =>
    by_cases own : row.val.userId = some user
    · exact .inr ⟨attrs,addr,answer,user,rfl,current,own⟩
    · exact .inl (Profile.mem_destroyTarget_of_foreign stored own)
  | _ => exact .inl stored

end Unconfirmed

def SubmittedProfile (env : Env) (app : App) (requests : List Request) (j : Nat) (user : Int) : Prop :=
  ∃ i browser attrs addr answer, i < j ∧ requests[i]? = some ⟨browser,.profiles (.create attrs addr answer)⟩ ∧
    let before := stateAt (App.next env) app requests i
    currentUser before.db (before.sessions browser) = some user

def withProfile : App :=
  ⟨{Db.empty with
      users := Db.empty.users.insert ⟨"a@x"⟩
      properties := Db.empty.properties.insert ⟨some "Flat"⟩
      profiles := Db.empty.profiles.insert {Profile.fresh with userId := some 1}},
    fun _ => {Session.empty with user := some 1}⟩

def refused : List Request :=
  [⟨0,.profiles (.create [] none (.accepted none none))⟩,⟨1,.catalogs .properties (.create [("name",some "Flat")])⟩,
    ⟨0,.userProperties (.destroy "7")⟩]

end HyderabadHomes
