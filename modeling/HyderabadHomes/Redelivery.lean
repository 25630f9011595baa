import HyderabadHomes.ColumnLimits
import HyderabadHomes.Effects
import HyderabadHomes.ListingForm
import HyderabadHomes.Routes
import HyderabadHomes.Transition.Retry

/-! PUT and DELETE requests that are delivered more than once: a hash assigned again writes
what it wrote, a row deleted again is gone already, and an account is not there to cancel. -/
namespace HyderabadHomes
open Relational Routing Transition

def repeatedActions : List String := ["update","destroy"]

/-- A field that a hash has been assigned to holds the same when the hash is assigned again,
to what the first assignment led to or to what it started from. -/
theorem assign_field_again {α β : Type} {accessible : List (Attribute α)} {key : String} {cast : Option String → β}
    {proj : α → β} (writes : Writes accessible key cast proj) {strict : Bool} {held record start again : α} {attrs : Attrs}
    (first : assign accessible strict held attrs = .ok record) (second : assign accessible strict start attrs = .ok again)
    (same : proj start = proj record ∨ proj start = proj held) : proj again = proj record := by
  have before := assign_field writes first
  rw [assign_field writes second,before]
  rcases same with moved | stayed
  · rw [moved,before]
    cases submitted key attrs <;> rfl
  · rw [stayed]

section Listings
variable {α : Type} {m : ListingModel α}

/-- A hash that is assigned to its own result, stamped as before, changes at most the position. -/
def ListingModel.Reassigns (m : ListingModel α) : Prop :=
  ∀ (env : Env) (user : Int) (held record again : α) (attrs : Attrs) (x y : Option Double),
    assign (m.attrAccessible env) env.strict (m.setUserId user held) attrs = .ok record →
    assign (m.attrAccessible env) env.strict (m.setUserId user (m.locate x y record)) attrs = .ok again →
    m.locate x y again = m.locate x y record

theorem UserProperty.reassigns : model.Reassigns := by
  intro env user held record again attrs x y first second
  have isCurrentLocation : Writes (attrAccessible env) "is_current_location" castBoolean isCurrentLocation :=
    ⟨by simp [attrAccessible,column],by simp [attrAccessible,column],by simp [attrAccessible,column]⟩
  simp only [model,UserProperty.mk.injEq]
  exact ⟨assign_field_again (model.writes_userId env) first second (.inr rfl),
    assign_field_again (writes_location env) first second (.inl rfl),
    assign_field_again (model.writes_propertyId env) first second (.inl rfl),
    assign_field_again isCurrentLocation first second (.inl rfl),
    assign_field_again (model.writes_kindId env) first second (.inl rfl),trivial,trivial⟩

theorem UserLookingForProperty.reassigns : model.Reassigns := by
  intro env user held record again attrs x y first second
  simp only [model,UserLookingForProperty.mk.injEq]
  exact ⟨assign_field_again (model.writes_userId env) first second (.inr rfl),
    assign_field_again (writes_location env) first second (.inl rfl),
    assign_field_again (model.writes_propertyId env) first second (.inl rfl),
    assign_field_again (model.writes_kindId env) first second (.inl rfl),trivial,trivial,
    assign_field_again (userLookingForPropertyForm.writes_price _ rfl env) first second (.inl rfl)⟩

theorem ListingModel.updated_again (reassigns : m.Reassigns) {env : Env} {user : Int} {held stored again : α} {attrs : Attrs}
    {answer : Geocoding} (ok : m.updated env user held attrs answer = some stored)
    (ok' : m.updated env user stored attrs answer = some again) : again = stored := by
  obtain ⟨record,assigned,saved⟩ := updated_eq_some.mp ok
  obtain ⟨record',assigned',saved'⟩ := updated_eq_some.mp ok'
  obtain ⟨x,y,located,_,_,rfl⟩ := saveGeocoded_stored saved
  obtain ⟨x',y',located',_,_,rfl⟩ := saveGeocoded_stored saved'
  rw [located] at located'
  cases located'
  exact reassigns env user held record record' attrs x y assigned assigned'

theorem ListingRequest.apply_again (reassigns : m.Reassigns) (env : Env) (user : Int) (t : Table α)
    {request : ListingRequest α} {search : String} (repeats : (request.target search).1 ∈ repeatedActions)
    (other : search ∉ repeatedActions) :
    request.apply m env user (request.apply m env user t) = request.apply m env user t := by
  cases request with
  | update id attrs answer =>
    exact t.rewrite_again _ (fun _ row => m.updated env user row.val attrs answer) fun row val again _ ok ok' =>
      ListingModel.updated_again reassigns ok ok'
  | destroy id => exact t.delete_again _
  | search plan criteria addr => exact absurd repeats other
  | _ => simp [target,repeatedActions] at repeats

end Listings

theorem Profile.updated_eq_some {env : Env} {held stored : Profile} {attrs : Attrs} {addr dob : Option String}
    {answer : Geocoding} : updated env held attrs addr dob answer = some stored ↔
      ∃ record, assign (attrAccessible env) env.strict {held with workLocation := addr,dob := dob} attrs = .ok record ∧
        save answer record = .stored stored := by
  unfold updated
  cases assign (attrAccessible env) env.strict {held with workLocation := addr,dob := dob} attrs with
  | error e => simp [Except.toOption]
  | ok record => simp [Except.toOption,Saved.record?_eq_some]

theorem Profile.updated_again {env : Env} {held stored again : Profile} {attrs : Attrs} {addr dob : Option String}
    {answer : Geocoding} (ok : updated env held attrs addr dob answer = some stored)
    (ok' : updated env stored attrs addr dob answer = some again) : again = stored := by
  obtain ⟨record,first,saved⟩ := updated_eq_some.mp ok
  obtain ⟨record',second,saved'⟩ := updated_eq_some.mp ok'
  obtain ⟨x,y,located,_,_,rfl⟩ := saveGeocoded_stored saved
  obtain ⟨x',y',located',_,_,rfl⟩ := saveGeocoded_stored saved'
  rw [located] at located'
  cases located'
  have firstName : Writes (attrAccessible env) "first_name" id firstName :=
    ⟨by simp [attrAccessible,column],by simp [attrAccessible,column],by simp [attrAccessible,column]⟩
  have text := writes_text env
  simp only [textColumns,List.forall_mem_cons] at text
  obtain ⟨lastName,dob,gender,mobileNumber,alternateNumber,workLocation,employer,_⟩ := text
  simp only [locate,Profile.mk.injEq]
  exact ⟨assign_field_again firstName first second (.inl rfl),assign_field_again lastName first second (.inl rfl),
    assign_field_again dob first second (.inr rfl),assign_field_again gender first second (.inl rfl),
    assign_field_again mobileNumber first second (.inl rfl),assign_field_again alternateNumber first second (.inl rfl),
    assign_field_again workLocation first second (.inr rfl),assign_field_again employer first second (.inl rfl),
    assign_field_again (writes_userId env) first second (.inl rfl),trivial,trivial⟩

theorem ProfileRequest.apply_again (env : Env) (currentUser : Option Int) (t : Table Profile) {request : ProfileRequest}
    (repeats : request.target.1 ∈ repeatedActions) :
    request.apply env currentUser (request.apply env currentUser t) = request.apply env currentUser t := by
  cases request with
  | update id attrs addr dob answer =>
    exact t.rewrite_again _ (fun _ row => Profile.updated env row.val attrs addr dob answer) fun _ _ _ _ ok ok' =>
      Profile.updated_again ok ok'
  | destroy id => rfl
  | _ => simp [target,repeatedActions] at repeats

theorem Named.assigned_of_accepted {env : Env} {t : Table Named} {self : Option Int} {held record : Named} {attrs : Attrs}
    (made : accepted env t self held attrs = some record) : assign attrAccessible env.strict held attrs = .ok record := by
  unfold accepted at made
  cases assigned : assign attrAccessible env.strict held attrs with
  | error e => simp [assigned] at made
  | ok next =>
    simp only [assigned] at made
    split at made
    · cases made
    · cases made
      rfl

theorem CatalogRequest.apply_again (env : Env) (t : Table Named) {request : CatalogRequest}
    (repeats : request.routed.1 ∈ repeatedActions) : request.apply env (request.apply env t) = request.apply env t := by
  cases request with
  | update id attrs =>
    refine t.rewrite_again _ (fun t row => Named.accepted env t (some row.id) row.val attrs) fun _ _ _ _ ok ok' => ?_
    have name := assign_field_again Named.writes_name (Named.assigned_of_accepted ok) (Named.assigned_of_accepted ok') (.inl rfl)
    exact Named.mk.injEq _ _ ▸ name
  | destroy id => exact t.delete_again _
  | _ => simp [routed,repeatedActions] at repeats

namespace Scope
variable {α : Type} {s : Scope α}

structure Settles (s : Scope α) : Prop where
  table_setTable : ∀ db t, s.table (s.setTable t db) = t
  setTable_again : ∀ db t t', s.setTable t (s.setTable t' db) = s.setTable t db
  account_setAccount : ∀ id session, s.account (s.setAccount id session) = some id
  account_welcomed : ∀ session, s.account (s.afterSignInPathFor session).1 = s.account session
  account_empty : s.account .empty = none
  welcomed_again : ∀ session,
    (s.afterSignInPathFor (s.afterSignInPathFor session).1).1 = (s.afterSignInPathFor session).1
  welcomed_setAccount : ∀ id session,
    (s.afterSignInPathFor (s.setAccount id (s.afterSignInPathFor session).1)).1 =
      s.setAccount id (s.afterSignInPathFor session).1

def Rests (s : Scope α) (request : AccountRequest α) (reply : Db × Session × Response) : Prop :=
  (s.handle reply.1 reply.2.1 request).1 = reply.1 ∧ (s.handle reply.1 reply.2.1 request).2.1 = reply.2.1

namespace Settles

theorem reset_again (settles : s.Settles) (db : Db) (session : Session) (account : Option Int) :
    s.Rests (.resetPassword account) (s.handle db session (.resetPassword account)) := by
  cases current : s.current db session with
  | some id =>
    have welcomed : s.current db (s.afterSignInPathFor session).1 = some id := by
      rw [Scope.current,settles.account_welcomed]
      exact current
    simp only [Rests,handle,requireNoAuthentication,current,welcomed]
    exact ⟨trivial,settles.welcomed_again session⟩
  | none =>
    cases found : account.bind (s.table db).find? with
    | none => simp only [Rests,handle,requireNoAuthentication,current,found,and_self]
    | some row =>
      obtain ⟨id,_,here⟩ := Option.bind_eq_some_iff.mp found
      have stored := (Table.find?_eq_some.mp here).2 ▸ here
      have signedIn : s.current db (s.setAccount row.id (s.afterSignInPathFor session).1) = some row.id := by
        simp only [Scope.current,settles.account_setAccount,Option.filter_some,stored,Option.isSome_some,if_true]
      simp only [Rests,handle,requireNoAuthentication,current,found,signedIn]
      exact ⟨trivial,settles.welcomed_setAccount row.id session⟩

theorem update_again (settles : s.Settles) (db : Db) (session : Session) (record : α) (accepted : Bool) :
    s.Rests (.update record accepted) (s.handle db session (.update record accepted)) := by
  cases current : s.current db session with
  | none => simp only [Rests,handle,current,and_self]
  | some id =>
    by_cases passed : (!(accepted && s.valid record)) = true
    · simp only [Rests,handle,current,if_pos passed,and_self]
    · by_cases unfit : (!s.storable (s.table db) (some id) record) = true
      · simp only [Rests,handle,current,if_neg passed,if_pos unfit,and_self]
      · obtain ⟨account,stored⟩ := Option.filter_eq_some_iff.mp current
        obtain ⟨row,found⟩ := Option.isSome_iff_exists.mp stored
        have renamed := Table.find?_update found fun _ => record
        have still : s.current (s.setTable ((s.table db).update id fun _ => record) db) session = some id := by
          simp only [Scope.current,settles.table_setTable,account,Option.filter_some,renamed,Option.isSome_some,if_true]
        simp only [Rests,handle,current,if_neg passed,if_neg unfit,still,settles.table_setTable,settles.setTable_again,
          Table.update_self renamed (fun _ => record) rfl]
        split <;> exact ⟨rfl,rfl⟩

theorem destroy_again (settles : s.Settles) (db : Db) (session : Session) :
    s.Rests .destroy (s.handle db session .destroy) := by
  cases current : s.current db session with
  | none => simp only [Rests,handle,current,and_self]
  | some id =>
    have anonymous : s.current (s.destroy id db) .empty = none := by
      rw [Scope.current,settles.account_empty]
      rfl
    simp only [Rests,handle,current,anonymous,and_self]

theorem handle_again (settles : s.Settles) (db : Db) (session : Session) {request : AccountRequest α}
    {target : String × String} (member : target ∈ request.targets) (repeats : target.2 ∈ repeatedActions) :
    s.Rests request (s.handle db session request) := by
  cases request with
  | resetPassword account => exact settles.reset_again db session account
  | update record accepted => exact settles.update_again db session record accepted
  | destroy => exact settles.destroy_again db session
  | signOut => exact ⟨rfl,rfl⟩
  | new =>
    have shown : ∀ target ∈ (AccountRequest.new : AccountRequest α).targets, target.2 ∉ repeatedActions := by
      simp [AccountRequest.targets,repeatedActions]
    exact absurd repeats (shown target member)
  | _ =>
    rw [List.mem_singleton.mp member] at repeats
    exact absurd repeats (by decide)

end Settles
end Scope

theorem usersScope_settles : usersScope.Settles :=
  ⟨fun _ _ => rfl,fun _ _ _ => rfl,fun _ _ => rfl,fun _ => rfl,rfl,fun _ => rfl,fun _ _ => rfl⟩

theorem administratorsScope_settles : administratorsScope.Settles :=
  ⟨fun _ _ => rfl,fun _ _ _ => rfl,fun _ _ => rfl,fun _ => rfl,rfl,fun _ => rfl,fun _ _ => rfl⟩

theorem Action.apply_again (env : Env) (db : Db) (session : Session) {action : Action}
    (untouched : action.touchesSession = false) {target : Endpoint × Params} (member : target ∈ action.targets)
    (repeats : target.1.action ∈ repeatedActions) :
    action.apply env (action.apply env db session) session = action.apply env db session := by
  cases action with
  | home request =>
    rw [List.mem_singleton.mp member] at repeats
    cases request <;> simp [HomeRequest.target,repeatedActions] at repeats
  | userProperties request =>
    rw [List.mem_singleton.mp member] at repeats
    cases current : currentUser db session with
    | none => simp only [Action.apply,current]
    | some user =>
      have still : ∀ t, currentUser {db with userProperties := t} session = some user := fun _ => current
      simp only [Action.apply,current,still,request.apply_again UserProperty.reassigns env user _ repeats (by decide)]
  | userLookingForProperties request =>
    rw [List.mem_singleton.mp member] at repeats
    cases current : currentUser db session with
    | none => simp only [Action.apply,current]
    | some user =>
      have still : ∀ t, currentUser {db with userLookingForProperties := t} session = some user := fun _ => current
      simp only [Action.apply,current,still,
        request.apply_again UserLookingForProperty.reassigns env user _ repeats (by decide)]
  | profiles request =>
    rw [List.mem_singleton.mp member] at repeats
    have still : ∀ t, currentUser {db with profiles := t} session = currentUser db session := fun _ => rfl
    simp only [Action.apply,still,request.apply_again env _ _ repeats]
  | usersDashboard request =>
    rw [List.mem_singleton.mp member] at repeats
    cases request with
    | missing action => rfl
    | _ => simp [DashboardRequest.target,repeatedActions] at repeats
  | catalogs c request =>
    rw [List.mem_singleton.mp member] at repeats
    simp only [Action.apply,Db.catalog_setCatalog,if_true,request.apply_again env _ repeats]
    cases c.controller.target request <;> rfl
  | administratorsDashboard => rfl
  | administratorsDashboardMissing action => rfl
  | users request => cases untouched
  | administrators request => cases untouched

theorem serve_again (env : Env) (db : Db) (session : Session) {action : Action} {target : Endpoint × Params}
    (member : target ∈ action.targets) (repeats : target.1.action ∈ repeatedActions) :
    (serve env (serve env db session action).1 (serve env db session action).2.1 action).1 = (serve env db session action).1 ∧
      (serve env (serve env db session action).1 (serve env db session action).2.1 action).2.1 =
        (serve env db session action).2.1 := by
  cases touched : action.touchesSession with
  | false =>
    simp only [serve_session_of_untouched env _ _ touched,serve_db,and_true]
    exact Action.apply_again env db session touched member repeats
  | true =>
    cases action with
    | users request =>
      obtain ⟨own,inside,rfl⟩ := List.mem_map.mp member
      exact usersScope_settles.handle_again db session inside repeats
    | administrators request =>
      obtain ⟨own,inside,rfl⟩ := List.mem_map.mp member
      exact administratorsScope_settles.handle_again db session inside repeats
    | home request =>
      rw [List.mem_singleton.mp member] at repeats
      cases request <;> simp [HomeRequest.target,repeatedActions] at repeats
    | _ => cases touched

theorem put_and_delete_routes_repeat :
    ∀ route ∈ routes, route.verb = .put ∨ route.verb = .delete → route.target.action ∈ repeatedActions := by decide +kernel

namespace Request

def Repeatable (request : Request) : Prop :=
  ∃ verb, (verb = .put ∨ verb = .delete) ∧ ∃ text, request.action.Answers verb text

/-- The first request writes no table that the second one uses, and leaves its session alone. -/
def PassesBy (b a : Request) : Prop :=
  (b.browser = a.browser → b.action.touchesSession = false) ∧
    ∀ n ∈ b.action.writes, n ∉ a.action.reads ∧ n ∉ a.action.writes

instance (a b : Request) : Decidable (b.PassesBy a) :=
  inferInstanceAs (Decidable ((b.browser = a.browser → b.action.touchesSession = false) ∧
    ∀ n ∈ b.action.writes, n ∉ a.action.reads ∧ n ∉ a.action.writes))

end Request

theorem App.next_again (env : Env) (app : App) {request : Request} (repeatable : request.Repeatable) :
    App.next env (App.next env app request) request = App.next env app request := by
  obtain ⟨verb,put,text,target,member,recognized⟩ := repeatable
  obtain ⟨route,inside,verbs,same,_⟩ := recognize_mem recognized
  have repeats : target.1.action ∈ repeatedActions := same ▸ put_and_delete_routes_repeat route inside (verbs ▸ put)
  obtain ⟨db,session⟩ := serve_again env app.db (app.sessions request.browser) member repeats
  have left : ∀ app : App, (App.next env app request).sessions request.browser =
      (serve env app.db (app.sessions request.browser) request.action).2.1 := fun _ => if_pos rfl
  have stored : ∀ app : App, (App.next env app request).db =
      (serve env app.db (app.sessions request.browser) request.action).1 := fun _ => rfl
  refine App.ext_content _ _ fun c => ?_
  cases c with
  | table n =>
    refine congrArg (fun db : Db => db.table n) ?_
    rw [stored (App.next env app request),left app]
    exact db
  | session browser =>
    by_cases own : browser = request.browser
    · subst own
      refine (left (App.next env app request)).trans ?_
      rw [left app]
      exact session.trans (left app).symm
    · exact if_neg own

end HyderabadHomes
