import HyderabadHomes.App
import HyderabadHomes.Transition.Run

/-! Who can change a catalog row. No filter guards the catalog controllers, so the
administrators are the only ones exactly in the runs where the requests happen to be theirs. -/
namespace HyderabadHomes
open Relational Transition

theorem User.destroy_catalog (id : Int) (db : Db) (c : Catalog) : (User.destroy id db).catalog c = db.catalog c := by
  cases c <;> rfl

theorem users_catalog (db : Db) (session : Session) (request : AccountRequest User) (c : Catalog) :
    (usersScope.handle db session request).1.catalog c = db.catalog c := by
  refine usersScope.handle_preserves (fun after => after.catalog c = db.catalog c) rfl (fun record => ?_)
    (fun id record => ?_) (fun id => ?_) session request
  · cases c <;> rfl
  · cases c <;> rfl
  · exact User.destroy_catalog id db c

theorem administrators_catalog (db : Db) (session : Session) (request : AccountRequest Administrator) (c : Catalog) :
    (administratorsScope.handle db session request).1.catalog c = db.catalog c := by
  refine administratorsScope.handle_preserves (fun after => after.catalog c = db.catalog c) rfl (fun record => ?_)
    (fun id record => ?_) (fun id => ?_) session request
  · cases c <;> rfl
  · cases c <;> rfl
  · cases c <;> rfl

theorem apply_catalog (env : Env) (db : Db) (session : Session) {action : Action} (c : Catalog)
    (other : ∀ d request, action ≠ .catalogs d request) : (action.apply env db session).catalog c = db.catalog c := by
  cases action with
  | catalogs d request => exact absurd rfl (other d request)
  | home request => cases request <;> cases c <;> rfl
  | userProperties request =>
    simp only [Action.apply]
    cases currentUser db session <;> cases c <;> rfl
  | userLookingForProperties request =>
    simp only [Action.apply]
    cases currentUser db session <;> cases c <;> rfl
  | profiles request => cases c <;> rfl
  | usersDashboard request =>
    obtain ⟨contacts,effect⟩ := UsersDashboard.handle_effect db (currentUser db session) request
    simp only [Action.apply,effect]
    cases c <;> rfl
  | administratorsDashboard => rfl
  | administratorsDashboardMissing _ => rfl
  | users request => exact users_catalog db session request c
  | administrators request => exact administrators_catalog db session request c

def ChangesCatalog (env : Env) (app : App) (request : Request) : Prop :=
  ∃ c, ((app.next env request).db.catalog c).rows ≠ (app.db.catalog c).rows

def EffectiveCatalogRequest (env : Env) (app : App) (request : Request) : Prop :=
  ∃ c catalogRequest, request.action = .catalogs c catalogRequest ∧
    catalogRequest.takesEffect env (app.db.catalog (c.controller.target catalogRequest)) = true

theorem changesCatalog_iff (env : Env) (app : App) (request : Request) :
    ChangesCatalog env app request ↔ EffectiveCatalogRequest env app request := by
  unfold ChangesCatalog EffectiveCatalogRequest
  rw [App.next_db]
  constructor
  · intro changes
    obtain ⟨c,changed⟩ := changes
    by_cases reaches : ∃ d catalogRequest, request.action = .catalogs d catalogRequest
    · obtain ⟨d,catalogRequest,action⟩ := reaches
      refine ⟨d,catalogRequest,action,?_⟩
      by_contra idle
      have same := (catalogRequest.apply_rows_eq_iff env _).mpr (Bool.eq_false_iff.mpr idle)
      rw [action,Action.apply,Db.catalog_setCatalog] at changed
      split at changed
      · rename_i here
        exact changed (here ▸ same)
      · exact changed rfl
    · refine absurd (congrArg Table.rows (apply_catalog env app.db _ c ?_)) changed
      intro d catalogRequest action
      exact reaches ⟨d,catalogRequest,action⟩
  · intro effective
    obtain ⟨d,catalogRequest,action,effect⟩ := effective
    refine ⟨d.controller.target catalogRequest,?_⟩
    rw [action,Action.apply,Db.catalog_setCatalog,if_pos rfl]
    intro same
    rw [(catalogRequest.apply_rows_eq_iff env _).mp same] at effect
    cases effect

def administratorSignedIn (app : App) (request : Request) : Bool :=
  (currentAdministrator app.db (app.sessions request.browser)).isSome

/-- Over any run: catalog rows change in administrator sessions only, exactly when every
catalog request that takes effect comes from one. -/
theorem run_catalogs_guarded_iff (env : Env) (app : App) (requests : List Request) :
    Along (App.next env) (fun app request => ChangesCatalog env app request → administratorSignedIn app request)
        app requests ↔
      Along (App.next env) (fun app request => EffectiveCatalogRequest env app request → administratorSignedIn app request)
        app requests :=
  along_congr (App.next env) (fun app request => by rw [changesCatalog_iff]) app requests

theorem anonymous_creates_property :
    ¬ Along (App.next .production)
      (fun app request => ChangesCatalog .production app request → administratorSignedIn app request)
      (App.init Db.empty) [⟨0,.catalogs .properties (.create [("name",some "Flat")])⟩] := by
  intro all
  obtain ⟨guarded,_⟩ := all
  have changed : ChangesCatalog .production (App.init Db.empty)
      ⟨0,.catalogs .properties (.create [("name",some "Flat")])⟩ := ⟨.properties,by decide⟩
  have signedIn := guarded changed
  revert signedIn
  decide

end HyderabadHomes
