import HyderabadHomes.App
import HyderabadHomes.Routing.Url
import HyderabadHomes.Transition.Run

/-! `config/routes.rb`: the table of all routes in their order, and the requests that each
action answers. -/
namespace HyderabadHomes
open Relational Routing Transition

/-- `space/controller#action`. Devise's own controllers stand under the scope that is
mapped to them. -/
structure Endpoint where
  space : String
  controller : String
  action : String
deriving DecidableEq,Repr

/-- `resources`, within a namespace; the routes of its block come first. -/
def resources (space name : String) (collection : List (Verb × String)) : List (Route Endpoint) :=
  let path := [Segment.literal space,.literal name]
  collection.map (fun own => ⟨own.1,path ++ [.literal own.2],⟨space,name,own.2⟩⟩) ++
    [⟨.get,path,⟨space,name,"index"⟩⟩,⟨.post,path,⟨space,name,"create"⟩⟩,
      ⟨.get,path ++ [.literal "new"],⟨space,name,"new"⟩⟩,
      ⟨.get,path ++ [.dynamic "id",.literal "edit"],⟨space,name,"edit"⟩⟩,
      ⟨.get,path ++ [.dynamic "id"],⟨space,name,"show"⟩⟩,⟨.put,path ++ [.dynamic "id"],⟨space,name,"update"⟩⟩,
      ⟨.delete,path ++ [.dynamic "id"],⟨space,name,"destroy"⟩⟩]

/-- `devise_for`, for the modules that both account models have. -/
def deviseFor (space : String) : List (Route Endpoint) :=
  let route (verb : Verb) (path : List String) (controller action : String) : Route Endpoint :=
    ⟨verb,(space :: path).map .literal,⟨space,controller,action⟩⟩
  [route .get ["sign_in"] "sessions" "new",route .post ["sign_in"] "sessions" "create",
    route .delete ["sign_out"] "sessions" "destroy",
    route .post ["password"] "passwords" "create",route .get ["password","new"] "passwords" "new",
    route .get ["password","edit"] "passwords" "edit",route .put ["password"] "passwords" "update",
    route .get ["cancel"] "registrations" "cancel",route .post [] "registrations" "create",
    route .get ["sign_up"] "registrations" "new",route .get ["edit"] "registrations" "edit",
    route .put [] "registrations" "update",route .delete [] "registrations" "destroy"]

def homeRoute (verb : Verb) (action : String) : Route Endpoint :=
  ⟨verb,[.literal "home",.literal action],⟨"","home",action⟩⟩

def routes : List (Route Endpoint) :=
  deviseFor "administrators" ++
  (resources "administrators" "dashboard" [(.get,"users_list")] ++ resources "administrators" "properties" [] ++
    resources "administrators" "ownership_types" [] ++ resources "administrators" "looking_fors" []) ++
  [homeRoute .get "index",homeRoute .post "search_properties",homeRoute .get "search_properties",
    homeRoute .post "add_to_cart",homeRoute .get "add_to_cart",homeRoute .get "add_to_favourites",
    homeRoute .post "create_properties",homeRoute .get "about_us",homeRoute .get "contact_us"] ++
  deviseFor "users" ++
  (resources "users" "dashboard" [(.get,"invite_friends"),(.post,"import"),(.post,"create_contacts")] ++
    resources "users" "profiles" [] ++ resources "users" "user_properties" [(.post,"search_properties_user")] ++
    resources "users" "user_looking_for_properties" [(.post,"search_properties_looking")]) ++
  [⟨.get,[],⟨"","home","index"⟩⟩]

/-- The ids that never reach an action, since another route spells them out. -/
def reservedIds (endpoint : Endpoint) : List String :=
  if endpoint.action = "show" then
    if endpoint.controller = "dashboard" then
      if endpoint.space = "users" then ["invite_friends","new"] else ["users_list","new"]
    else ["new"]
  else []

theorem routes_reserve : Reserves reservedIds [] routes := by decide +kernel

theorem routes_writable : ∀ route ∈ routes, ∀ segment ∈ route.pattern, segment.Writable := by decide +kernel

/-- The text of a path that is generated from parameters that fit their segments leads back to
its route, with the same parameters, exactly when the id is not one of the reserved words. -/
theorem generated_path_recognized_iff {route : Route Endpoint} (member : route ∈ routes) {params : Params}
    {parts : List String} (written : write route.pattern params = some parts) (plain : ∀ p ∈ params, Plain p.2) :
    recognize routes route.verb (parse (url parts)).1 = some (route.target,params) ↔
      ∀ word ∈ reservedIds route.target, params.map (·.2) ≠ [word] := by
  rw [parse_url (write_plain written (routes_writable route member) plain)]
  exact routes_reserve.recognize_iff member written plain

theorem generated_path_of_profile :
    let route : Route Endpoint :=
      ⟨.get,[.literal "users",.literal "profiles",.dynamic "id"],⟨"users","profiles","show"⟩⟩
    recognize routes route.verb (parse (url ["users","profiles","9"])).1 = some (route.target,[("id","9")]) := by
  intro route
  exact (generated_path_recognized_iff (by decide +kernel) rfl (by decide)).mpr (by decide)

section Targets

def ListingRequest.target {α : Type} (search : String) : ListingRequest α → String × Params
  | .index _ => ("index",[])
  | .new => ("new",[])
  | .create _ _ _ => ("create",[])
  | .show id => ("show",[("id",id)])
  | .edit id => ("edit",[("id",id)])
  | .update id _ _ => ("update",[("id",id)])
  | .destroy id => ("destroy",[("id",id)])
  | .search _ _ _ => (search,[])

def HomeRequest.target : HomeRequest → String
  | .index => "index"
  | .aboutUs => "about_us"
  | .contactUs => "contact_us"
  | .searchProperties _ _ _ => "search_properties"
  | .addToCart => "add_to_cart"
  | .addToFavourites _ => "add_to_favourites"
  | .createProperties _ _ => "create_properties"

def ProfileRequest.target : ProfileRequest → String × Params
  | .index => ("index",[])
  | .new => ("new",[])
  | .create _ _ _ => ("create",[])
  | .show id => ("show",[("id",id)])
  | .edit id => ("edit",[("id",id)])
  | .update id _ _ _ _ => ("update",[("id",id)])
  | .destroy id => ("destroy",[("id",id)])

def CatalogRequest.routed : CatalogRequest → String × Params
  | .index _ _ _ => ("index",[])
  | .new => ("new",[])
  | .create _ => ("create",[])
  | .show id => ("show",[("id",id)])
  | .edit id => ("edit",[("id",id)])
  | .update id _ => ("update",[("id",id)])
  | .destroy id => ("destroy",[("id",id)])

def MissingAction.target : MissingAction → String × Params
  | .new => ("new",[])
  | .create => ("create",[])
  | .show id => ("show",[("id",id)])
  | .edit id => ("edit",[("id",id)])
  | .update id => ("update",[("id",id)])
  | .destroy id => ("destroy",[("id",id)])

def DashboardRequest.target : DashboardRequest → String × Params
  | .index => ("index",[])
  | .inviteFriends => ("invite_friends",[])
  | .import _ => ("import",[])
  | .createContacts _ => ("create_contacts",[])
  | .missing action => action.target

/-- The pages that ask for an account share one request, and so do the ways to one. -/
def AccountRequest.targets {α : Type} : AccountRequest α → List (String × String)
  | .new => [("sessions","new"),("passwords","new"),("registrations","new")]
  | .signUp _ _ => [("registrations","create")]
  | .signIn _ => [("sessions","create")]
  | .forgotPassword _ => [("passwords","create")]
  | .editPassword => [("passwords","edit")]
  | .resetPassword _ => [("passwords","update")]
  | .cancel => [("registrations","cancel")]
  | .edit => [("registrations","edit")]
  | .update _ _ => [("registrations","update")]
  | .destroy => [("registrations","destroy")]
  | .signOut => [("sessions","destroy")]

def Catalog.controllerName : Catalog → String
  | .properties => "properties"
  | .ownershipTypes => "ownership_types"
  | .lookingFors => "looking_fors"

def Action.targets : Action → List (Endpoint × Params)
  | .home request => [(⟨"","home",request.target⟩,[])]
  | .userProperties request =>
    let (action,params) := request.target "search_properties_user"
    [(⟨"users","user_properties",action⟩,params)]
  | .userLookingForProperties request =>
    let (action,params) := request.target "search_properties_looking"
    [(⟨"users","user_looking_for_properties",action⟩,params)]
  | .profiles request => [(⟨"users","profiles",request.target.1⟩,request.target.2)]
  | .usersDashboard request => [(⟨"users","dashboard",request.target.1⟩,request.target.2)]
  | .catalogs c request => [(⟨"administrators",c.controllerName,request.routed.1⟩,request.routed.2)]
  | .administratorsDashboard =>
    [(⟨"administrators","dashboard","index"⟩,[]),(⟨"administrators","dashboard","users_list"⟩,[])]
  | .administratorsDashboardMissing action =>
    [(⟨"administrators","dashboard",action.target.1⟩,action.target.2)]
  | .users request => request.targets.map fun target => (⟨"users",target.1,target.2⟩,[])
  | .administrators request => request.targets.map fun target => (⟨"administrators",target.1,target.2⟩,[])

end Targets

def Action.Answers (verb : Verb) (text : String) (action : Action) : Prop :=
  ∃ target ∈ action.targets, recognize routes verb (parse text).1 = some target

section Bare

/-! One request for each action that is routed, with `id` where the route has one. -/

def ListingRequest.bare {α : Type} (id : String) : List (ListingRequest α) :=
  [.index fun _ => true,.new,.create [] none .raised,.show id,.edit id,.update id [] .raised,.destroy id,
    .search (DistinctOn.first Row.val) none none]

def HomeRequest.bare : List HomeRequest :=
  [.index,.aboutUs,.contactUs,.searchProperties (DistinctOn.first Row.val) none none,.addToCart,
    .addToFavourites (DistinctOn.first Row.val),.createProperties none fun _ => .raised]

def ProfileRequest.bare (id : String) : List ProfileRequest :=
  [.index,.new,.create [] none .raised,.show id,.edit id,.update id [] none none .raised,.destroy id]

def CatalogRequest.bare (id : String) : List CatalogRequest :=
  [.index none 0 3,.new,.create [],.show id,.edit id,.update id [],.destroy id]

def MissingAction.bare (id : String) : List MissingAction := [.new,.create,.show id,.edit id,.update id,.destroy id]

def DashboardRequest.bare (id : String) : List DashboardRequest :=
  [.index,.inviteFriends,.import none,.createContacts none] ++ (MissingAction.bare id).map .missing

def AccountRequest.bare {α : Type} (record : α) : List (AccountRequest α) :=
  [.new,.signUp record false,.signIn none,.forgotPassword none,.editPassword,.resetPassword none,.cancel,.edit,
    .update record false,.destroy,.signOut]

def Action.bare (id : String) : List Action :=
  HomeRequest.bare.map .home ++ (ListingRequest.bare id).map .userProperties ++
    (ListingRequest.bare id).map .userLookingForProperties ++ (ProfileRequest.bare id).map .profiles ++
    (DashboardRequest.bare id).map .usersDashboard ++
    [Catalog.properties,.ownershipTypes,.lookingFors].flatMap (fun c => (CatalogRequest.bare id).map (.catalogs c)) ++
    [.administratorsDashboard] ++ (MissingAction.bare id).map .administratorsDashboardMissing ++
    (AccountRequest.bare ⟨""⟩).map .users ++ (AccountRequest.bare Administrator.fresh).map .administrators

def covered : List (Endpoint × List String) :=
  ((Action.bare "").flatMap Action.targets).map fun target => (target.1,target.2.map (·.1))

set_option maxRecDepth 2000 in
theorem targets_bare (id : String) :
    (Action.bare id).flatMap Action.targets = covered.map fun own => (own.1,own.2.map (·,id)) := rfl

theorem routes_covered : ∀ route ∈ routes, (route.target,keys route.pattern) ∈ covered := by decide +kernel

theorem routes_have_one_key : ∀ route ∈ routes, (keys route.pattern).length ≤ 1 := by decide +kernel

end Bare

/-- Every URL that is routed is answered by an action. -/
theorem routed_urls_are_answered {verb : Verb} {text : String}
    (routed : (recognize routes verb (parse text).1).isSome) : ∃ action : Action, action.Answers verb text := by
  obtain ⟨⟨endpoint,params⟩,recognized⟩ := Option.isSome_iff_exists.mp routed
  obtain ⟨route,inside,_,rfl,found⟩ := recognize_mem recognized
  have named : params.map (·.1) = keys route.pattern := keys_of_read found
  obtain ⟨id,same⟩ : ∃ id, params = (keys route.pattern).map (·,id) := by
    have few : params.length ≤ 1 := by
      rw [← List.length_map (·.1),named]
      exact routes_have_one_key route inside
    rw [← named]
    cases params with
    | nil => exact ⟨"",rfl⟩
    | cons p rest =>
      rw [List.eq_nil_of_length_eq_zero (Nat.le_zero.mp (Nat.le_of_succ_le_succ few))]
      exact ⟨p.2,rfl⟩
  have target : (route.target,params) ∈ (Action.bare id).flatMap Action.targets := by
    rw [targets_bare,same]
    exact List.mem_map_of_mem (routes_covered route inside)
  obtain ⟨action,_,member⟩ := List.mem_flatMap.mp target
  exact ⟨action,_,member,recognized⟩

def writingActions : List String := ["create","update","destroy","create_properties","create_contacts"]

/-- No GET route leads to one of them. -/
theorem get_routes_read : ∀ route ∈ routes, route.verb = .get → route.target.action ∉ writingActions := by decide +kernel

theorem Action.Answers.reads {text : String} {action : Action} (answers : action.Answers .get text) :
    ∃ target ∈ action.targets, target.1.action ∉ writingActions := by
  obtain ⟨target,member,recognized⟩ := answers
  obtain ⟨route,inside,verb,same,_⟩ := recognize_mem recognized
  exact ⟨target,member,same ▸ get_routes_read route inside verb⟩

theorem ListingRequest.apply_of_reads {α : Type} (m : ListingModel α) (env : Env) (currentUser : Int) (t : Table α)
    {request : ListingRequest α} {search : String} (reads : (request.target search).1 ∉ writingActions) :
    request.apply m env currentUser t = t := by
  cases request with
  | create attrs addr answer => exact absurd (show "create" ∈ writingActions by decide) reads
  | update id attrs answer => exact absurd (show "update" ∈ writingActions by decide) reads
  | destroy id => exact absurd (show "destroy" ∈ writingActions by decide) reads
  | _ => rfl

theorem ProfileRequest.apply_of_reads (env : Env) (currentUser : Option Int) (t : Table Profile) {request : ProfileRequest}
    (reads : request.target.1 ∉ writingActions) : request.apply env currentUser t = t := by
  cases request with
  | create attrs addr answer => exact absurd (show "create" ∈ writingActions by decide) reads
  | update id attrs addr dob answer => exact absurd (show "update" ∈ writingActions by decide) reads
  | _ => rfl

theorem CatalogRequest.apply_of_reads (env : Env) (t : Table Named) {request : CatalogRequest}
    (reads : request.routed.1 ∉ writingActions) : request.apply env t = t := by
  cases request with
  | create attrs => exact absurd (show "create" ∈ writingActions by decide) reads
  | update id attrs => exact absurd (show "update" ∈ writingActions by decide) reads
  | destroy id => exact absurd (show "destroy" ∈ writingActions by decide) reads
  | _ => rfl

theorem Scope.handle_of_reads {α : Type} (s : Scope α) (db : Db) (session : Session) {request : AccountRequest α}
    {target : String × String} (member : target ∈ request.targets) (reads : target.2 ∉ writingActions) :
    (s.handle db session request).1 = db := by
  cases request with
  | new => exact (s.handle_handled db session _).db_eq s rfl
  | editPassword => exact (s.handle_handled db session _).db_eq s rfl
  | cancel => exact (s.handle_handled db session _).db_eq s rfl
  | edit => exact (s.handle_handled db session _).db_eq s rfl
  | _ =>
    rw [List.mem_singleton.mp member] at reads
    exact absurd (by decide) reads

theorem Action.apply_of_reads (env : Env) (db : Db) (session : Session) {action : Action} {target : Endpoint × Params}
    (member : target ∈ action.targets) (reads : target.1.action ∉ writingActions) :
    action.apply env db session = db := by
  cases action with
  | home request =>
    rw [List.mem_singleton.mp member] at reads
    cases request with
    | createProperties property answer => exact absurd (show "create_properties" ∈ writingActions by decide) reads
    | _ => rfl
  | userProperties request =>
    rw [List.mem_singleton.mp member] at reads
    simp only [Action.apply,request.apply_of_reads _ env _ _ reads]
    cases currentUser db session <;> rfl
  | userLookingForProperties request =>
    rw [List.mem_singleton.mp member] at reads
    simp only [Action.apply,request.apply_of_reads _ env _ _ reads]
    cases currentUser db session <;> rfl
  | profiles request =>
    rw [List.mem_singleton.mp member] at reads
    simp only [Action.apply,request.apply_of_reads env _ _ reads]
  | usersDashboard request =>
    rw [List.mem_singleton.mp member] at reads
    cases request with
    | createContacts email => exact absurd (show "create_contacts" ∈ writingActions by decide) reads
    | _ => rfl
  | catalogs c request =>
    rw [List.mem_singleton.mp member] at reads
    simp only [Action.apply,request.apply_of_reads env _ reads,CatalogController.setCatalog_self]
  | administratorsDashboard => rfl
  | administratorsDashboardMissing _ => rfl
  | users request =>
    obtain ⟨own,inside,rfl⟩ := List.mem_map.mp member
    exact usersScope.handle_of_reads db session inside reads
  | administrators request =>
    obtain ⟨own,inside,rfl⟩ := List.mem_map.mp member
    exact administratorsScope.handle_of_reads db session inside reads

/-- A remember-me cookie signs its account in before the request that carries it is served. -/
def Action.FromCookie (action : Action) : Prop :=
  (∃ account, action = .users (.signIn account)) ∨ ∃ account, action = .administrators (.signIn account)

theorem Action.FromCookie.apply_eq {action : Action} (remembered : action.FromCookie) (env : Env) (db : Db)
    (session : Session) : action.apply env db session = db := by
  rcases remembered with ⟨account,rfl⟩ | ⟨account,rfl⟩
  · exact (usersScope.handle_handled db session _).db_eq usersScope rfl
  · exact (administratorsScope.handle_handled db session _).db_eq administratorsScope rfl

theorem Action.apply_of_visit (env : Env) (db : Db) (session : Session) {action : Action} {text : String}
    (visit : action.Answers .get text ∨ action.FromCookie) : action.apply env db session = db := by
  rcases visit with answers | remembered
  · obtain ⟨target,inside,reads⟩ := answers.reads
    exact Action.apply_of_reads env db session inside reads
  · exact remembered.apply_eq env db session

/-- Every URL that is routed has an action, and over any run of GET requests, of any browsers and
to any URLs that are routed, with the sign-ins that remember-me cookies make on the way, no row
is written. The columns that Devise keeps for itself in an account's row (password, tokens,
sign-ins) are not part of it. -/
theorem get_requests_keep_the_database (env : Env) (app : App) :
    (∀ text, (recognize routes .get (parse text).1).isSome → ∃ action : Action, action.Answers .get text) ∧
      ∀ visits : List (String × Request),
        (∀ visit ∈ visits, visit.2.action.Answers .get visit.1 ∨ visit.2.action.FromCookie) →
        Throughout (App.next env) (fun seen => seen.db = app.db) app (visits.map (·.2)) := by
  refine ⟨fun text routed => routed_urls_are_answered routed,fun visits addressed => ?_⟩
  rw [throughout_iff_take]
  intro n
  rw [← List.map_take]
  have visited : ∀ visit ∈ visits.take n, visit ∈ visits := fun visit => List.mem_of_mem_take
  generalize visits.take n = front at visited
  induction front generalizing app with
  | nil => rfl
  | cons visit front ih =>
    rw [List.map_cons,run_cons,ih (App.next env app visit.2) fun other member => visited other (List.mem_cons_of_mem _ member),
      App.next_db]
    exact Action.apply_of_visit env app.db _ (addressed visit (visited visit List.mem_cons_self))

def withOneUser : Db := {Db.empty with users := Db.empty.users.insert ⟨"a@x"⟩}

/-- A search engine reads a profile and asks for the list of users; a browser that is remembered
comes back to edit its registration. -/
theorem crawler_keeps_the_database :
    Throughout (App.next .production) (fun seen => seen.db = withOneUser) (App.init withOneUser)
      (([("/users/profiles/9",⟨0,.profiles (.show "9")⟩),
        ("//administrators/dashboard/users_list/",⟨0,.administratorsDashboard⟩),
        ("/users/edit",⟨1,.users (.signIn (some 1))⟩),
        ("/users/edit",⟨1,.users .edit⟩)] : List (String × Request)).map (·.2)) := by
  refine (get_requests_keep_the_database .production (App.init withOneUser)).2 _ fun visit member => ?_
  simp only [List.mem_cons,List.not_mem_nil,or_false] at member
  rcases member with rfl | rfl | rfl | rfl
  · exact .inl ⟨_,List.mem_singleton.mpr rfl,by decide +kernel⟩
  · exact .inl ⟨_,List.mem_cons_of_mem _ (List.mem_singleton.mpr rfl),by decide +kernel⟩
  · exact .inr (.inl ⟨_,rfl⟩)
  · exact .inl ⟨_,List.mem_singleton.mpr rfl,by decide +kernel⟩

end HyderabadHomes
