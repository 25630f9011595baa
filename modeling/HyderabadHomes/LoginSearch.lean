import HyderabadHomes.SearchPages

/-! A visitor's search on its way through `add_to_cart`, a login and the redirects after
it. The session keeps the last row that was displayed, not the criteria. -/
namespace HyderabadHomes
open Relational

/-- A redirect is followed by a GET without parameters. -/
def Path.action (plan : Plan) : Path → Action
  | .root => .home .index
  | .homeSearchProperties => .home (.searchProperties plan none none)
  | .homeAddToCart => .home .addToCart
  | .homeAddToFavourites => .home (.addToFavourites plan)
  | .newUserRegistration => .users .new
  | .newUserSession => .users .new
  | .newAdministratorRegistration => .administrators .new
  | .newAdministratorSession => .administrators .new
  | .usersDashboardIndex => .usersDashboard .index
  | .usersProfile id => .profiles (.show (toString id))
  | .usersUserProperties => .userProperties (.index fun _ => true)
  | .usersUserProperty id => .userProperties (.show (toString id))
  | .usersUserLookingForProperties => .userLookingForProperties (.index fun _ => true)
  | .usersUserLookingForProperty id => .userLookingForProperties (.show (toString id))
  | .administratorsDashboardIndex => .administratorsDashboard
  | .administratorsCatalog c => .catalogs c (.index none 0 3)
  | .administratorsCatalogRow c id => .catalogs c (.show (toString id))

def App.follow (env : Env) (plan : Plan) (browser : Nat) : Nat → App × Response → App × Response
  | 0,reply => reply
  | fuel+1,reply =>
    match reply.2 with
    | .redirect path _ => App.follow env plan browser fuel (reply.1.step env ⟨browser,path.action plan⟩)
    | _ => reply

inductive Login
  | register (record : User)
  | signIn (account : Int)
deriving DecidableEq,Repr

def Login.request : Login → AccountRequest User
  | .register record => .signUp record true
  | .signIn account => .signIn (some account)

def Login.Succeeds (db : Db) : Login → Prop
  | .register record => usersScope.storable db.users none record = true
  | .signIn account => (db.users.find? account).isSome = true

instance (db : Db) : DecidablePred (Login.Succeeds db)
  | .register _ => inferInstanceAs (Decidable (_ = true))
  | .signIn _ => inferInstanceAs (Decidable (_ = true))

def App.visit (env : Env) (app : App) (browser : Nat) (display : Plan) (criteria : Criteria) (addr : Option String)
    (login : Login) : App × Response :=
  let searched := (app.step env ⟨browser,.home (.searchProperties display (some criteria) addr)⟩).1
  let denied := (searched.step env ⟨browser,.home .addToCart⟩).1
  denied.step env ⟨browser,.users login.request⟩

/-- However the server picks and orders its rows, the search that was shown comes back
after the login, on a page that renders. -/
def SearchSurvives (env : Env) (app : App) (browser : Nat) (criteria : Criteria) (addr : Option String)
    (login : Login) : Prop :=
  ∀ (display later : Plan) (shown : List Shown),
    (app.step env ⟨browser,.home (.searchProperties display (some criteria) addr)⟩).2 = .render (.searchResults shown) →
    ∃ fuel again,
      (App.follow env later browser fuel (app.visit env browser display criteria addr login)).2 =
        .render (.searchResults again) ∧
      ∀ key, key ∈ keysOf again ↔ key ∈ keysOf shown

theorem App.follow_settled {env : Env} {plan : Plan} {browser n : Nat} {reply : App × Response}
    (settled : ∀ path notice, (App.follow env plan browser n reply).2 ≠ .redirect path notice) (m : Nat) :
    App.follow env plan browser (n+m) reply = App.follow env plan browser n reply := by
  induction n generalizing reply with
  | zero =>
    rw [Nat.zero_add]
    obtain ⟨app,response⟩ := reply
    cases m with
    | zero => rfl
    | succ m =>
      cases response with
      | redirect path notice => exact absurd rfl (settled path notice)
      | render page => rfl
      | error e => rfl
  | succ n ih =>
    obtain ⟨app,response⟩ := reply
    rw [Nat.succ_add]
    cases response with
    | redirect path notice => exact ih settled
    | render page => rfl
    | error e => rfl

/-- Following redirects ends in one response. -/
theorem App.follow_unique {env : Env} {plan : Plan} {browser : Nat} {reply : App × Response} (n m : Nat)
    (ended : ∀ path notice, (App.follow env plan browser n reply).2 ≠ .redirect path notice)
    (ended' : ∀ path notice, (App.follow env plan browser m reply).2 ≠ .redirect path notice) :
    (App.follow env plan browser n reply).2 = (App.follow env plan browser m reply).2 := by
  rcases Nat.le_total n m with le | le
  · obtain ⟨d,rfl⟩ := Nat.exists_eq_add_of_le le
    rw [App.follow_settled ended d]
  · obtain ⟨d,rfl⟩ := Nat.exists_eq_add_of_le le
    rw [App.follow_settled ended' d]

section Visit
variable (env : Env) {db : Db} {display : Plan} {criteria : Criteria} {addr : Option String}

theorem currentUser_congr (db : Db) {s s' : Session} (same : s.user = s'.user) : currentUser db s = currentUser db s' := by
  change s.user.filter _ = s'.user.filter _
  rw [same]

theorem currentUser_eq_some {db : Db} {session : Session} {user : Int} (held : session.user = some user)
    (stored : (db.users.find? user).isSome = true) : currentUser db session = some user := by
  change session.user.filter (fun id => (db.users.find? id).isSome) = some user
  rw [held]
  simp [stored]

theorem serve_addToCart_anonymous {session : Session} (anonymous : currentUser db session = none) :
    serve env db session (.home .addToCart) =
      (db,{session with returnTo := some .homeAddToCart},.redirect .newUserRegistration (some "Need to Register")) := by
  simp only [serve,HomeController.handle,HomeController.addToCart,anonymous]

theorem serve_addToCart_signedIn {session : Session} {user : Int} (signedIn : currentUser db session = some user) :
    serve env db session (.home .addToCart) = (db,session,.redirect .homeAddToFavourites none) := by
  simp only [serve,HomeController.handle,HomeController.addToCart,signedIn]

theorem serve_register {session : Session} {record : User} (anonymous : currentUser db session = none)
    (storable : usersScope.storable db.users none record = true) (denied : session.returnTo = some .homeAddToCart) :
    serve env db session (.users (.signUp record true)) =
      ({db with users := db.users.insert record},{session with user := some (db.users.seq+1)},
        .redirect .homeAddToCart (some "Welcome! You have signed up successfully.")) := by
  have visitor : usersScope.current db session = none := anonymous
  have storable' : usersScope.storable (usersScope.table db) none record = true := storable
  simp only [serve,Scope.handle,Scope.requireNoAuthentication,visitor]
  rw [if_neg (by simp [usersScope]),if_neg (by rw [storable']; simp)]
  simp [usersScope,denied]

theorem serve_signIn {session : Session} {account : Int} (anonymous : currentUser db session = none)
    (known : (db.users.find? account).isSome = true) (denied : session.returnTo = some .homeAddToCart) :
    ∃ session', serve env db session (.users (.signIn (some account))) =
      (db,session',.redirect .homeSearchProperties (some "Signed in successfully.")) := by
  have visitor : usersScope.current db session = none := anonymous
  obtain ⟨row,found⟩ := Option.isSome_iff_exists.mp known
  have found' : (some account).bind (usersScope.table db).find? = some row := found
  refine ⟨{session with user := some row.id},?_⟩
  simp only [serve,Scope.handle,Scope.requireNoAuthentication,visitor,found']
  simp [usersScope,denied]

def waiting (session : Session) (shown : List Shown) : Session :=
  {shown.foldl HomeController.remember session with returnTo := some .homeAddToCart}

theorem visit_eq {app : App} {browser : Nat} {shown : List Shown} (login : Login)
    (anonymous : currentUser app.db (app.sessions browser) = none)
    (page : (app.step env ⟨browser,.home (.searchProperties display (some criteria) addr)⟩).2 =
      .render (.searchResults shown)) :
    ∃ denied : App, denied.db = app.db ∧ denied.sessions browser = waiting (app.sessions browser) shown ∧
      currentUser denied.db (denied.sessions browser) = none ∧
      app.visit env browser display criteria addr login = denied.step env ⟨browser,.users login.request⟩ := by
  obtain ⟨_,reply,_⟩ := serve_search_shown env page
  have user := (HomeController.remember_fold (app.sessions browser) shown).1
  have anonymous' : currentUser app.db (shown.foldl HomeController.remember (app.sessions browser)) = none := by
    rw [currentUser_congr app.db user]
    exact anonymous
  have denied := serve_addToCart_anonymous env anonymous'
  refine ⟨_,?_,?_,?_,rfl⟩
  · simp [reply,denied]
  · simp [reply,denied,waiting]
  · simp only [App.step_db,App.step_session,reply,denied]
    exact anonymous'

/-- After a registration the redirects lead to the favourites page, which searches
again for the columns of the row shown last. -/
theorem follow_register {app : App} {browser : Nat} {shown : List Shown} {last : Shown} {record : User} (later : Plan)
    (anonymous : currentUser app.db (app.sessions browser) = none)
    (storable : usersScope.storable app.db.users none record = true)
    (page : (app.step env ⟨browser,.home (.searchProperties display (some criteria) addr)⟩).2 =
      .render (.searchResults shown)) (final : shown.getLast? = some last) :
    ∃ again, (App.follow env later browser 2 (app.visit env browser display criteria addr (.register record))).2 =
        .render (.searchResults again) ∧
      UserLookingForProperty.search later app.db (.ofInteger (some last.2.1.id)) (.ofInteger (some last.2.2.id))
        (.ofText last.1.val.location) = .ok (again.map (·.1)) := by
  obtain ⟨denied,db,session,anonymous',visited⟩ := visit_eq env (.register record) anonymous page
  obtain ⟨_,_,_,remembered⟩ := HomeController.remember_fold (app.sessions browser) shown
  obtain ⟨location,property,lookingFor⟩ := remembered last final
  have returnTo : (denied.sessions browser).returnTo = some .homeAddToCart := by rw [session]; rfl
  rw [← db] at storable
  have registered := serve_register env anonymous' storable returnTo
  have inside : ((denied.db.users.insert record).find? (denied.db.users.seq+1)).isSome = true := by
    rw [Table.find?_eq_some.mpr ⟨Table.mem_insert.mpr (.inr rfl),rfl⟩]
    rfl
  have signedIn : currentUser {denied.db with users := denied.db.users.insert record}
      {denied.sessions browser with user := some (denied.db.users.seq+1)} = some (denied.db.users.seq+1) :=
    currentUser_eq_some rfl inside
  have cart := serve_addToCart_signedIn env signedIn
  obtain ⟨again,rendered,ok⟩ := serve_addToFavourites env later {denied.db with users := denied.db.users.insert record}
    {denied.sessions browser with user := some (denied.db.users.seq+1)}
  refine ⟨again,?_,?_⟩
  · rw [visited]
    simp only [Login.request,App.follow,Path.action,App.step_response,App.step_db,App.step_session,registered,cart,
      rendered]
  · rw [← ok,session]
    simp only [waiting,location,property,lookingFor,← db]
    rfl

theorem follow_signIn {app : App} {browser : Nat} {shown : List Shown} {account : Int} (later : Plan)
    (anonymous : currentUser app.db (app.sessions browser) = none)
    (known : (app.db.users.find? account).isSome = true)
    (page : (app.step env ⟨browser,.home (.searchProperties display (some criteria) addr)⟩).2 =
      .render (.searchResults shown)) :
    (App.follow env later browser 1 (app.visit env browser display criteria addr (.signIn account))).2 =
      .error .noMethod := by
  obtain ⟨denied,db,session,anonymous',visited⟩ := visit_eq env (.signIn account) anonymous page
  have returnTo : (denied.sessions browser).returnTo = some .homeAddToCart := by rw [session]; rfl
  rw [← db] at known
  obtain ⟨session',signedIn⟩ := serve_signIn env anonymous' known returnTo
  rw [visited]
  simp only [Login.request,App.follow,Path.action,App.step_response,App.step_db,App.step_session,signedIn]
  rfl

end Visit

abbrev Matching (criteria : Criteria) (addr : Option String) (j : Joined UserLookingForProperty) : Prop :=
  UserLookingForProperty.Hits (.ofText criteria.propertyId) (.ofText criteria.kindId) (.ofText addr) j

def Agrees (i j : Joined UserLookingForProperty) : Prop :=
  i.property.id = j.property.id ∨ i.kind.id = j.kind.id ∨
    ∃ s, i.listing.val.location = some s ∧ j.listing.val.location = some s

section Survival
variable {env : Env} {app : App} {browser : Nat} {criteria : Criteria} {addr : Option String}

/-- The page after a registration shows the listings that agree with the last one shown. -/
theorem register_shows {display : Plan} {shown : List Shown} {last : Shown} {record : User}
    {i : Joined UserLookingForProperty} (later : Plan) (anonymous : currentUser app.db (app.sessions browser) = none)
    (storable : usersScope.storable app.db.users none record = true)
    (page : (app.step env ⟨browser,.home (.searchProperties display (some criteria) addr)⟩).2 =
      .render (.searchResults shown)) (final : shown.getLast? = some last)
    (listed : UserLookingForProperty.Listing app.db i)
    (same : last.1.val = UserLookingForProperty.model.keyOf i.listing.val) :
    ∃ again, (App.follow env later browser 2 (app.visit env browser display criteria addr (.register record))).2 =
        .render (.searchResults again) ∧
      (∀ key ∈ keysOf again, ∃ j, UserLookingForProperty.Listing app.db j ∧
        UserLookingForProperty.model.keyOf j.listing.val = key) ∧
      ∀ j, UserLookingForProperty.Listing app.db j →
        (UserLookingForProperty.model.keyOf j.listing.val ∈ keysOf again ↔ Agrees i j) := by
  obtain ⟨again,followed,ok⟩ := follow_register env later anonymous storable page final
  have sound : ∀ key ∈ keysOf again, ∃ j, UserLookingForProperty.Listing app.db j ∧
      UserLookingForProperty.model.keyOf j.listing.val = key := by
    intro key member
    rw [keysOf_eq] at member
    obtain ⟨j,listed',_,same'⟩ := (UserLookingForProperty.search_keys ok key).mp member
    exact ⟨j,listed',same'⟩
  refine ⟨again,followed,sound,fun j listed' => ?_⟩
  obtain ⟨_,_,names⟩ := serve_search_shown env page
  obtain ⟨property,kind⟩ := names last (List.mem_of_getLast? final)
  have propertyId : last.2.1.id = i.property.id := by
    have column := listed.propertyId
    rw [same] at property
    exact Option.some.inj (property.symm.trans column)
  have kindId : last.2.2.id = i.kind.id := by
    have column := listed.kindId
    rw [same] at kind
    exact Option.some.inj (kind.symm.trans column)
  have location : last.1.val.location = i.listing.val.location := by rw [same]; rfl
  rw [keysOf_eq,UserLookingForProperty.mem_keys_iff ok listed',UserLookingForProperty.hits_columns,propertyId,kindId,
    location]
  exact Iff.rfl

theorem shown_source {display : Plan} {shown : List Shown}
    (page : (app.step env ⟨browser,.home (.searchProperties display (some criteria) addr)⟩).2 =
      .render (.searchResults shown)) (key : ListingKey) :
    key ∈ keysOf shown ↔ ∃ j, UserLookingForProperty.Listing app.db j ∧ Matching criteria addr j ∧
      UserLookingForProperty.model.keyOf j.listing.val = key := by
  obtain ⟨ok,_⟩ := serve_search_shown env page
  rw [keysOf_eq]
  exact UserLookingForProperty.search_keys ok key

/-- Every display of a search that finds something ends in a matching listing. -/
theorem shown_last {display display' : Plan} {shown shown' : List Shown} (nonempty : shown ≠ [])
    (page : (app.step env ⟨browser,.home (.searchProperties display (some criteria) addr)⟩).2 =
      .render (.searchResults shown))
    (page' : (app.step env ⟨browser,.home (.searchProperties display' (some criteria) addr)⟩).2 =
      .render (.searchResults shown')) :
    ∃ last i, shown'.getLast? = some last ∧ UserLookingForProperty.Listing app.db i ∧ Matching criteria addr i ∧
      last.1.val = UserLookingForProperty.model.keyOf i.listing.val := by
  obtain ⟨row,inside⟩ := List.exists_mem_of_ne_nil shown nonempty
  have member : row.1.val ∈ keysOf shown := List.mem_map.mpr ⟨row,inside,rfl⟩
  have member' := (shown_source page' row.1.val).mpr ((shown_source page row.1.val).mp member)
  have nonempty' : shown' ≠ [] := by
    intro empty
    rw [empty] at member'
    cases member'
  obtain ⟨i,listed,hit,same⟩ := (shown_source page' (shown'.getLast nonempty').1.val).mp
    (List.mem_map.mpr ⟨_,List.getLast_mem nonempty',rfl⟩)
  exact ⟨_,i,List.getLast?_eq_some_getLast nonempty',listed,hit,same.symm⟩

theorem signIn_fails {display : Plan} {shown : List Shown} {account : Int}
    (anonymous : currentUser app.db (app.sessions browser) = none) (known : (app.db.users.find? account).isSome = true)
    (page : (app.step env ⟨browser,.home (.searchProperties display (some criteria) addr)⟩).2 =
      .render (.searchResults shown)) : ¬ SearchSurvives env app browser criteria addr (.signIn account) := by
  intro survives
  obtain ⟨fuel,again,ended,_⟩ := survives display display shown page
  have failed := follow_signIn env display anonymous known page
  have unique := App.follow_unique fuel 1 (by rw [ended]; simp) (by rw [failed]; simp)
  rw [ended,failed] at unique
  cases unique

/-- The server may show any matching listing last. -/
theorem agrees_of_survives {display : Plan} {shown : List Shown} {record : User}
    (anonymous : currentUser app.db (app.sessions browser) = none)
    (storable : usersScope.storable app.db.users none record = true)
    (page : (app.step env ⟨browser,.home (.searchProperties display (some criteria) addr)⟩).2 =
      .render (.searchResults shown)) (survives : SearchSurvives env app browser criteria addr (.register record))
    {i j : Joined UserLookingForProperty} (listed : UserLookingForProperty.Listing app.db i)
    (hit : Matching criteria addr i) (listed' : UserLookingForProperty.Listing app.db j) :
    Matching criteria addr j ↔ Agrees i j := by
  obtain ⟨ok,_⟩ := serve_search_shown env page
  have member := (UserLookingForProperty.mem_keys_iff ok listed).mpr hit
  obtain ⟨rows,last,ok',final,same⟩ := UserLookingForProperty.search_endingWith ok member
  obtain ⟨shown',reply,rows_eq,_⟩ := serve_search env ok' (app.sessions browser)
  have page' : (app.step env ⟨browser,.home (.searchProperties
      (display.endingWith (UserLookingForProperty.model.keyOf i.listing.val)) (some criteria) addr)⟩).2 =
      .render (.searchResults shown') := by rw [App.step_response,reply]
  rw [← rows_eq,List.getLast?_map] at final
  obtain ⟨last',final',here⟩ := Option.map_eq_some_iff.mp final
  obtain ⟨again,followed,_,agree⟩ := register_shows display anonymous storable page' final' listed (by rw [here,same])
  obtain ⟨fuel,again',ended,keys⟩ := survives _ display shown' page'
  have unique := App.follow_unique fuel 2 (by rw [ended]; simp) (by rw [followed]; simp)
  rw [ended,followed] at unique
  cases unique
  rw [← agree j listed',keys,keysOf_eq,rows_eq,UserLookingForProperty.mem_keys_iff ok' listed']

theorem survives_of_agrees {display : Plan} {shown : List Shown} {record : User}
    (anonymous : currentUser app.db (app.sessions browser) = none)
    (storable : usersScope.storable app.db.users none record = true) (nonempty : shown ≠ [])
    (page : (app.step env ⟨browser,.home (.searchProperties display (some criteria) addr)⟩).2 =
      .render (.searchResults shown))
    (agrees : ∀ i, UserLookingForProperty.Listing app.db i → Matching criteria addr i →
      ∀ j, UserLookingForProperty.Listing app.db j → (Matching criteria addr j ↔ Agrees i j)) :
    SearchSurvives env app browser criteria addr (.register record) := by
  intro display' later shown' page'
  obtain ⟨last,i,final,listed,hit,same⟩ := shown_last nonempty page page'
  obtain ⟨again,followed,sound,agree⟩ := register_shows later anonymous storable page' final listed same
  refine ⟨2,again,followed,fun key => ?_⟩
  rw [shown_source page']
  constructor
  · intro member
    obtain ⟨j,listed',here⟩ := sound key member
    rw [← here] at member
    exact ⟨j,listed',(agrees i listed hit j listed').mpr ((agree j listed').mp member),here⟩
  · intro source
    obtain ⟨j,listed',hit',here⟩ := source
    rw [← here]
    exact (agree j listed').mpr ((agrees i listed hit j listed').mp hit')

/-- Of an anonymous visitor's search that finds something: it survives the login exactly
when the login is a registration and each matching listing, which the page may show last,
shares a column with the matching listings and with no other. -/
theorem search_survives_iff (login : Login) (anonymous : currentUser app.db (app.sessions browser) = none)
    (found : ∃ display shown, shown ≠ [] ∧
      (app.step env ⟨browser,.home (.searchProperties display (some criteria) addr)⟩).2 = .render (.searchResults shown))
    (succeeds : login.Succeeds app.db) :
    SearchSurvives env app browser criteria addr login ↔
      (∃ record, login = .register record) ∧
        ∀ i, UserLookingForProperty.Listing app.db i → Matching criteria addr i →
          ∀ j, UserLookingForProperty.Listing app.db j → (Matching criteria addr j ↔ Agrees i j) := by
  obtain ⟨display,shown,nonempty,page⟩ := found
  cases login with
  | signIn account =>
    constructor
    · intro survives
      exact absurd survives (signIn_fails anonymous succeeds page)
    · intro both
      obtain ⟨⟨record,registers⟩,_⟩ := both
      cases registers
  | register record =>
    constructor
    · intro survives
      exact ⟨⟨record,rfl⟩,fun i listed hit j listed' => agrees_of_survives anonymous succeeds page survives listed hit listed'⟩
    · intro both
      exact survives_of_agrees anonymous succeeds nonempty page both.2

end Survival

def oneListing : App := App.init
  {Db.empty with
    users := Table.empty.insert ⟨"user@example.com"⟩
    properties := Table.empty.insert ⟨some "Flat"⟩
    lookingFors := Table.empty.insert ⟨some "Rent"⟩
    userLookingForProperties := Table.empty.insert ⟨some 1,some "Hyderabad",some 1,some 1,none,none,none⟩}

def onlyShown : List Shown :=
  [(⟨1,⟨some "Hyderabad",some 1,some 1⟩⟩,⟨1,⟨some "Flat"⟩⟩,⟨1,⟨some "Rent"⟩⟩)]

def threeListings : App := App.init
  {Db.empty with
    users := Table.empty.insert ⟨"user@example.com"⟩
    properties := (Table.empty.insert ⟨some "Flat"⟩).insert ⟨some "Villa"⟩
    lookingFors := (Table.empty.insert ⟨some "Rent"⟩).insert ⟨some "Sale"⟩
    userLookingForProperties := ((Table.empty.insert ⟨some 1,some "Hyderabad",some 1,some 1,none,none,none⟩).insert
      ⟨some 1,some "Secunderabad",some 1,some 1,none,none,none⟩).insert
      ⟨some 1,some "Warangal",some 2,some 2,none,none,none⟩}

def flatAt (id : Int) (location : String) : Joined UserLookingForProperty :=
  ⟨⟨id,⟨some 1,some location,some 1,some 1,none,none,none⟩⟩,⟨1,⟨some "Flat"⟩⟩,⟨1,⟨some "Rent"⟩⟩⟩

def villa : Joined UserLookingForProperty :=
  ⟨⟨3,⟨some 1,some "Warangal",some 2,some 2,none,none,none⟩⟩,⟨2,⟨some "Villa"⟩⟩,⟨2,⟨some "Sale"⟩⟩⟩

/-- The loop writes the columns of both flats to the session, the second ones over the first. -/
theorem search_survives_registration :
    SearchSurvives Env.production threeListings 0 ⟨some "1",some "1"⟩ none (.register ⟨"visitor@example.com"⟩) := by
  have shown : (threeListings.step Env.production ⟨0,.home (.searchProperties (DistinctOn.first Row.val)
      (some ⟨some "1",some "1"⟩) none)⟩).2 = .render (.searchResults
        [(⟨1,⟨some "Hyderabad",some 1,some 1⟩⟩,⟨1,⟨some "Flat"⟩⟩,⟨1,⟨some "Rent"⟩⟩),
          (⟨2,⟨some "Secunderabad",some 1,some 1⟩⟩,⟨1,⟨some "Flat"⟩⟩,⟨1,⟨some "Rent"⟩⟩)]) := by decide
  refine (search_survives_iff (.register ⟨"visitor@example.com"⟩) rfl
    ⟨DistinctOn.first Row.val,_,List.cons_ne_nil _ _,shown⟩ (by decide)).mpr ⟨⟨_,rfl⟩,?_⟩
  have listings : ∀ j, UserLookingForProperty.Listing threeListings.db j →
      j = flatAt 1 "Hyderabad" ∨ j = flatAt 2 "Secunderabad" ∨ j = villa := by
    intro j listed
    have joined : j ∈ [flatAt 1 "Hyderabad",flatAt 2 "Secunderabad",villa] := (ListingModel.listed_iff _ _ _ _ j).mp listed
    simpa using joined
  have hits : ∀ j : Joined UserLookingForProperty,
      Matching ⟨some "1",some "1"⟩ none j ↔ 1 = j.property.id ∨ 1 = j.kind.id := by
    intro j
    have one : (Literal.text "1").asInteger = .ok (some 1) := rfl
    simp [Matching,UserLookingForProperty.Hits,one,Literal.ofText]
  intro i listed hit j listed'
  rw [hits] at hit ⊢
  rcases listings i listed with rfl | rfl | rfl <;> rcases listings j listed' with rfl | rfl | rfl <;>
    simp [Agrees,flatAt,villa] at hit ⊢

/-- A sign-in sends the visitor to a search page that is asked without its parameters. -/
theorem search_lost_at_sign_in :
    currentUser oneListing.db (oneListing.sessions 0) = none ∧
      (oneListing.step Env.production ⟨0,.home (.searchProperties (DistinctOn.first Row.val)
        (some ⟨some "1",some "1"⟩) none)⟩).2 = .render (.searchResults onlyShown) ∧
      Login.Succeeds oneListing.db (.signIn 1) ∧
      ¬ SearchSurvives Env.production oneListing 0 ⟨some "1",some "1"⟩ none (.signIn 1) := by
  have page : (oneListing.step Env.production ⟨0,.home (.searchProperties (DistinctOn.first Row.val)
      (some ⟨some "1",some "1"⟩) none)⟩).2 = .render (.searchResults onlyShown) := by decide
  refine ⟨rfl,page,by decide,fun survives => ?_⟩
  obtain ⟨fuel,again,ended,_⟩ := survives (DistinctOn.first Row.val) (DistinctOn.first Row.val) onlyShown page
  have failed : (App.follow Env.production (DistinctOn.first Row.val) 0 1 (oneListing.visit Env.production 0
      (DistinctOn.first Row.val) ⟨some "1",some "1"⟩ none (.signIn 1))).2 = .error .noMethod := by decide
  have unique := App.follow_unique fuel 1 (by rw [ended]; simp) (by rw [failed]; simp)
  rw [ended,failed] at unique
  cases unique

end HyderabadHomes
