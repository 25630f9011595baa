import HyderabadHomes.References
import HyderabadHomes.Relational.Grouping

/-! What a page shows besides the rows of its own action: the layout with its header, the
choices of the forms and the charts of the dashboard. -/
namespace HyderabadHomes
open Relational Transition

/-- `User.joins(:user_properties).count`. -/
def joinCount {α : Type} (userId : α → Option Int) (users : Table User) (t : Table α) : Nat :=
  (users.ids.flatMap fun user => t.rows.filter fun row => userId row.val == some user).length

abbrev Chart := List (Option String × Nat)

/-- `kind.user_properties.group_by(&:user_id).count` for each kind: its owners, not its listings. -/
def chart {α : Type} (kinds : Table Named) (kindId userId : α → Option Int) (t : Table α) : Chart :=
  kinds.rows.map fun kind =>
    (kind.val.name,groupCount (fun row => kindId row.val) (fun row => userId row.val) t.rows kind.id)

structure Header where
  /-- The email of the greeting, and the first name where there is a profile. -/
  user : Option (String × Option (Option String))
  userProperties : Nat
  userLookingForProperties : Nat
deriving DecidableEq,Repr

/-- `layouts/application`: a signed-in administrator gets no header. -/
structure Layout where
  header : Option Header
  userMenu : Bool
deriving DecidableEq,Repr

def Layout.of (db : Db) (session : Session) : Layout where
  header :=
    if (currentAdministrator db session).isSome then none
    else some ⟨
      ((currentUser db session).bind db.users.find?).map fun user =>
        (user.val.email,(Profile.ofUser db.profiles user.id).map fun profile => profile.val.firstName),
      joinCount UserProperty.userId db.users db.userProperties,
      joinCount UserLookingForProperty.userId db.users db.userLookingForProperties⟩
  userMenu := (currentUser db session).isSome

inductive Body
  | fixed
  | choices (properties kinds : List (Row Named))
  | charts (userProperties userLookingForProperties : Option (Chart × Chart))
  | accounts (rows : List (String × Option (Option String × Option String × Option String)))
deriving DecidableEq,Repr

/-- `users/dashboard/index`: each pair of charts only for a user with such listings. -/
def dashboardCharts (db : Db) (user : Option Int) : Body :=
  .charts
    (if db.userProperties.rows.any fun row => user.isSome && row.val.userId == user then
      some (chart db.ownershipTypes UserProperty.ownershipTypeId UserProperty.userId db.userProperties,
        chart db.properties UserProperty.propertyId UserProperty.userId db.userProperties)
    else none)
    (if db.userLookingForProperties.rows.any fun row => user.isSome && row.val.userId == user then
      some (chart db.lookingFors UserLookingForProperty.lookingForId UserLookingForProperty.userId
          db.userLookingForProperties,
        chart db.properties UserLookingForProperty.propertyId UserLookingForProperty.userId db.userLookingForProperties)
    else none)

/-- `administrators/dashboard#users_list`, which no filter protects. -/
def usersList (db : Db) : List (String × Option (Option String × Option String × Option String)) :=
  db.users.rows.map fun user =>
    (user.val.email,(Profile.ofUser db.profiles user.id).map fun profile =>
      (profile.val.firstName,profile.val.lastName,profile.val.mobileNumber))

def Action.body (db : Db) (session : Session) : Action → Page → Body
  | .home .index,_ =>
    if (currentAdministrator db session).isSome || (currentUser db session).isSome then .fixed
    else .choices db.properties.rows db.lookingFors.rows
  | .userProperties _,.template _ => .choices db.properties.rows db.ownershipTypes.rows
  | .userLookingForProperties _,.template _ => .choices db.properties.rows db.lookingFors.rows
  | .usersDashboard .index,_ => dashboardCharts db (currentUser db session)
  -- of the two pages, `index` has nothing of its own
  | .administratorsDashboard,_ => .accounts (usersList db)
  | _,_ => .fixed

structure View where
  layout : Layout
  body : Body
deriving DecidableEq,Repr

/-- A page is rendered from the state that its action leaves. -/
def Action.view (action : Action) (db : Db) (session : Session) : Response → Option View
  | .render page => some ⟨.of db session,action.body db session page⟩
  | _ => none

def App.show (env : Env) (app : App) (request : Request) : App × Response × Option View :=
  let (app',response) := app.step env request
  (app',response,request.action.view app'.db (app'.sessions request.browser) response)

section Counts
variable {α : Type} {userId kindId : α → Option Int}

theorem joinCount_eq (users : Table User) (t : Table α) :
    joinCount userId users t = (t.rows.filter fun row => (userId row.val).any fun user => users.ids.contains user).length :=
  length_join users.distinct (fun row : Row α => userId row.val) t.rows

theorem joinCount_eq_length_iff {users : Table User} {t : Table α} :
    joinCount userId users t = t.rows.length ↔ ForeignKey userId t users := by
  rw [joinCount_eq,List.length_filter_eq_length_iff]
  refine forall₂_congr fun row _ => ?_
  rw [refers_iff_ids]
  cases userId row.val <;> simp

theorem chart_sum (kinds : Table Named) (t : Table α) :
    ((chart kinds kindId userId t).map Prod.snd).sum =
      ((t.rows.filter fun row => (kindId row.val).any fun kind => kinds.ids.contains kind).map fun row =>
        (kindId row.val,userId row.val)).dedup.length := by
  refine Eq.trans ?_ (sum_groupCount kinds.distinct (fun row : Row α => kindId row.val) (fun row => userId row.val) t.rows)
  simp only [chart,List.map_map]
  rfl

/-- The slices of a chart over whole references: the pairs of a kind and an owner that occur. -/
theorem chart_sum_of_foreignKey {kinds : Table Named} {t : Table α} (whole : ForeignKey kindId t kinds) :
    ((chart kinds kindId userId t).map Prod.snd).sum =
      (t.rows.map fun row => (kindId row.val,userId row.val)).dedup.length := by
  have all : t.rows.filter (fun row => (kindId row.val).any fun kind => kinds.ids.contains kind) = t.rows := by
    rw [List.filter_eq_self]
    intro row member
    obtain ⟨id,inside,same⟩ := refers_iff_ids.mp (whole row member)
    simp [same,inside]
  rw [chart_sum,all]

end Counts

structure ListingCounts {α : Type} (m : ListingModel α) (t : Table α) (users : Table User)
    (properties kinds : Table Named) : Prop where
  header : joinCount m.userId users t = t.rows.length
  kinds : ((chart kinds m.kindId m.userId t).map Prod.snd).sum =
    (t.rows.map fun row => (m.kindId row.val,m.userId row.val)).dedup.length
  properties : ((chart properties m.propertyId m.userId t).map Prod.snd).sum =
    (t.rows.map fun row => (m.propertyId row.val,m.userId row.val)).dedup.length

/-- While requests keep references whole, every page's header counts every listing, and the
charts of the dashboard have one unit for each owner and kind, however often that owner
lists the kind. -/
theorem pages_count_every_listing (env : Env) (app : App) (requests : List Request) (start : Integrity app.db)
    (keeps : Along (App.next env) (KeepsReferences env) app requests) :
    Throughout (App.next env) (fun app =>
      ListingCounts UserProperty.model app.db.userProperties app.db.users app.db.properties app.db.ownershipTypes ∧
        ListingCounts UserLookingForProperty.model app.db.userLookingForProperties app.db.users app.db.properties
          app.db.lookingFors) app requests := by
  have whole := (throughout_iff_along (App.next env) (integrity_step_iff env) start requests).mpr keeps
  rw [throughout_iff_take] at whole ⊢
  intro n
  obtain ⟨owned,wanted⟩ := whole n
  exact ⟨⟨joinCount_eq_length_iff.mpr owned.user,chart_sum_of_foreignKey owned.kind,chart_sum_of_foreignKey owned.property⟩,
    joinCount_eq_length_iff.mpr wanted.user,chart_sum_of_foreignKey wanted.kind,chart_sum_of_foreignKey wanted.property⟩

def listedTwice : List Request :=
  [⟨0,.catalogs .properties (.create [("name",some "Flat")])⟩,
    ⟨0,.catalogs .ownershipTypes (.create [("name",some "Owned")])⟩,
    ⟨0,.users (.signUp ⟨"owner@example.com"⟩ true)⟩,
    ⟨0,.userProperties (.create [("property_id",some "1"),("ownership_type_id",some "1")] (some "Hyderabad")
      (.accepted none none))⟩,
    ⟨0,.userProperties (.create [("property_id",some "1"),("ownership_type_id",some "1")] (some "Secunderabad")
      (.accepted none none))⟩]

/-- Two listings of one owner and kind are one unit of the charts. -/
theorem pages_count_both_listings :
    Throughout (App.next .production) (fun app =>
      ListingCounts UserProperty.model app.db.userProperties app.db.users app.db.properties app.db.ownershipTypes ∧
        ListingCounts UserLookingForProperty.model app.db.userLookingForProperties app.db.users app.db.properties
          app.db.lookingFors) (App.init .empty) listedTwice := by
  apply pages_count_every_listing .production (App.init .empty) listedTwice integrity_empty
  refine ⟨trivial,trivial,trivial,fun _ => ⟨⟨⟨1,⟨some "Flat"⟩⟩,?_,?_⟩,⟨1,⟨some "Owned"⟩⟩,?_,?_⟩,
    fun _ => ⟨⟨⟨1,⟨some "Flat"⟩⟩,?_,?_⟩,⟨1,⟨some "Owned"⟩⟩,?_,?_⟩,trivial⟩
  all_goals decide

end HyderabadHomes
