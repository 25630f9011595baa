import HyderabadHomes.Http

/-! The `Profile` model and the actions of `Users::ProfilesController`. -/
namespace HyderabadHomes
open Relational

namespace Profile

def attrAccessible (env : Env) : List (Attribute Profile) :=
  [column "alternate_number" fun v r => {r with alternateNumber := v},
    column "dob" fun v r => {r with dob := v},
    column "employer" fun v r => {r with employer := v},
    column "first_name" fun v r => {r with firstName := v},
    column "gender" fun v r => {r with gender := v},
    column "last_name" fun v r => {r with lastName := v},
    column "latitude" fun v r => {r with latitude := castFloat env v},
    column "longitude" fun v r => {r with longitude := castFloat env v},
    column "mobile_number" fun v r => {r with mobileNumber := v},
    column "user_id" fun v r => {r with userId := castInteger v},
    column "work_location" fun v r => {r with workLocation := v}]

theorem writes_userId (env : Env) : Writes (attrAccessible env) "user_id" castInteger userId :=
  ⟨by simp [attrAccessible,column],by simp [attrAccessible,column],by simp [attrAccessible,column]⟩

def fresh : Profile := ⟨none,none,none,none,none,none,none,none,none,none,none⟩

/-- The class of `/^[a-zA-Z.\s]*$/i`; the long s and the Kelvin sign fold to ASCII letters. -/
def firstNameClass (c : Char) : Bool :=
  c.isAlpha || c == '.' || c == ' ' || (9 ≤ c.toNat && c.toNat ≤ 13) || c.toNat == 0x17F || c.toNat == 0x212A

def validFirstName (name : Option String) : Bool :=
  Ruby.matchesLine firstNameClass (name.getD "") && name.any (fun s => 1 ≤ s.length && s.length ≤ 20) &&
    Ruby.present name

def valid (r : Profile) : Bool :=
  validFirstName r.firstName && Ruby.present r.lastName && Ruby.present r.mobileNumber &&
    Ruby.present r.workLocation && Ruby.present r.employer

def locate (x y : Option Double) (r : Profile) : Profile := {r with latitude := x,longitude := y}

def save (answer : Geocoding) (record : Profile) : Saved Profile := saveGeocoded valid fits locate answer record

theorem save_stored {answer : Geocoding} {record stored : Profile} (ok : save answer record = .stored stored) :
    stored.userId = record.userId ∧ fits stored = true := by
  obtain ⟨latitude,longitude,_,_,fit,rfl⟩ := saveGeocoded_stored ok
  exact ⟨rfl,fit⟩

/-- `user.profile`: the first stored row that carries the user's id. -/
def ofUser (t : Table Profile) (user : Int) : Option (Row Profile) :=
  t.rows.find? (fun row => row.val.userId == some user)

theorem ofUser_eq_some {t : Table Profile} {user : Int} {row : Row Profile} (found : ofUser t user = some row) :
    row ∈ t.rows ∧ row.val.userId = some user :=
  ⟨List.mem_of_find?_eq_some found,by simpa using List.find?_some found⟩

theorem ofUser_eq_none {t : Table Profile} {user : Int} :
    ofUser t user = none ↔ ∀ row ∈ t.rows, row.val.userId ≠ some user := by
  simp [ofUser,List.find?_eq_none]

def destroyTarget (user : Int) (t : Table Profile) : Table Profile :=
  match ofUser t user with
  | none => t
  | some row => t.delete row.id

theorem mem_destroyTarget {user : Int} {t : Table Profile} {row : Row Profile} (member : row ∈ (destroyTarget user t).rows) :
    row ∈ t.rows := by
  unfold destroyTarget at member
  cases found : ofUser t user with
  | none => simpa [found] using member
  | some old =>
    rw [found] at member
    exact (Table.mem_delete.mp member).1

theorem mem_destroyTarget_of_foreign {user : Int} {t : Table Profile} {row : Row Profile} (member : row ∈ t.rows)
    (foreign : row.val.userId ≠ some user) : row ∈ (destroyTarget user t).rows := by
  unfold destroyTarget
  cases found : ofUser t user with
  | none => exact member
  | some old =>
    refine Table.mem_delete.mpr ⟨member,fun same => foreign ?_⟩
    obtain ⟨inside,owner⟩ := ofUser_eq_some found
    rw [Table.eq_of_id member inside same]
    exact owner

@[simp] theorem destroyTarget_seq (user : Int) (t : Table Profile) : (destroyTarget user t).seq = t.seq := by
  unfold destroyTarget
  cases ofUser t user <;> rfl

theorem ofUser_insert {t : Table Profile} {user : Int} {stored : Profile}
    (none : ∀ row ∈ t.rows, row.val.userId ≠ some user) (owned : stored.userId = some user) :
    ofUser (t.insert stored) user = some ⟨t.seq+1,stored⟩ := by
  have missing : t.rows.find? (fun row => row.val.userId == some user) = Option.none := ofUser_eq_none.mpr none
  simp [ofUser,List.find?_append,missing,owned]

end Profile

namespace ProfilesController
open Profile

/-- `users_profile_path` lacks the id it needs. -/
def new (currentUser : Int) (t : Table Profile) : Response :=
  match ofUser t currentUser with
  | some _ => .error .routing
  | none => .render (.template .new)

/-- The attributes are assigned before the stored profile is replaced, and the new
one is saved after. -/
def create (env : Env) (currentUser : Int) (attrs : Attrs) (addr : Option String) (answer : Geocoding)
    (t : Table Profile) : Table Profile × Response :=
  match assign (attrAccessible env) env.strict fresh attrs with
  | .error e => (t,.error e)
  | .ok record =>
    match save answer {record with userId := some currentUser,workLocation := addr} with
    | .stored stored =>
      ((destroyTarget currentUser t).insert stored,
        .redirect (.usersProfile (t.seq+1)) (some "Profile Created Successfully."))
    | .rejected => (destroyTarget currentUser t,.render (.template .new))
    | .raised e => (destroyTarget currentUser t,.error e)

def edit (id : String) (t : Table Profile) : Response :=
  match t.find? (Ruby.toI id) with
  | none => .error .recordNotFound
  | some _ => .render (.template .edit)

def update (env : Env) (id : String) (attrs : Attrs) (addr dob : Option String) (answer : Geocoding)
    (t : Table Profile) : Table Profile × Response :=
  match t.find? (Ruby.toI id) with
  | none => (t,.error .recordNotFound)
  | some row =>
    match assign (attrAccessible env) env.strict {row.val with workLocation := addr,dob := dob} attrs with
    | .error e => (t,.error e)
    | .ok record =>
      match save answer record with
      | .stored stored =>
        (t.update row.id fun _ => stored,.redirect (.usersProfile row.id) (some "Profile Updated Successfully."))
      | .rejected => (t,.render (.template .edit))
      | .raised e => (t,.error e)

/-- The page also links to the edit form of `current_user.profile`. -/
def «show» (currentUser : Option Int) (id : String) (t : Table Profile) : Response :=
  match t.find? (Ruby.toI id),currentUser with
  | none,_ => .error .recordNotFound
  | some _,none => .error .noMethod
  | some row,some user =>
    match ofUser t user with
    | none => .error .routing
    | some _ => .render (.profile row)

end ProfilesController

def Profile.created (env : Env) (user : Int) (attrs : Attrs) (addr : Option String) (answer : Geocoding) :
    Option Profile :=
  (assign (attrAccessible env) env.strict fresh attrs).toOption.bind fun record =>
    (save answer {record with userId := some user,workLocation := addr}).record?

theorem Profile.created_userId {env : Env} {user : Int} {attrs : Attrs} {addr : Option String} {answer : Geocoding}
    {stored : Profile} (made : created env user attrs addr answer = some stored) : stored.userId = some user := by
  obtain ⟨record,_,saved⟩ := Option.bind_eq_some_iff.mp made
  exact (save_stored (Saved.record?_eq_some.mp saved)).1

def Profile.updated (env : Env) (held : Profile) (attrs : Attrs) (addr dob : Option String) (answer : Geocoding) :
    Option Profile :=
  (assign (attrAccessible env) env.strict {held with workLocation := addr,dob := dob} attrs).toOption.bind
    fun record => (save answer record).record?

theorem Profile.updated_userId {env : Env} {held stored : Profile} {attrs : Attrs} {addr dob : Option String}
    {answer : Geocoding} (ok : updated env held attrs addr dob answer = some stored) :
    stored.userId = ((submitted "user_id" attrs).map castInteger).getD held.userId := by
  unfold updated at ok
  cases assigned : assign (attrAccessible env) env.strict {held with workLocation := addr,dob := dob} attrs with
  | error e => simp [assigned,Except.toOption] at ok
  | ok record =>
    rw [assigned] at ok
    rw [(save_stored (Saved.record?_eq_some.mp ok)).1,assign_field (writes_userId env) assigned]

namespace ProfilesController
open Profile

theorem create_table (env : Env) (currentUser : Int) (attrs : Attrs) (addr : Option String) (answer : Geocoding)
    (t : Table Profile) :
    (∃ stored, created env currentUser attrs addr answer = some stored ∧
      (create env currentUser attrs addr answer t).1 = (destroyTarget currentUser t).insert stored) ∨
    (created env currentUser attrs addr answer = none ∧
      ((create env currentUser attrs addr answer t).1 = t ∨
        (create env currentUser attrs addr answer t).1 = destroyTarget currentUser t)) := by
  unfold create created
  cases assign (attrAccessible env) env.strict fresh attrs with
  | error e => exact .inr ⟨rfl,.inl rfl⟩
  | ok record =>
    simp only [Except.toOption,Option.bind_some]
    cases save answer {record with userId := some currentUser,workLocation := addr} with
    | stored stored => exact .inl ⟨stored,rfl,rfl⟩
    | rejected => exact .inr ⟨rfl,.inr rfl⟩
    | raised e => exact .inr ⟨rfl,.inr rfl⟩

theorem create_effect (env : Env) (currentUser : Int) (attrs : Attrs) (addr : Option String) (answer : Geocoding)
    (t : Table Profile) :
    (create env currentUser attrs addr answer t).1 = t ∨
      (create env currentUser attrs addr answer t).1 = destroyTarget currentUser t ∨
      ∃ stored, (create env currentUser attrs addr answer t).1 = (destroyTarget currentUser t).insert stored ∧
        stored.userId = some currentUser := by
  rcases create_table env currentUser attrs addr answer t with ⟨stored,made,table⟩ | ⟨_,same | gone⟩
  · exact .inr (.inr ⟨stored,table,created_userId made⟩)
  · exact .inl same
  · exact .inr (.inl gone)

theorem update_table (env : Env) (id : String) (attrs : Attrs) (addr dob : Option String) (answer : Geocoding)
    (t : Table Profile) :
    (update env id attrs addr dob answer t).1 =
      t.rewrite (Ruby.toI id) fun row => updated env row.val attrs addr dob answer := by
  unfold update Table.rewrite
  cases t.find? (Ruby.toI id) with
  | none => rfl
  | some row =>
    unfold updated
    cases assigned : assign (attrAccessible env) env.strict {row.val with workLocation := addr,dob := dob} attrs with
    | error e => simp [assigned,Except.toOption]
    | ok record => cases saved : save answer record <;> simp [assigned,saved,Except.toOption,Saved.record?]

end ProfilesController
end HyderabadHomes
