import HyderabadHomes.Relational.Table

/-! The tables of db/schema.rb. Timestamps and the columns that only Devise reads
are left out; every other column is kept with its SQL nullability. -/
namespace HyderabadHomes
open Relational

/-- A `float` column, kept as its bit pattern: nothing here computes with it. -/
structure Double where
  bits : BitVec 64
deriving DecidableEq,Repr

structure User where
  email : String
deriving DecidableEq,Repr

structure Administrator where
  email : String
  status : Option String
  role : Option String
  firstName : Option String
  middleName : Option String
  lastName : Option String
  mobileNumber : Option String
deriving DecidableEq,Repr

structure Profile where
  firstName : Option String
  lastName : Option String
  dob : Option String
  gender : Option String
  mobileNumber : Option String
  alternateNumber : Option String
  workLocation : Option String
  employer : Option String
  userId : Option Int
  latitude : Option Double
  longitude : Option Double
deriving DecidableEq,Repr

structure Named where
  name : Option String
deriving DecidableEq,Repr

structure UserContact where
  name : Option String
  email : Option String
  userId : Option Int
deriving DecidableEq,Repr

structure UserLookingForProperty where
  userId : Option Int
  location : Option String
  propertyId : Option Int
  lookingForId : Option Int
  latitude : Option Double
  longitude : Option Double
  price : Option Double
deriving DecidableEq,Repr

structure UserProperty where
  userId : Option Int
  location : Option String
  propertyId : Option Int
  isCurrentLocation : Option Bool
  ownershipTypeId : Option Int
  latitude : Option Double
  longitude : Option Double
deriving DecidableEq,Repr

structure Db where
  users : Table User
  administrators : Table Administrator
  profiles : Table Profile
  properties : Table Named
  ownershipTypes : Table Named
  lookingFors : Table Named
  userContacts : Table UserContact
  userLookingForProperties : Table UserLookingForProperty
  userProperties : Table UserProperty
deriving DecidableEq

def Db.empty : Db :=
  ⟨.empty,.empty,.empty,.empty,.empty,.empty,.empty,.empty,.empty⟩

/-- The limit of a `string` column without an explicit one. -/
def stringLimit : Nat := 255

def fitsString (limit : Nat) (value : Option String) : Bool := value.all (fun s => s.length ≤ limit)

theorem fitsString_iff {limit : Nat} {value : Option String} :
    fitsString limit value = true ↔ (value.getD "").length ≤ limit := by
  cases value <;> simp [fitsString]

def fitsInteger (value : Option Int) : Bool := value.all (fun n => -2147483648 ≤ n && n ≤ 2147483647)

def Profile.fits (r : Profile) : Bool :=
  [r.firstName,r.lastName,r.dob,r.gender,r.mobileNumber,r.alternateNumber,r.workLocation,r.employer].all
    (fitsString stringLimit) && fitsInteger r.userId

def Named.fits (r : Named) : Bool := fitsString stringLimit r.name

def UserContact.fits (r : UserContact) : Bool :=
  fitsString stringLimit r.name && fitsString stringLimit r.email && fitsInteger r.userId

def UserLookingForProperty.fits (r : UserLookingForProperty) : Bool :=
  fitsString stringLimit r.location && [r.userId,r.propertyId,r.lookingForId].all fitsInteger

def UserProperty.fits (r : UserProperty) : Bool :=
  fitsString stringLimit r.location && [r.userId,r.propertyId,r.ownershipTypeId].all fitsInteger

/-- `status`, `role` and `mobile_number` are NOT NULL; the first two have defaults. -/
def Administrator.fits (r : Administrator) : Bool :=
  r.email.length ≤ stringLimit && r.status.any (fun s => s.length ≤ 10) && r.role.any (fun s => s.length ≤ 20) &&
    [r.firstName,r.middleName,r.lastName].all (fitsString 25) && r.mobileNumber.any (fun s => s.length ≤ 15)

inductive Catalog
  | properties
  | ownershipTypes
  | lookingFors
deriving DecidableEq,Repr

def Db.catalog (db : Db) : Catalog → Table Named
  | .properties => db.properties
  | .ownershipTypes => db.ownershipTypes
  | .lookingFors => db.lookingFors

def Db.setCatalog (db : Db) (c : Catalog) (t : Table Named) : Db :=
  match c with
  | .properties => {db with properties := t}
  | .ownershipTypes => {db with ownershipTypes := t}
  | .lookingFors => {db with lookingFors := t}

@[simp] theorem Db.catalog_setCatalog (db : Db) (c d : Catalog) (t : Table Named) :
    (db.setCatalog c t).catalog d = if d = c then t else db.catalog d := by
  cases c <;> cases d <;> rfl

end HyderabadHomes
