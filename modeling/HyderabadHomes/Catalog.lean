import HyderabadHomes.Http
import HyderabadHomes.Relational.Like

/-! `Property`, `OwnershipType` and `LookingFor`, and the three administrator
controllers that maintain them. -/
namespace HyderabadHomes
open Relational

namespace Named

def attrAccessible : List (Attribute Named) := [column "name" fun v r => {r with name := v}]

def fresh : Named := ⟨none⟩

/-- The query of `validates_uniqueness_of :name, :case_sensitive => false`: the value is cut
to the column's limit, nil is looked up by IS NULL, and a stored record excludes itself. -/
def taken (env : Env) (t : Table Named) (self : Option Int) (name : Option String) : Bool :=
  t.rows.any fun row =>
    self != some row.id && row.val.name.map env.lower == (name.map (Ruby.truncate stringLimit)).map env.lower

def save (env : Env) (t : Table Named) (self : Option Int) (record : Named) : Saved Named :=
  if taken env t self record.name then .rejected
  else if record.fits then .stored record
  else .raised .statementInvalid

def create (env : Env) (path : Int → Path) (attrs : Attrs) (t : Table Named) : Table Named × Response :=
  match assign attrAccessible env.strict fresh attrs with
  | .error e => (t,.error e)
  | .ok record =>
    match save env t none record with
    | .stored stored => (t.insert stored,.redirect (path (t.seq+1)) (some "Property Saved Successfully."))
    | .rejected => (t,.render (.template .new))
    | .raised e => (t,.error e)

def update (env : Env) (path : Int → Path) (id : String) (attrs : Attrs) (t : Table Named) : Table Named × Response :=
  match t.find? (Ruby.toI id) with
  | none => (t,.error .recordNotFound)
  | some row =>
    match assign attrAccessible env.strict row.val attrs with
    | .error e => (t,.error e)
    | .ok record =>
      match save env t (some row.id) record with
      | .stored stored =>
        (t.update row.id fun _ => stored,.redirect (path row.id) (some "Property Updated Successfully."))
      | .rejected => (t,.render (.template .edit))
      | .raised e => (t,.error e)

def destroy (index : Path) (id : String) (t : Table Named) : Table Named × Response :=
  match t.find? (Ruby.toI id) with
  | none => (t,.error .recordNotFound)
  | some row => (t.delete row.id,.redirect index none)

def searchProperties (env : Env) (query : String) (t : Table Named) : List (Row Named) :=
  t.rows.filter fun row =>
    row.val.name.any fun name =>
      like ('%' :: (query.toList.map Char.toLower ++ ['%'])) (env.lower name).toList

/-- Newest first, of which the page shows what `paginate` asks for. -/
def index (env : Env) (search : Option String) (offset limit : Nat) (t : Table Named) : Response :=
  let found :=
    match search with
    | some query => searchProperties env query t
    | none => t.rows
  .render (.catalog ((found.reverse.drop offset).take limit))

def accepted (env : Env) (t : Table Named) (self : Option Int) (held : Named) (attrs : Attrs) : Option Named :=
  match assign attrAccessible env.strict held attrs with
  | .error _ => none
  | .ok record => if taken env t self record.name || !record.fits then none else some record

theorem create_table (env : Env) (path : Int → Path) (attrs : Attrs) (t : Table Named) :
    (create env path attrs t).1 = ((accepted env t none fresh attrs).map t.insert).getD t := by
  unfold create accepted save
  cases assign attrAccessible env.strict fresh attrs with
  | error e => rfl
  | ok record =>
    by_cases free : taken env t none record.name = true
    · simp [free]
    · by_cases fit : record.fits = true <;> simp [free,fit]

theorem update_table (env : Env) (path : Int → Path) (id : String) (attrs : Attrs) (t : Table Named) :
    (update env path id attrs t).1 =
      t.rewrite (Ruby.toI id) fun row => accepted env t (some row.id) row.val attrs := by
  unfold update Table.rewrite
  cases t.find? (Ruby.toI id) with
  | none => rfl
  | some row =>
    unfold accepted save
    cases assigned : assign attrAccessible env.strict row.val attrs with
    | error e => simp [assigned]
    | ok record =>
      by_cases free : taken env t (some row.id) record.name = true
      · simp [assigned,free]
      · by_cases fit : record.fits = true <;> simp [assigned,free,fit]

theorem destroy_table (index : Path) (id : String) (t : Table Named) :
    (destroy index id t).1 = t.delete (Ruby.toI id) := by
  unfold destroy
  cases found : t.find? (Ruby.toI id) with
  | none => exact (Table.delete_missing found).symm
  | some row => simp only [(Table.find?_eq_some.mp found).2]

end Named

structure CatalogController where
  model : Catalog
  found : Catalog
deriving DecidableEq,Repr

def propertiesController : CatalogController := ⟨.properties,.properties⟩

/-- `update` and `destroy` call `Property.find`. -/
def ownershipTypesController : CatalogController := ⟨.ownershipTypes,.properties⟩

def lookingForsController : CatalogController := ⟨.lookingFors,.lookingFors⟩

def Catalog.controller : Catalog → CatalogController
  | .properties => propertiesController
  | .ownershipTypes => ownershipTypesController
  | .lookingFors => lookingForsController

inductive CatalogRequest
  | index (search : Option String) (offset limit : Nat)
  | new
  | create (attrs : Attrs)
  | show (id : String)
  | edit (id : String)
  | update (id : String) (attrs : Attrs)
  | destroy (id : String)
deriving DecidableEq,Repr

def Db.within (db : Db) (c : Catalog) (act : Table Named → Table Named × Response) : Db × Response :=
  (db.setCatalog c (act (db.catalog c)).1,(act (db.catalog c)).2)

namespace CatalogController

/-- No action of these controllers is behind a filter, and none reads the session. -/
def handle (k : CatalogController) (env : Env) (db : Db) : CatalogRequest → Db × Response
  | .index search offset limit => (db,Named.index env search offset limit (db.catalog k.model))
  | .new => (db,.render (.template .new))
  | .create attrs => db.within k.model (Named.create env (.administratorsCatalogRow k.model) attrs)
  | .show id =>
    match (db.catalog k.model).find? (Ruby.toI id) with
    | none => (db,.error .recordNotFound)
    | some row => (db,.render (.catalog [row]))
  | .edit id =>
    match (db.catalog k.model).find? (Ruby.toI id) with
    | none => (db,.error .recordNotFound)
    | some _ => (db,.render (.template .edit))
  | .update id attrs => db.within k.found (Named.update env (.administratorsCatalogRow k.found) id attrs)
  | .destroy id => db.within k.found (Named.destroy (.administratorsCatalog k.model) id)

def target (k : CatalogController) : CatalogRequest → Catalog
  | .update _ _ => k.found
  | .destroy _ => k.found
  | _ => k.model

end CatalogController

def CatalogRequest.apply (env : Env) (t : Table Named) : CatalogRequest → Table Named
  | .create attrs => ((Named.accepted env t none Named.fresh attrs).map t.insert).getD t
  | .update id attrs => t.rewrite (Ruby.toI id) fun row => Named.accepted env t (some row.id) row.val attrs
  | .destroy id => t.delete (Ruby.toI id)
  | _ => t

namespace CatalogController

@[simp] theorem setCatalog_self (db : Db) (c : Catalog) : db.setCatalog c (db.catalog c) = db := by
  cases c <;> rfl

theorem handle_db (k : CatalogController) (env : Env) (db : Db) (request : CatalogRequest) :
    (k.handle env db request).1 =
      db.setCatalog (k.target request) (request.apply env (db.catalog (k.target request))) := by
  cases request with
  | index search offset limit => exact (setCatalog_self db k.model).symm
  | new => exact (setCatalog_self db k.model).symm
  | create attrs => simp only [handle,Db.within,target,CatalogRequest.apply,Named.create_table]
  | «show» id =>
    simp only [handle,target,CatalogRequest.apply,setCatalog_self]
    cases (db.catalog k.model).find? (Ruby.toI id) <;> rfl
  | edit id =>
    simp only [handle,target,CatalogRequest.apply,setCatalog_self]
    cases (db.catalog k.model).find? (Ruby.toI id) <;> rfl
  | update id attrs => simp only [handle,Db.within,target,CatalogRequest.apply,Named.update_table]
  | destroy id => simp only [handle,Db.within,target,CatalogRequest.apply,Named.destroy_table]

end CatalogController

namespace CatalogRequest

def takesEffect (env : Env) (t : Table Named) : CatalogRequest → Bool
  | .create attrs => (Named.accepted env t none Named.fresh attrs).isSome
  | .update id attrs =>
    (t.find? (Ruby.toI id)).any fun row =>
      (Named.accepted env t (some row.id) row.val attrs).any fun record => record != row.val
  | .destroy id => (t.find? (Ruby.toI id)).isSome
  | _ => false

theorem apply_rows_eq_iff (env : Env) (t : Table Named) (request : CatalogRequest) :
    (request.apply env t).rows = t.rows ↔ request.takesEffect env t = false := by
  cases request with
  | create attrs =>
    simp only [apply,takesEffect]
    cases Named.accepted env t none Named.fresh attrs with
    | none => simp
    | some record => simp
  | update id attrs =>
    simp only [apply,takesEffect,Table.rewrite_rows_eq_iff]
    cases t.find? (Ruby.toI id) with
    | none => simp
    | some row =>
      simp only [Option.any_some]
      constructor
      · intro idle
        cases saved : Named.accepted env t (some row.id) row.val attrs with
        | none => rfl
        | some record => simp [idle row record rfl saved]
      · intro idle other record same saved
        cases same
        simpa [saved] using idle
  | destroy id =>
    simp only [apply,takesEffect,Table.delete_rows_eq_iff]
    cases t.find? (Ruby.toI id) <;> simp
  | _ => simp [apply,takesEffect]

end CatalogRequest
end HyderabadHomes
