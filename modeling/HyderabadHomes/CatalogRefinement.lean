import HyderabadHomes.Catalog
import HyderabadHomes.Relational.Store
import HyderabadHomes.Transition.Run
import Mathlib.Logic.Function.Basic

/-! The catalog controllers against three stores, each driven by the requests of its
own controller alone. -/
namespace HyderabadHomes
open Relational Transition

section Stores
open Classical

def Taken (env : Env) (s : Store Named) (self : Option Int) (name : Option String) : Prop :=
  ∃ id held, s.cell id = some held ∧ self ≠ some id ∧
    held.name.map env.lower = (name.map (Ruby.truncate stringLimit)).map env.lower

noncomputable def admitted (env : Env) (s : Store Named) (self : Option Int) (held : Named) (attrs : Attrs) :
    Option Named :=
  match assign Named.attrAccessible env.strict held attrs with
  | .error _ => none
  | .ok record => if Taken env s self record.name ∨ record.fits = false then none else some record

noncomputable def CatalogRequest.applyToStore (env : Env) (s : Store Named) : CatalogRequest → Store Named
  | .create attrs =>
    match admitted env s none Named.fresh attrs with
    | none => s
    | some record => s.add record
  | .update id attrs =>
    match s.cell (Ruby.toI id) with
    | none => s
    | some held =>
      match admitted env s (some (Ruby.toI id)) held attrs with
      | none => s
      | some record => s.set (Ruby.toI id) record
  | .destroy id => s.remove (Ruby.toI id)
  | _ => s

theorem taken_iff (env : Env) (t : Table Named) (self : Option Int) (name : Option String) :
    Named.taken env t self name = true ↔ Taken env t.store self name := by
  simp only [Named.taken,List.any_eq_true,Bool.and_eq_true,bne_iff_ne,beq_iff_eq,Taken,Table.store_cell]
  constructor
  · intro used
    obtain ⟨row,member,other,same⟩ := used
    exact ⟨row.id,row.val,member,other,same⟩
  · intro used
    obtain ⟨id,held,member,other,same⟩ := used
    exact ⟨⟨id,held⟩,member,other,same⟩

theorem accepted_eq_admitted (env : Env) (t : Table Named) (self : Option Int) (held : Named) (attrs : Attrs) :
    Named.accepted env t self held attrs = admitted env t.store self held attrs := by
  unfold Named.accepted admitted
  cases assign Named.attrAccessible env.strict held attrs with
  | error e => rfl
  | ok record =>
    by_cases used : Taken env t.store self record.name
    · simp [used,(taken_iff env t self record.name).mpr used]
    · have free := mt (taken_iff env t self record.name).mp used
      cases fit : record.fits <;> simp [used,free,fit]

theorem store_apply (env : Env) (t : Table Named) (request : CatalogRequest) :
    (request.apply env t).store = request.applyToStore env t.store := by
  cases request with
  | create attrs =>
    simp only [CatalogRequest.apply,CatalogRequest.applyToStore,accepted_eq_admitted]
    cases admitted env t.store none Named.fresh attrs with
    | none => rfl
    | some record => exact Table.store_insert t record
  | update id attrs =>
    simp only [CatalogRequest.apply,CatalogRequest.applyToStore,Table.rewrite,accepted_eq_admitted]
    cases found : t.find? (Ruby.toI id) with
    | none => simp only [Table.store_cell_none.mpr found]
    | some row =>
      have hit := (Table.find?_eq_some.mp found).2
      have held : t.store.cell (Ruby.toI id) = some row.val := by simp [Table.store,found]
      simp only [held,hit]
      cases admitted env t.store (some (Ruby.toI id)) row.val attrs with
      | none => rfl
      | some record => exact Table.store_update found record
  | destroy id => exact Table.store_delete t (Ruby.toI id)
  | _ => rfl

theorem store_apply_eq_iff (env : Env) (t : Table Named) (request : CatalogRequest) :
    (request.apply env t).store = t.store ↔ request.takesEffect env t = false := by
  rw [← request.apply_rows_eq_iff env t]
  cases request with
  | create attrs =>
    simp only [CatalogRequest.apply]
    cases Named.accepted env t none Named.fresh attrs with
    | none => exact ⟨fun _ => rfl,fun _ => rfl⟩
    | some record =>
      exact ⟨fun same => absurd same (Table.insert_store_ne t record),fun same => absurd same (Table.insert_rows_ne t record)⟩
  | update id attrs => rw [CatalogRequest.apply,Table.rewrite_store_eq_iff,Table.rewrite_rows_eq_iff]
  | destroy id => rw [CatalogRequest.apply,Table.delete_store_eq_iff,Table.delete_rows_eq_iff]
  | _ => exact ⟨fun _ => rfl,fun _ => rfl⟩

end Stores

abbrev Stores := Catalog → Store Named

def Db.stores (db : Db) : Stores := fun c => (db.catalog c).store

abbrev CatalogAct := Catalog × CatalogRequest

def catalogStep (env : Env) (db : Db) (act : CatalogAct) : Db := (act.1.controller.handle env db act.2).1

noncomputable def storesStep (env : Env) (stores : Stores) (act : CatalogAct) : Stores :=
  Function.update stores act.1 (act.2.applyToStore env (stores act.1))

/-- A request that its controller carries to another table changes neither. -/
def KeepsToOwn (env : Env) (db : Db) (act : CatalogAct) : Prop :=
  act.1.controller.target act.2 ≠ act.1 →
    act.2.takesEffect env (db.catalog (act.1.controller.target act.2)) = false ∧
      act.2.takesEffect env (db.catalog act.1) = false

theorem stores_setCatalog (db : Db) (c : Catalog) (t : Table Named) :
    (db.setCatalog c t).stores = Function.update db.stores c t.store := by
  funext d
  unfold Db.stores
  rw [Db.catalog_setCatalog,Function.update_apply]
  split <;> rfl

theorem stores_catalogStep (env : Env) (db : Db) (act : CatalogAct) :
    (catalogStep env db act).stores =
      Function.update db.stores (act.1.controller.target act.2)
        (act.2.apply env (db.catalog (act.1.controller.target act.2))).store := by
  rw [catalogStep,CatalogController.handle_db,stores_setCatalog]

theorem stores_step_iff (env : Env) (db : Db) (act : CatalogAct) :
    (catalogStep env db act).stores = storesStep env db.stores act ↔ KeepsToOwn env db act := by
  rw [stores_catalogStep]
  unfold storesStep KeepsToOwn
  by_cases own : act.1.controller.target act.2 = act.1
  · rw [own,store_apply]
    exact ⟨fun _ other => absurd rfl other,fun _ => rfl⟩
  · rw [← store_apply_eq_iff,← store_apply_eq_iff]
    constructor
    · intro same _
      constructor
      · have here := congrFun same (act.1.controller.target act.2)
        rw [Function.update_self,Function.update_of_ne own] at here
        exact here
      · have here := congrFun same act.1
        rw [Function.update_of_ne (Ne.symm own),Function.update_self] at here
        rw [store_apply]
        exact here.symm
    · intro idle
      obtain ⟨reached,addressed⟩ := idle own
      have stays : act.2.applyToStore env (db.stores act.1) = db.stores act.1 := (store_apply env _ _).symm.trans addressed
      have kept : (act.2.apply env (db.catalog (act.1.controller.target act.2))).store =
          db.stores (act.1.controller.target act.2) := reached
      rw [kept,stays,Function.update_eq_self,Function.update_eq_self]

theorem storesStep_comm (env : Env) (stores : Stores) {a b : CatalogAct} (different : a.1 ≠ b.1) :
    storesStep env (storesStep env stores a) b = storesStep env (storesStep env stores b) a := by
  unfold storesStep
  rw [Function.update_of_ne (Ne.symm different),Function.update_of_ne different]
  exact Function.update_comm different _ _ _

theorem stores_run (env : Env) (db : Db) (acts : List CatalogAct)
    (keeps : Along (catalogStep env) (KeepsToOwn env) db acts) :
    (run (catalogStep env) db acts).stores = run (storesStep env) db.stores acts := by
  have tracks := simulation (catalogStep env) (storesStep env) Db.stores
    (fun db act => (stores_step_iff env db act).mpr) keeps acts.length
  rwa [List.take_length] at tracks

/-- The tables track the stores at every point of a run exactly when no request of the
run changes a table its controller does not own, or should have changed its own; the
requests of two controllers then commute. -/
theorem catalogs_refine_stores_iff (env : Env) (db : Db) (acts : List CatalogAct) :
    ((∀ n, (run (catalogStep env) db (acts.take n)).stores = run (storesStep env) db.stores (acts.take n)) ↔
      Along (catalogStep env) (KeepsToOwn env) db acts) ∧
    ∀ a b : CatalogAct, a.1 ≠ b.1 → Along (catalogStep env) (KeepsToOwn env) db [a,b] →
      Along (catalogStep env) (KeepsToOwn env) db [b,a] →
        (run (catalogStep env) db [a,b]).stores = (run (catalogStep env) db [b,a]).stores := by
  constructor
  · exact simulation_iff (catalogStep env) (storesStep env) Db.stores (stores_step_iff env) db acts
  · intro a b different first second
    rw [stores_run env db [a,b] first,stores_run env db [b,a] second]
    exact storesStep_comm env db.stores different

theorem ownership_type_destroy_hits_property :
    ¬ ∀ n, (run (catalogStep .production)
          {Db.empty with properties := Table.empty.insert ⟨some "Flat"⟩,ownershipTypes := Table.empty.insert ⟨some "Owned"⟩}
          ([(Catalog.ownershipTypes,CatalogRequest.destroy "1")].take n)).stores =
        run (storesStep .production)
          (Db.stores {Db.empty with
            properties := Table.empty.insert ⟨some "Flat"⟩,ownershipTypes := Table.empty.insert ⟨some "Owned"⟩})
          ([(Catalog.ownershipTypes,CatalogRequest.destroy "1")].take n) := by
  intro tracks
  have cell : (none : Option Named) = some ⟨some "Flat"⟩ :=
    congrFun (congrArg Store.cell (congrFun (tracks 1) Catalog.properties)) 1
  cases cell

end HyderabadHomes
