import HyderabadHomes.Catalog
import HyderabadHomes.Relational.Race

/-! Catalog requests served side by side. Between the uniqueness query of a save and its
INSERT or UPDATE the other requests go on, and the schema has no unique index. -/
namespace HyderabadHomes
open Relational Transition

inductive SaveRequest
  | create (c : Catalog) (attrs : Attrs)
  | update (c : Catalog) (id : String) (attrs : Attrs)
deriving DecidableEq,Repr

def SaveRequest.handle (env : Env) (db : Db) : SaveRequest → Db × Response
  | .create c attrs => c.controller.handle env db (.create attrs)
  | .update c id attrs => c.controller.handle env db (.update id attrs)

/-- A request between two of its database steps. `self` is the row an update loaded. -/
inductive Saving
  | arrived (request : SaveRequest)
  | validating (target : Catalog) (self : Option (Row Named)) (record : Named)
  | writing (target : Catalog) (self : Option (Row Named)) (record : Named)
  | finished (response : Response)
deriving DecidableEq,Repr

namespace Saving

/-- The statement that comes next, where it writes: an UPDATE names the changed columns,
and there is none when no column changed. -/
def write : Saving → Option (Catalog × Write Named)
  | .writing target none record => if record.fits then some (target,.insert record) else none
  | .writing target (some row) record =>
    if record.fits && record != row.val then some (target,.update row.id fun _ => record) else none
  | _ => none

def step (env : Env) (db : Db) : Saving → Db × Saving
  | .arrived (.create c attrs) =>
    match assign Named.attrAccessible env.strict Named.fresh attrs with
    | .error e => (db,.finished (.error e))
    | .ok record => (db,.validating c.controller.model none record)
  | .arrived (.update c id attrs) =>
    match (db.catalog c.controller.found).find? (Ruby.toI id) with
    | none => (db,.finished (.error .recordNotFound))
    | some row =>
      match assign Named.attrAccessible env.strict row.val attrs with
      | .error e => (db,.finished (.error e))
      | .ok record => (db,.validating c.controller.found (some row) record)
  | .validating target self record =>
    if Named.taken env (db.catalog target) (self.map Row.id) record.name then
      (db,.finished (.render (.template (if self.isNone then .new else .edit))))
    else (db,.writing target self record)
  | .writing target none record =>
    if record.fits then
      (db.setCatalog target ((db.catalog target).insert record),
        .finished (.redirect (.administratorsCatalogRow target ((db.catalog target).seq+1))
          (some "Property Saved Successfully.")))
    else (db,.finished (.error .statementInvalid))
  | .writing target (some row) record =>
    if record.fits then
      (if record = row.val then db else db.setCatalog target ((db.catalog target).update row.id fun _ => record),
        .finished (.redirect (.administratorsCatalogRow target row.id) (some "Property Updated Successfully.")))
    else (db,.finished (.error .statementInvalid))
  | .finished response => (db,.finished response)

theorem write_cases {l : Saving} {target : Catalog} {w : Write Named} (writes : l.write = some (target,w)) :
    ∃ self record, l = .writing target self record ∧ record.fits = true ∧
      ((self = none ∧ w = .insert record) ∨ ∃ row, self = some row ∧ w = .update row.id fun _ => record) := by
  unfold write at writes
  split at writes
  · rename_i record
    split at writes
    · rename_i fit
      cases writes
      exact ⟨none,record,rfl,fit,.inl ⟨rfl,rfl⟩⟩
    · cases writes
  · rename_i row record
    split at writes
    · rename_i fit
      cases writes
      exact ⟨some row,record,rfl,by simp at fit; exact fit.1,.inr ⟨row,rfl,rfl⟩⟩
    · cases writes
  · cases writes

theorem step_db (env : Env) (db : Db) (l : Saving) :
    (step env db l).1 =
      match l.write with
      | none => db
      | some (target,w) => db.setCatalog target (w.apply (db.catalog target)) := by
  cases l with
  | arrived request =>
    cases request with
    | create c attrs =>
      simp only [step,write]
      cases assign Named.attrAccessible env.strict Named.fresh attrs <;> rfl
    | update c id attrs =>
      simp only [step,write]
      cases (db.catalog c.controller.found).find? (Ruby.toI id) with
      | none => rfl
      | some row =>
        simp only
        cases assign Named.attrAccessible env.strict row.val attrs <;> rfl
  | validating target self record =>
    simp only [step,write]
    split <;> rfl
  | writing target self record =>
    cases self with
    | none => by_cases fit : record.fits = true <;> simp [step,write,fit,Write.apply]
    | some row =>
      by_cases fit : record.fits = true
      · by_cases same : record = row.val
        · simp only [step,write,if_pos fit,if_pos same]
          simp [same]
        · simp [step,write,fit,same,Write.apply]
      · simp [step,write,fit]
  | finished response => rfl

theorem alone_finished (env : Env) (db : Db) (response : Response) (n : Nat) :
    Pool.alone (step env) n (db,.finished response) = (db,.finished response) := Pool.alone_of_fixed (by rfl) n

theorem alone_insert (env : Env) (db : Db) (target : Catalog) (record : Named) :
    Pool.alone (step env) 2 (db,.validating target none record) =
      match Named.save env (db.catalog target) none record with
      | .stored stored =>
        (db.setCatalog target ((db.catalog target).insert stored),
          .finished (.redirect (.administratorsCatalogRow target ((db.catalog target).seq+1))
            (some "Property Saved Successfully.")))
      | .rejected => (db,.finished (.render (.template .new)))
      | .raised e => (db,.finished (.error e)) := by
  unfold Named.save
  by_cases free : Named.taken env (db.catalog target) none record.name = true
  · simp [Pool.alone,step,free]
  · by_cases fit : record.fits = true <;> simp [Pool.alone,step,free,fit]

theorem alone_update (env : Env) (db : Db) (target : Catalog) {row : Row Named} (record : Named)
    (found : (db.catalog target).find? row.id = some row) :
    Pool.alone (step env) 2 (db,.validating target (some row) record) =
      match Named.save env (db.catalog target) (some row.id) record with
      | .stored stored =>
        (db.setCatalog target ((db.catalog target).update row.id fun _ => stored),
          .finished (.redirect (.administratorsCatalogRow target row.id) (some "Property Updated Successfully.")))
      | .rejected => (db,.finished (.render (.template .edit)))
      | .raised e => (db,.finished (.error e)) := by
  unfold Named.save
  by_cases free : Named.taken env (db.catalog target) (some row.id) record.name = true
  · simp [Pool.alone,step,free]
  · by_cases fit : record.fits = true
    · by_cases same : record = row.val
      · have idle := Table.update_self found (fun _ => record) same
        have kept : db.setCatalog target ((db.catalog target).update row.id fun _ => record) = db := by
          rw [idle,CatalogController.setCatalog_self]
        simp only [Pool.alone,step,Option.map_some,if_neg free,if_pos fit,if_pos same,kept]
      · simp [Pool.alone,step,free,fit,same]
    · simp [Pool.alone,step,free,fit]

/-- Served alone, a request does what its action does. -/
theorem alone_eq_handle (env : Env) (db : Db) (request : SaveRequest) :
    Pool.alone (step env) 3 (db,.arrived request) =
      ((request.handle env db).1,.finished (request.handle env db).2) := by
  cases request with
  | create c attrs =>
    simp only [SaveRequest.handle,CatalogController.handle,Db.within,Named.create]
    cases assigned : assign Named.attrAccessible env.strict Named.fresh attrs with
    | error e =>
      have first : step env db (.arrived (.create c attrs)) = (db,.finished (.error e)) := by
        simp only [step,assigned]
      rw [Pool.alone,first,alone_finished]
      simp
    | ok record =>
      have first : step env db (.arrived (.create c attrs)) = (db,.validating c.controller.model none record) := by
        simp only [step,assigned]
      rw [Pool.alone,first,alone_insert]
      cases saved : Named.save env (db.catalog c.controller.model) none record <;> simp [saved]
  | update c id attrs =>
    simp only [SaveRequest.handle,CatalogController.handle,Db.within,Named.update]
    cases found : (db.catalog c.controller.found).find? (Ruby.toI id) with
    | none =>
      have first : step env db (.arrived (.update c id attrs)) = (db,.finished (.error .recordNotFound)) := by
        simp only [step,found]
      rw [Pool.alone,first,alone_finished]
      simp
    | some row =>
      cases assigned : assign Named.attrAccessible env.strict row.val attrs with
      | error e =>
        have first : step env db (.arrived (.update c id attrs)) = (db,.finished (.error e)) := by
          simp only [step,found,assigned]
        rw [Pool.alone,first,alone_finished]
        simp [assigned]
      | ok record =>
        have first : step env db (.arrived (.update c id attrs)) =
            (db,.validating c.controller.found (some row) record) := by
          simp only [step,found,assigned]
        have here : (db.catalog c.controller.found).find? row.id = some row := by
          rw [(Table.find?_eq_some.mp found).2]
          exact found
        rw [Pool.alone,first,alone_update env db _ record here]
        simp only [assigned]
        cases Named.save env (db.catalog c.controller.found) (some row.id) record <;> simp

end Saving

def Named.SameName (env : Env) (r s : Named) : Prop := r.name.map env.lower = s.name.map env.lower

instance (env : Env) (r s : Named) : Decidable (r.SameName env s) := inferInstanceAs (Decidable (_ = _))

instance (env : Env) : Std.Symm (Named.SameName env) := ⟨fun _ _ same => same.symm⟩

/-- For a name within the column's limit the query of the validation finds exactly the clashes. -/
theorem Named.taken_eq_false {env : Env} {t : Table Named} {self : Option Int} {record : Named}
    (fit : record.fits = true) : taken env t self record.name = false ↔ t.Free (SameName env) self record := by
  have whole : record.name.map (Ruby.truncate stringLimit) = record.name := by
    obtain ⟨name⟩ := record
    cases name with
    | none => rfl
    | some s =>
      have short : s.length ≤ stringLimit := by simpa [fits,fitsString] using fit
      simp [Ruby.truncate_of_length_le short]
  unfold taken Table.Free SameName
  rw [whole]
  simp

abbrev race (env : Env) : Pool Db Saving → Schedule SaveRequest → Pool Db Saving :=
  Pool.step Saving.arrived (Saving.step env)

abbrev UniqueNames (env : Env) : Db → Prop := AllUnique (Named.SameName env) Db.catalog

theorem Saving.singleWrites (env : Env) : SingleWrites (step env) Db.catalog write := by
  intro db l c
  rw [step_db]
  cases l.write with
  | none => rfl
  | some p =>
    simp only [Db.catalog_setCatalog]
    split
    · rename_i here
      rw [here]
    · rfl

def Saving.Overlaps (env : Env) : Saving → Saving → Prop
  | .writing target self record,.writing target' self' record' =>
    target = target' ∧ record.SameName env record' ∧ (self = none ∨ self.map Row.id ≠ self'.map Row.id)
  | _,_ => False

instance (env : Env) : ∀ l m : Saving, Decidable (l.Overlaps env m)
  | .writing .. ,.writing .. => inferInstanceAs (Decidable (_ ∧ _ ∧ (_ ∨ _)))
  | .writing .. ,.arrived _ | .writing .. ,.validating .. | .writing .. ,.finished _
  | .arrived _,_ | .validating .. ,_ | .finished _,_ => inferInstanceAs (Decidable False)

def NoOverlap (env : Env) (c : Pool Db Saving) : Schedule SaveRequest → Prop
  | .start _ => True
  | .advance i => ∀ l ∈ c.threads[i]?, ∀ m ∈ c.threads.eraseIdx i, ¬ l.Overlaps env m

instance (env : Env) (c : Pool Db Saving) : DecidablePred (NoOverlap env c)
  | .start _ => inferInstanceAs (Decidable True)
  | .advance i => inferInstanceAs (Decidable (∀ l ∈ c.threads[i]?, ∀ m ∈ c.threads.eraseIdx i, ¬ l.Overlaps env m))

namespace Saving

def Assertion (env : Env) : Saving → Db → Prop
  | .writing target self record,db =>
    record.fits = true → (db.catalog target).Free (Named.SameName env) (self.map Row.id) record
  | _,_ => True

theorem assertion_step (env : Env) (db : Db) (l : Saving) : Assertion env (step env db l).2 (step env db l).1 := by
  cases l with
  | arrived request =>
    cases request with
    | create c attrs =>
      simp only [step]
      cases assign Named.attrAccessible env.strict Named.fresh attrs <;> trivial
    | update c id attrs =>
      simp only [step]
      cases (db.catalog c.controller.found).find? (Ruby.toI id) with
      | none => trivial
      | some row =>
        simp only
        cases assign Named.attrAccessible env.strict row.val attrs <;> trivial
  | validating target self record =>
    simp only [step]
    split
    · trivial
    · rename_i free
      intro fit
      exact (Named.taken_eq_false fit).mp (by simpa using free)
  | writing target self record =>
    cases self with
    | none =>
      simp only [step]
      split <;> trivial
    | some row =>
      simp only [step]
      split <;> trivial
  | finished response => trivial

theorem harmless_of_assertion {env : Env} {db : Db} {l : Saving} (holds : Assertion env l db) :
    ∀ p ∈ l.write, p.2.Harmless (Named.SameName env) (db.catalog p.1) := by
  intro p writes
  obtain ⟨target,w⟩ := p
  obtain ⟨self,record,rfl,fit,⟨rfl,rfl⟩ | ⟨row,rfl,rfl⟩⟩ := write_cases writes
  · exact holds fit
  · exact fun _ _ => holds fit

theorem assertion_undisturbed {env : Env} {db : Db} {l m : Saving} (holds : Assertion env m db)
    (apart : ¬ l.Overlaps env m) : Assertion env m (step env db l).1 := by
  rw [step_db]
  cases written : l.write with
  | none => exact holds
  | some pair =>
    obtain ⟨target,w⟩ := pair
    cases m with
    | writing target' self' record' =>
      intro fit
      have free := holds fit
      change ((db.setCatalog target (w.apply (db.catalog target))).catalog target').Free _ _ _
      rw [Db.catalog_setCatalog]
      split
      · rename_i here
        subst here
        apply Write.free_apply free
        obtain ⟨self,record,rfl,_,⟨rfl,rfl⟩ | ⟨row,rfl,rfl⟩⟩ := write_cases written
        · intro same
          exact apart ⟨rfl,same,.inl rfl⟩
        · by_cases same : record.SameName env record'
          · left
            by_contra other
            exact apart ⟨rfl,same,.inr fun ids => other ids.symm⟩
          · exact .inr fun _ _ => same
      · exact free
    | _ => trivial

end Saving

/-- Over any interleaving: names stay unique exactly as long as each write still finds its
name free, which is so where no write overlaps with a request that has queried an equal name. -/
theorem race_names_unique_iff (env : Env) {db : Db} (start : UniqueNames env db) (acts : List (Schedule SaveRequest)) :
    (Throughout (race env) (fun c => UniqueNames env c.shared) ⟨db,[]⟩ acts ↔
      Along (race env) (StillFree (Named.SameName env) Db.catalog Saving.write) ⟨db,[]⟩ acts) ∧
    (Along (race env) (NoOverlap env) ⟨db,[]⟩ acts →
      Throughout (race env) (fun c => UniqueNames env c.shared) ⟨db,[]⟩ acts) := by
  have single := Saving.singleWrites env
  constructor
  · exact run_unique_iff single start acts
  · refine run_unique_of_assertions single (Saving.Assertion env) ?_ ?_ ?_ ?_ start
    · intro request db
      trivial
    · intro db l _ _
      exact Saving.assertion_step env db l
    · intro c i l _ _ _ holds
      exact Saving.harmless_of_assertion holds
    · intro c i l m apart found others _ theirs
      exact Saving.assertion_undisturbed theirs (apart l found m others)

def creates (first second : String) : List (Schedule SaveRequest) :=
  [.start (.create .properties [("name",some first)]),.start (.create .properties [("name",some second)]),
    .advance 0,.advance 1,.advance 0,.advance 1,.advance 0,.advance 1]

theorem race_of_different_names :
    Throughout (race .production) (fun c => UniqueNames .production c.shared) ⟨Db.empty,[]⟩ (creates "Flat" "Villa") :=
  (race_names_unique_iff .production (by intro c; cases c <;> exact Table.unique_empty) (creates "Flat" "Villa")).2
    (by decide)

theorem race_of_equal_names :
    ¬ Throughout (race .production) (fun c => UniqueNames .production c.shared) ⟨Db.empty,[]⟩ (creates "Flat" "flat") := by
  intro unique
  rw [throughout_iff_take] at unique
  have twice := unique 8 .properties
  revert twice
  decide

end HyderabadHomes
