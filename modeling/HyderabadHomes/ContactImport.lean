import HyderabadHomes.Dashboard
import HyderabadHomes.Html.Text
import HyderabadHomes.Ruby.Inspect

/-! The imported contacts on their way through the page: `list.html.erb` writes each one
into the value of a checkbox, and `create_contacts` takes the ticked values apart. -/
namespace HyderabadHomes
open Relational

structure ImportedContact where
  name : String
  email : String
deriving DecidableEq,Repr

namespace UsersDashboard

def checkboxMarkup (printable : Char → Bool) (c : ImportedContact) : List Char :=
  Html.escape (Ruby.inspectPair printable c.name c.email)

def checkboxValue (printable : Char → Bool) (c : ImportedContact) : String :=
  String.ofList (Html.unescape (checkboxMarkup printable c))

theorem checkboxValue_toList (printable : Char → Bool) (c : ImportedContact) :
    (checkboxValue printable c).toList = Ruby.inspectPair printable c.name c.email := by
  rw [checkboxValue,String.toList_ofList,checkboxMarkup,Html.unescape_escape]

/-- The form's `email[]`; without a tick there is no such parameter. -/
def submittedEmail (printable : Char → Bool) (ticked : List ImportedContact) : Option (List String) :=
  if ticked.isEmpty then none else some (ticked.map (checkboxValue printable))

def tickedContacts (contacts : List (ImportedContact × Bool)) : List ImportedContact := (contacts.filter (·.2)).map (·.1)

def Stores (before after : Table UserContact) (user : Int) (ticked : List ImportedContact) : Prop :=
  ∃ new, after.rows = before.rows ++ new ∧
    new.map Row.val = ticked.map fun c => ⟨some c.name,some c.email,some user⟩

def Imports (printable : Char → Bool) (db : Db) (user : Int) (ticked : List ImportedContact) : Prop :=
  (∀ e, (handle db (some user) (.createContacts (submittedEmail printable ticked))).2 ≠ .error e) ∧
    Stores db.userContacts (handle db (some user) (.createContacts (submittedEmail printable ticked))).1.userContacts
      user ticked

/-- The second part begins with the blank that `inspect` puts after its comma. -/
theorem split_checkboxValue (printable : Char → Bool) {c : ImportedContact} (name : ',' ∉ c.name.toList)
    (email : ',' ∉ c.email.toList) :
    Ruby.split ',' (checkboxValue printable c) = [String.ofList ('[' :: Ruby.inspect printable c.name),
      String.ofList (' ' :: (Ruby.inspect printable c.email ++ [']']))] := by
  refine Ruby.split_pair ?_ ?_ (by simp) ?_
  · simpa using Ruby.inspect_plain printable name
  · simpa using Ruby.inspect_plain printable email
  · rw [checkboxValue_toList]
    simp [Ruby.inspectPair]

theorem contactOf_eq_ok {value : String} {contact : UserContact} (ok : contactOf value = .ok contact) :
    ∃ name address rest, Ruby.split ',' value = name :: address :: rest ∧
      contact = ⟨some (Ruby.delete ['[','"'] name),some (Ruby.delete [']','"'] address),some 1⟩ := by
  unfold contactOf at ok
  split at ok
  · rename_i name address rest parts
    cases ok
    exact ⟨name,address,rest,parts,rfl⟩
  · cases ok

theorem not_mem_delete {c : Char} {chars : List Char} {s : String} (plain : c ∈ chars ∨ c ∉ s.toList) :
    c ∉ (Ruby.delete chars s).toList := by
  rw [Ruby.delete,String.toList_ofList,List.mem_filter]
  intro kept
  rcases plain with dropped | absent
  · simp [dropped] at kept
  · exact absent kept.1

/-- What is read as the address is longer than the email by the blank in front, at least. -/
theorem length_lt_address (printable : Char → Bool) {email : String} (plain : ∀ d ∈ [']','"'], d ∉ email.toList) :
    email.toList.length <
      (Ruby.delete [']','"'] (String.ofList (' ' :: (Ruby.inspect printable email ++ [']'])))).toList.length := by
  have least : email.toList.length ≤
      ((Ruby.inspectBody printable email.toList).filter fun d => !(([']','"'] : List Char).contains d)).length := by
    refine Ruby.length_le_filter_inspectBody printable (by decide) fun d member => ?_
    have bracket : d ≠ ']' := fun same => plain d (by simp [same]) member
    have quote : d ≠ '"' := fun same => plain d (by simp [same]) member
    simp [bracket,quote]
  have body : (' ' :: Ruby.inspectBody printable email.toList).Sublist
      (' ' :: (Ruby.inspect printable email ++ [']'])) := by
    refine .cons_cons _ (.cons _ ?_)
    exact (List.sublist_append_left _ _).trans (List.sublist_append_left _ _)
  have most := (body.filter fun d => !(([']','"'] : List Char).contains d)).length_le
  rw [List.filter_cons_of_pos (by decide),List.length_cons] at most
  rw [Ruby.delete,String.toList_ofList,String.toList_ofList]
  omega

/-- No contact is read back from its checkbox. -/
theorem contactOf_checkboxValue_ne (printable : Char → Bool) (c : ImportedContact) {contact : UserContact}
    (ok : contactOf (checkboxValue printable c) = .ok contact) :
    contact.name ≠ some c.name ∨ contact.email ≠ some c.email := by
  by_contra same
  simp only [ne_eq,not_or,not_not] at same
  obtain ⟨sameName,sameEmail⟩ := same
  obtain ⟨name,address,rest,parts,rfl⟩ := contactOf_eq_ok ok
  have name' := Option.some.inj sameName
  have email' := Option.some.inj sameEmail
  -- a part of the split and what is deleted from it leave out the characters of the syntax
  have plainName : ',' ∉ c.name.toList := by
    rw [← name']
    exact not_mem_delete (.inr (Ruby.not_mem_split (by rw [parts]; simp)))
  have plainEmail : ∀ d ∈ [',',']','"'], d ∉ c.email.toList := by
    intro d member
    rw [← email']
    apply not_mem_delete
    rcases List.mem_cons.mp member with rfl | deleted
    · exact .inr (Ruby.not_mem_split (by rw [parts]; simp))
    · exact .inl deleted
  rw [split_checkboxValue printable plainName (plainEmail ',' (by simp))] at parts
  cases parts
  have longer := length_lt_address printable fun d member => plainEmail d (List.mem_cons_of_mem _ member)
  rw [email'] at longer
  exact lt_irrefl _ longer

/-- The rows saved before an exception stay, behind the ones that were there. -/
theorem saveContacts_rows (values : List String) (t : Table UserContact) :
    ∃ new, (saveContacts values t).1.rows = t.rows ++ new := by
  induction values generalizing t with
  | nil => exact ⟨[],by simp [saveContacts]⟩
  | cons value rest ih =>
    unfold saveContacts
    cases contactOf value with
    | error e => exact ⟨[],by simp⟩
    | ok contact =>
      simp only
      split
      · obtain ⟨new,rows⟩ := ih (t.insert contact)
        exact ⟨⟨t.seq+1,contact⟩ :: new,by simp [rows]⟩
      · exact ⟨[],by simp⟩

theorem not_stores_saveContacts (printable : Char → Bool) (t : Table UserContact) (user : Int) (c : ImportedContact)
    (rest : List ImportedContact) :
    ¬ Stores t (saveContacts ((c :: rest).map (checkboxValue printable)) t).1 user (c :: rest) := by
  intro stores
  obtain ⟨new,rows,vals⟩ := stores
  have unsaved : t.rows ≠ t.rows ++ new := by
    intro same
    have empty : new = [] := by simpa using same
    simp [empty] at vals
  rw [List.map_cons,saveContacts] at rows
  cases decoded : contactOf (checkboxValue printable c) with
  | error e => exact unsaved (by simpa [decoded] using rows)
  | ok contact =>
    simp only [decoded] at rows
    split at rows
    · obtain ⟨later,more⟩ := saveContacts_rows (rest.map (checkboxValue printable)) (t.insert contact)
      rw [more,Table.insert_rows,List.append_assoc,List.append_cancel_left_eq] at rows
      rw [← rows] at vals
      simp only [List.singleton_append,List.map_cons,List.cons.injEq] at vals
      obtain ⟨first,_⟩ := vals
      rcases contactOf_checkboxValue_ne printable c decoded with name | email
      · exact name (by rw [first])
      · exact email (by rw [first])
    · exact unsaved rows

theorem createContacts_raises (db : Db) (currentUser : Option Int) (email : Option (List String)) :
    ∃ e, (handle db currentUser (.createContacts email)).2 = .error e := by
  cases email with
  | none => exact ⟨.noMethod,rfl⟩
  | some values => exact ⟨(saveContacts values db.userContacts).2,rfl⟩

theorem createContacts_table (printable : Char → Bool) (db : Db) (currentUser : Option Int) (c : ImportedContact)
    (rest : List ImportedContact) :
    (handle db currentUser (.createContacts (submittedEmail printable (c :: rest)))).1.userContacts =
      (saveContacts ((c :: rest).map (checkboxValue printable)) db.userContacts).1 := by
  simp only [submittedEmail,List.isEmpty_cons,Bool.false_eq_true,if_false,handle]

/-- No request imports what was ticked: none ends without an exception, and none that sends
a contact stores it as it was listed. -/
theorem contacts_never_imported (printable : Char → Bool) (db : Db) (user : Int)
    (contacts : List (ImportedContact × Bool)) :
    ¬ Imports printable db user (tickedContacts contacts) ∧
      (tickedContacts contacts ≠ [] → ¬ Stores db.userContacts
        (handle db (some user) (.createContacts (submittedEmail printable (tickedContacts contacts)))).1.userContacts
        user (tickedContacts contacts)) := by
  constructor
  · intro imports
    obtain ⟨e,raised⟩ := createContacts_raises db (some user) (submittedEmail printable (tickedContacts contacts))
    exact imports.1 e raised
  · cases tickedContacts contacts with
    | nil => exact fun filled => absurd rfl filled
    | cons c rest =>
      intro _
      rw [createContacts_table]
      exact not_stores_saveContacts printable db.userContacts user c rest

/-- User 2 ticks one contact with nothing to escape. -/
theorem contact_imported_with_blank :
    (handle Db.empty (some 2) (.createContacts (submittedEmail (fun _ => true) [⟨"Asha","asha@example.com"⟩]))) =
      ({Db.empty with userContacts := Table.empty.insert ⟨some "Asha",some " asha@example.com",some 1⟩},.error .noMethod) ∧
    ¬ Imports (fun _ => true) Db.empty 2 [⟨"Asha","asha@example.com"⟩] :=
  ⟨by decide,fun imports => imports.1 .noMethod (by decide)⟩

end UsersDashboard
end HyderabadHomes
