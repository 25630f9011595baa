import HyderabadHomes.FavouritesAtomic

/-! Favourites repeat the columns that the searches compare and group by, so adding them
changes no answer, and which duplicate stood for a group hardly matters to what is added. -/
namespace HyderabadHomes
open Relational

def SameKeys : Except Error (List (Row ListingKey)) → Except Error (List (Row ListingKey)) → Prop
  | .ok rows,.ok rows' => (rows.map Row.val).Perm (rows'.map Row.val)
  | .error e,.error e' => e = e'
  | _,_ => False

namespace ListingModel
variable {α : Type} {m : ListingModel α} {t t' : Table α} {properties kinds : Table Named}

/-- Listings that repeat a key add nothing to a query that looks at key columns alone. -/
theorem select_same_keys (plan plan' : Plan) {condition : Joined α → Bool} (kept : ∀ row ∈ t.rows, row ∈ t'.rows)
    (repeats : ∀ row ∈ t'.rows, ∃ old ∈ t.rows, m.keyOf row.val = m.keyOf old.val)
    (keyed : ∀ i j : Joined α, m.keyOf i.listing.val = m.keyOf j.listing.val → i.property = j.property →
      i.kind = j.kind → condition i = condition j) :
    ((m.selectForSearch plan condition (m.joins t properties kinds)).map Row.val).Perm
      ((m.selectForSearch plan' condition (m.joins t' properties kinds)).map Row.val) := by
  obtain ⟨distinct,keys⟩ := m.selectForSearch_keys plan condition (m.joins t properties kinds)
  obtain ⟨distinct',keys'⟩ := m.selectForSearch_keys plan' condition (m.joins t' properties kinds)
  apply (List.perm_ext_iff_of_nodup distinct distinct').mpr
  intro key
  rw [keys,keys']
  constructor
  · intro answered
    obtain ⟨j,member,selected,same⟩ := answered
    obtain ⟨listing,rest⟩ := m.mem_joins.mp member
    exact ⟨j,m.mem_joins.mpr ⟨kept _ listing,rest⟩,selected,same⟩
  · intro answered
    obtain ⟨j,member,selected,same⟩ := answered
    obtain ⟨listing,hp,hk,property,kind⟩ := m.mem_joins.mp member
    obtain ⟨old,inside,repeated⟩ := repeats _ listing
    have property' : m.propertyId old.val = some j.property.id :=
      (congrArg ListingKey.propertyId repeated).symm.trans property
    have kind' : m.kindId old.val = some j.kind.id := (congrArg ListingKey.kindId repeated).symm.trans kind
    refine ⟨⟨old,j.property,j.kind⟩,m.mem_joins.mpr ⟨inside,hp,hk,property',kind'⟩,?_,repeated.symm.trans same⟩
    rw [← keyed j ⟨old,j.property,j.kind⟩ repeated rfl rfl]
    exact selected

theorem searchByName_same_keys (plan plan' : Plan) (kept : ∀ row ∈ t.rows, row ∈ t'.rows)
    (repeats : ∀ row ∈ t'.rows, ∃ old ∈ t.rows, m.keyOf row.val = m.keyOf old.val) (location propType kindType : Literal) :
    SameKeys (m.searchByName plan t properties kinds location propType kindType)
      (m.searchByName plan' t' properties kinds location propType kindType) := by
  unfold searchByName
  cases location.asText with
  | error e => rfl
  | ok l =>
    cases propType.asText with
    | error e => rfl
    | ok p =>
      cases kindType.asText with
      | error e => rfl
      | ok k =>
        refine select_same_keys plan plan' kept repeats fun i j key property kind => ?_
        have location_eq : m.location i.listing.val = m.location j.listing.val := congrArg ListingKey.location key
        simp only [location_eq,property,kind]

end ListingModel

theorem UserLookingForProperty.search_same_keys (plan plan' : Plan) (db : Db) {t' : Table UserLookingForProperty}
    (kept : ∀ row ∈ db.userLookingForProperties.rows, row ∈ t'.rows)
    (repeats : ∀ row ∈ t'.rows, ∃ old ∈ db.userLookingForProperties.rows, model.keyOf row.val = model.keyOf old.val)
    (propType lookingFor location : Literal) :
    SameKeys (search plan db propType lookingFor location)
      (search plan' {db with userLookingForProperties := t'} propType lookingFor location) := by
  unfold search
  cases propType.asInteger with
  | error e => rfl
  | ok p =>
    cases lookingFor.asInteger with
    | error e => rfl
    | ok k =>
      cases location.asText with
      | error e => rfl
      | ok l =>
        refine ListingModel.select_same_keys plan plan' kept repeats fun i j key property kind => ?_
        have location_eq : i.listing.val.location = j.listing.val.location := congrArg ListingKey.location key
        simp only [location_eq,property,kind]

namespace HomeController

theorem createProperties_kept (currentUser : Option Int) (property : Option (List (Option String)))
    (answer : Row UserLookingForProperty → Geocoding) (t : Table UserLookingForProperty) :
    ∀ row ∈ t.rows, row ∈ (createProperties currentUser property answer t).1.rows := by
  intro row member
  rcases createProperties_effect currentUser property answer t with same | ⟨user,added,_,made,_⟩
  · rw [same]
    exact member
  · rw [made]
    exact Table.mem_insertAll_of_mem added member

theorem createProperties_repeats (currentUser : Option Int) (property : Option (List (Option String)))
    (answer : Row UserLookingForProperty → Geocoding) (t : Table UserLookingForProperty) :
    ∀ row ∈ (createProperties currentUser property answer t).1.rows, ∃ old ∈ t.rows,
      UserLookingForProperty.model.keyOf row.val = UserLookingForProperty.model.keyOf old.val := by
  intro row member
  rcases createProperties_effect currentUser property answer t with same | ⟨user,added,_,made,copies⟩
  · rw [same] at member
    exact ⟨row,member,rfl⟩
  · rw [made] at member
    rcases Table.mem_insertAll member with old | new
    · exact ⟨row,old,rfl⟩
    · obtain ⟨product,inside,_,_,key⟩ := copies row.val new
      exact ⟨product,inside,key⟩

def ticked (rows : List (Row ListingKey)) (chosen : ListingKey → Bool) : List (Option String) :=
  (rows.filter fun row => chosen row.val).map fun row => some (toString row.id)

def added (before after : Table UserLookingForProperty) : List UserLookingForProperty :=
  (after.rows.drop before.rows.length).map Row.val

def answerFor (answer : ListingKey → Geocoding) (product : Row UserLookingForProperty) : Geocoding :=
  answer (UserLookingForProperty.model.keyOf product.val)

def copyOfKey (user : Int) (key : ListingKey) : UserLookingForProperty :=
  ⟨some user,key.location,key.propertyId,key.kindId,none,none,none⟩

def keyOutcome (user : Int) (answer : ListingKey → Geocoding) (key : ListingKey) : Saved UserLookingForProperty :=
  UserLookingForProperty.model.save (answer key) (copyOfKey user key)

def favourite (r : UserLookingForProperty) : Option Int × ListingKey × Option Double :=
  (r.userId,UserLookingForProperty.model.keyOf r,r.price)

def addedFrom (db : Db) (user : Int) (answer : ListingKey → Geocoding) (chosen : ListingKey → Bool) :
    Except Error (List (Row ListingKey)) → List UserLookingForProperty
  | .error _ => []
  | .ok rows =>
    added db.userLookingForProperties
      (createProperties (some user) (some (ticked rows chosen)) (answerFor answer) db.userLookingForProperties).1

def Settled (user : Int) (answer : ListingKey → Geocoding) (chosen : ListingKey → Bool) : Prop :=
  (∀ key, chosen key = true → ∀ e, keyOutcome user answer key ≠ .raised e) ∨
    ∀ key, chosen key = true → (keyOutcome user answer key).record? = none

theorem added_insertAll (t : Table UserLookingForProperty) (copies : List UserLookingForProperty) :
    added t (t.insertAll copies) = copies := by
  obtain ⟨new,rows,same,_⟩ := Table.insertAll_rows t copies
  unfold added
  rw [rows,List.drop_left,same]

theorem added_self (t : Table UserLookingForProperty) : added t t = [] := by
  unfold added
  rw [List.drop_length,List.map_nil]

theorem save_copyOf (user : Int) (answer : ListingKey → Geocoding) (product : Row UserLookingForProperty) :
    UserLookingForProperty.model.save (answerFor answer product) (copyOf user product.val) =
      keyOutcome user answer (UserLookingForProperty.model.keyOf product.val) := rfl

section Loop
variable {user : Int} {answer : ListingKey → Geocoding} {products : List (Row UserLookingForProperty)}

theorem saveCopies_favourites
    (calm : ∀ product ∈ products, ∀ e,
      keyOutcome user answer (UserLookingForProperty.model.keyOf product.val) ≠ .raised e)
    (t : Table UserLookingForProperty) :
    ∃ copies, saveCopies user (answerFor answer) products t = (t.insertAll copies,none) ∧
      copies.map favourite = ((products.map fun product => UserLookingForProperty.model.keyOf product.val).filter
        fun key => (keyOutcome user answer key).record?.isSome).map fun key => (some user,key,none) := by
  induction products generalizing t with
  | nil => exact ⟨[],rfl,rfl⟩
  | cons product rest ih =>
    have later := fun t => ih (fun p member => calm p (by simp [member])) t
    have here := save_copyOf user answer product
    cases saved : keyOutcome user answer (UserLookingForProperty.model.keyOf product.val) with
    | raised e => exact absurd saved (calm product (by simp) e)
    | rejected =>
      obtain ⟨copies,result,same⟩ := later t
      refine ⟨copies,?_,?_⟩
      · simp only [saveCopies,here,saved]
        exact result
      · simp [same,saved,Saved.record?]
    | stored stored =>
      obtain ⟨copies,result,same⟩ := later (t.insert stored)
      obtain ⟨owner,key,price⟩ := copy_stored (here.trans saved)
      refine ⟨stored :: copies,?_,?_⟩
      · simp only [saveCopies,here,saved]
        exact result
      · simp [same,saved,Saved.record?,favourite,owner,key,price]

theorem saveCopies_barren
    (barren : ∀ product ∈ products,
      (keyOutcome user answer (UserLookingForProperty.model.keyOf product.val)).record? = none)
    (t : Table UserLookingForProperty) : (saveCopies user (answerFor answer) products t).1 = t := by
  induction products with
  | nil => rfl
  | cons product rest ih =>
    have here := save_copyOf user answer product
    have nothing := barren product (by simp)
    cases saved : keyOutcome user answer (UserLookingForProperty.model.keyOf product.val) with
    | raised e => simp only [saveCopies,here,saved]
    | rejected =>
      simp only [saveCopies,here,saved]
      exact ih fun p member => barren p (by simp [member])
    | stored stored =>
      rw [saved] at nothing
      cases nothing

end Loop

def Represents (t : Table UserLookingForProperty) (rows : List (Row ListingKey)) : Prop :=
  ∀ row ∈ rows, ∃ listing ∈ t.rows, listing.id = row.id ∧ UserLookingForProperty.model.keyOf listing.val = row.val

theorem select_represents (plan : Plan) (condition : Joined UserLookingForProperty → Bool)
    (t : Table UserLookingForProperty) (properties kinds : Table Named) :
    Represents t (UserLookingForProperty.model.selectForSearch plan condition
      (UserLookingForProperty.model.joins t properties kinds)) := by
  intro row member
  obtain ⟨j,selected,same⟩ := List.mem_map.mp ((plan.admissible _).sound row member)
  have joined := (List.mem_filter.mp selected).1
  exact ⟨j.listing,(UserLookingForProperty.model.mem_joins.mp joined).1,congrArg Row.id same,congrArg Row.val same⟩

theorem search_represents {plan : Plan} {db : Db} {propType lookingFor location : Literal} {rows : List (Row ListingKey)}
    (ok : UserLookingForProperty.search plan db propType lookingFor location = .ok rows) :
    Represents db.userLookingForProperties rows ∧ (rows.map Row.val).Nodup := by
  obtain ⟨_,_,_,_,_,_,rfl⟩ := UserLookingForProperty.search_eq_ok ok
  exact ⟨select_represents plan _ _ _ _,(UserLookingForProperty.model.selectForSearch_keys plan _ _).1⟩

section Ticks
variable {t : Table UserLookingForProperty} {rows : List (Row ListingKey)}

theorem Represents.ids_nodup (represents : Represents t rows) (distinct : (rows.map Row.val).Nodup) :
    (rows.map Row.id).Nodup := by
  have apart := List.nodup_map_iff_inj_on distinct.of_map |>.mp distinct
  refine List.Nodup.map_on ?_ distinct.of_map
  intro a ha b hb same
  obtain ⟨la,ina,ida,keya⟩ := represents a ha
  obtain ⟨lb,inb,idb,keyb⟩ := represents b hb
  have equal := Table.eq_of_id ina inb (ida.trans (same.trans idb.symm))
  rw [equal] at keya
  exact apart a ha b hb (keya.symm.trans keyb)

theorem Represents.filter (represents : Represents t rows) (chosen : ListingKey → Bool) :
    Represents t (rows.filter fun row => chosen row.val) :=
  fun row member => represents row (List.mem_filter.mp member).1

theorem toString_injective : Function.Injective (toString : Int → String) :=
  Function.LeftInverse.injective Ruby.toI_toString

theorem Represents.found_ids (represents : Represents t rows) (distinct : (rows.map Row.id).Nodup) :
    ((t.rows.filter fun row => decide (row.id ∈ rows.map Row.id)).map Row.id).Perm (rows.map Row.id) := by
  have found : ((t.rows.filter fun row => decide (row.id ∈ rows.map Row.id)).map Row.id).Nodup :=
    t.distinct.sublist (List.filter_sublist.map Row.id)
  apply (List.perm_ext_iff_of_nodup found distinct).mpr
  intro id
  constructor
  · intro member
    obtain ⟨row,inside,same⟩ := List.mem_map.mp member
    have wanted := (List.mem_filter.mp inside).2
    rw [← same]
    exact of_decide_eq_true wanted
  · intro member
    obtain ⟨row,inside,same⟩ := List.mem_map.mp member
    obtain ⟨listing,stored,here,_⟩ := represents row inside
    refine List.mem_map.mpr ⟨listing,List.mem_filter.mpr ⟨stored,?_⟩,here.trans same⟩
    rw [here,same]
    exact decide_eq_true member

theorem Represents.keys_perm (represents : Represents t rows) {products : List (Row UserLookingForProperty)}
    (inside : ∀ product ∈ products, product ∈ t.rows) (ids : (products.map Row.id).Perm (rows.map Row.id)) :
    (products.map fun product => UserLookingForProperty.model.keyOf product.val).Perm (rows.map Row.val) := by
  have keyAt := ids.filterMap fun id => (t.find? id).map fun row => UserLookingForProperty.model.keyOf row.val
  rw [List.filterMap_map,List.filterMap_map] at keyAt
  have left : products.filterMap ((fun id => (t.find? id).map fun row => UserLookingForProperty.model.keyOf row.val) ∘
      Row.id) = products.map fun product => UserLookingForProperty.model.keyOf product.val := by
    rw [← List.filterMap_eq_map]
    apply List.filterMap_congr
    intro product member
    simp [Table.find?_eq_some.mpr ⟨inside product member,rfl⟩]
  have right : rows.filterMap ((fun id => (t.find? id).map fun row => UserLookingForProperty.model.keyOf row.val) ∘
      Row.id) = rows.map Row.val := by
    rw [← List.filterMap_eq_map]
    apply List.filterMap_congr
    intro row member
    obtain ⟨listing,stored,here,key⟩ := represents row member
    simp [Table.find?_eq_some.mpr ⟨stored,here⟩,key]
  rwa [left,right] at keyAt

theorem findMany_printed (represents : Represents t rows) (distinct : (rows.map Row.id).Nodup) :
    ∃ products, findMany t (rows.map fun row => some (toString row.id)) = .ok products ∧
      (products.map fun product => UserLookingForProperty.model.keyOf product.val).Perm (rows.map Row.val) := by
  cases rows with
  | nil => exact ⟨[],rfl,.nil⟩
  | cons first rest =>
    have printed : ((first :: rest).map fun row => some (toString row.id)).filterMap id =
        ((first :: rest).map Row.id).map toString := by
      rw [List.filterMap_map,List.map_map,← List.filterMap_eq_map]
      rfl
    have wanted : (((first :: rest).map fun row => some (toString row.id)).filterMap id).dedup =
        ((first :: rest).map Row.id).map toString := by
      rw [printed]
      exact (distinct.map toString_injective).dedup
    have chosen : ∀ row : Row UserLookingForProperty, ((((first :: rest).map Row.id).map toString).any fun s =>
        Ruby.toI s == row.id) = decide (row.id ∈ (first :: rest).map Row.id) := by
      intro row
      rw [List.any_map,Bool.eq_iff_iff]
      simp only [List.any_eq_true,Function.comp_apply,Ruby.toI_toString,beq_iff_eq,decide_eq_true_eq]
      constructor
      · intro read
        obtain ⟨id,member,same⟩ := read
        exact same ▸ member
      · intro member
        exact ⟨row.id,member,rfl⟩
    have ids := represents.found_ids distinct
    have size := ids.length_eq
    refine ⟨_,?_,represents.keys_perm (fun product member => (List.mem_filter.mp member).1) ids⟩
    unfold findMany
    rw [if_neg (by simp),wanted]
    simp only [chosen]
    rw [List.length_map] at size
    rw [if_neg]
    simp only [size]
    simp

end Ticks

section Choice
variable {db : Db} {user : Int} {answer : ListingKey → Geocoding} {chosen : ListingKey → Bool}
  {rows : List (Row ListingKey)}

theorem filter_keys (rows : List (Row ListingKey)) (chosen : ListingKey → Bool) :
    (rows.filter fun row => chosen row.val).map Row.val = (rows.map Row.val).filter chosen := by
  rw [List.filter_map]
  rfl

theorem findMany_ticked (represents : Represents db.userLookingForProperties rows)
    (distinct : (rows.map Row.val).Nodup) (chosen : ListingKey → Bool) :
    ∃ products, findMany db.userLookingForProperties (ticked rows chosen) = .ok products ∧
      (products.map fun product => UserLookingForProperty.model.keyOf product.val).Perm
        ((rows.map Row.val).filter chosen) := by
  have part := represents.filter chosen
  have keys : ((rows.filter fun row => chosen row.val).map Row.val).Nodup := by
    rw [filter_keys]
    exact distinct.filter chosen
  obtain ⟨products,found,same⟩ := findMany_printed part (part.ids_nodup keys)
  rw [filter_keys] at same
  exact ⟨products,found,same⟩

theorem addedFrom_of_calm (represents : Represents db.userLookingForProperties rows)
    (distinct : (rows.map Row.val).Nodup)
    (calm : ∀ key, chosen key = true → ∀ e, keyOutcome user answer key ≠ .raised e) :
    ((addedFrom db user answer chosen (.ok rows)).map favourite).Perm
      ((((rows.map Row.val).filter chosen).filter fun key => (keyOutcome user answer key).record?.isSome).map
        fun key => (some user,key,none)) := by
  obtain ⟨products,found,keys⟩ := findMany_ticked represents distinct chosen
  have quiet : ∀ product ∈ products, ∀ e,
      keyOutcome user answer (UserLookingForProperty.model.keyOf product.val) ≠ .raised e := by
    intro product member
    have inside := keys.mem_iff.mp (List.mem_map_of_mem member)
    exact calm _ (List.mem_filter.mp inside).2
  obtain ⟨copies,result,same⟩ := saveCopies_favourites quiet db.userLookingForProperties
  simp only [addedFrom]
  rw [createProperties_of_finished found result,added_insertAll,same]
  exact (keys.filter _).map _

theorem addedFrom_of_barren (represents : Represents db.userLookingForProperties rows)
    (distinct : (rows.map Row.val).Nodup)
    (barren : ∀ key, chosen key = true → (keyOutcome user answer key).record? = none) :
    addedFrom db user answer chosen (.ok rows) = [] := by
  obtain ⟨products,found,keys⟩ := findMany_ticked represents distinct chosen
  have nothing : ∀ product ∈ products,
      (keyOutcome user answer (UserLookingForProperty.model.keyOf product.val)).record? = none := by
    intro product member
    have inside := keys.mem_iff.mp (List.mem_map_of_mem member)
    exact barren _ (List.mem_filter.mp inside).2
  have table := saveCopies_barren nothing db.userLookingForProperties
  have kept : (createProperties (some user) (some (ticked rows chosen)) (answerFor answer)
      db.userLookingForProperties).1 = db.userLookingForProperties := by
    simp only [createProperties,found]
    cases result : saveCopies user (answerFor answer) products db.userLookingForProperties with
    | mk t' e =>
      rw [result] at table
      cases e <;> exact table
  simp only [addedFrom]
  rw [kept,added_self]

theorem addedFrom_perm {rows' : List (Row ListingKey)} (represents : Represents db.userLookingForProperties rows)
    (distinct : (rows.map Row.val).Nodup) (represents' : Represents db.userLookingForProperties rows')
    (same : (rows.map Row.val).Perm (rows'.map Row.val)) (settled : Settled user answer chosen) :
    ((addedFrom db user answer chosen (.ok rows)).map favourite).Perm
      ((addedFrom db user answer chosen (.ok rows')).map favourite) := by
  have distinct' := same.nodup_iff.mp distinct
  rcases settled with calm | barren
  · have here := addedFrom_of_calm represents distinct calm
    have there := addedFrom_of_calm represents' distinct' calm
    exact here.trans ((((same.filter chosen).filter _).map _).trans there.symm)
  · rw [addedFrom_of_barren represents distinct barren,addedFrom_of_barren represents' distinct' barren]

end Choice

/-- Adding favourites changes the keys of no search, whatever the saves come to; and what
it adds for the chosen keys of an answer does not depend on the rows shown for them,
unless saving one chosen key raises while another is stored. -/
theorem favourites_neutral (db : Db) (user : Int) :
    (∀ (property : Option (List (Option String))) (answer : Row UserLookingForProperty → Geocoding) (plan plan' : Plan),
      (∀ propType lookingFor location : Literal,
        SameKeys (UserLookingForProperty.search plan db propType lookingFor location)
          (UserLookingForProperty.search plan'
            {db with userLookingForProperties :=
              (createProperties (some user) property answer db.userLookingForProperties).1}
            propType lookingFor location)) ∧
      ∀ location propType lookingType : Literal,
        SameKeys (UserLookingForProperty.searchProperties plan db location propType lookingType)
          (UserLookingForProperty.searchProperties plan'
            {db with userLookingForProperties :=
              (createProperties (some user) property answer db.userLookingForProperties).1}
            location propType lookingType)) ∧
    ∀ (plan plan' : Plan) (propType lookingFor location : Literal) (answer : ListingKey → Geocoding)
      (chosen : ListingKey → Bool), Settled user answer chosen →
      ((addedFrom db user answer chosen (UserLookingForProperty.search plan db propType lookingFor location)).map
          favourite).Perm
        ((addedFrom db user answer chosen (UserLookingForProperty.search plan' db propType lookingFor location)).map
          favourite) := by
  constructor
  · intro property answer plan plan'
    have kept := createProperties_kept (some user) property answer db.userLookingForProperties
    have repeats := createProperties_repeats (some user) property answer db.userLookingForProperties
    constructor
    · intro propType lookingFor location
      exact UserLookingForProperty.search_same_keys plan plan' db kept repeats propType lookingFor location
    · intro location propType lookingType
      exact ListingModel.searchByName_same_keys plan plan' kept repeats location propType lookingType
  · intro plan plan' propType lookingFor location answer chosen settled
    have same := UserLookingForProperty.search_same_keys plan plan' db (fun _ member => member)
      (fun row member => ⟨row,member,rfl⟩) propType lookingFor location
    cases first : UserLookingForProperty.search plan db propType lookingFor location with
    | error e =>
      cases second : UserLookingForProperty.search plan' db propType lookingFor location with
      | error e' => exact .nil
      | ok rows' =>
        rw [first,second] at same
        exact absurd same (fun h => h)
    | ok rows =>
      cases second : UserLookingForProperty.search plan' db propType lookingFor location with
      | error e' =>
        rw [first,second] at same
        exact absurd same (fun h => h)
      | ok rows' =>
        rw [first,second] at same
        obtain ⟨represents,distinct⟩ := search_represents first
        obtain ⟨represents',_⟩ := search_represents second
        exact addedFrom_perm represents distinct represents' same settled

def threeListings : Db :=
  {Db.empty with
    properties := Table.empty.insert ⟨some "Flat"⟩
    lookingFors := Table.empty.insert ⟨some "Rent"⟩
    userLookingForProperties := Table.empty.insertAll
      [⟨some 1,some "Ameerpet",some 1,some 1,none,none,none⟩,⟨some 1,some "Begumpet",some 1,some 1,none,none,none⟩,
        ⟨some 1,some "Ameerpet",some 1,some 1,none,none,none⟩]}

theorem favourites_neutral_threeListings :
    ((addedFrom threeListings 7 (fun _ => .accepted none none) (fun key => key == ⟨some "Ameerpet",some 1,some 1⟩)
        (UserLookingForProperty.search (DistinctOn.first Row.val) threeListings (.integer 1) .null .null)).map
          favourite).Perm
      ((addedFrom threeListings 7 (fun _ => .accepted none none) (fun key => key == ⟨some "Ameerpet",some 1,some 1⟩)
        (UserLookingForProperty.search (DistinctOn.first Row.val).reversed threeListings (.integer 1) .null .null)).map
          favourite) := by
  apply (favourites_neutral threeListings 7).2
  left
  intro key hit e raised
  have here : key = ⟨some "Ameerpet",some 1,some 1⟩ := by simpa using hit
  subst here
  cases raised

/-- With the first row of a group shown, one copy is stored before the other save raises;
with the last row shown, none is. -/
theorem favourites_depend_on_representative :
    ¬ ((addedFrom threeListings 7
        (fun key => if key.location = some "Begumpet" then .raised else .accepted none none) (fun _ => true)
        (UserLookingForProperty.search (DistinctOn.first Row.val) threeListings (.integer 1) .null .null)).map
          favourite).Perm
      ((addedFrom threeListings 7
        (fun key => if key.location = some "Begumpet" then .raised else .accepted none none) (fun _ => true)
        (UserLookingForProperty.search (DistinctOn.first Row.val).reversed threeListings (.integer 1) .null .null)).map
          favourite) := by
  decide

end HomeController
end HyderabadHomes
