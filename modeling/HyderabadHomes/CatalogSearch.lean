import HyderabadHomes.Catalog

/-! The quick search of the three catalogs: the query stands between two wildcards, and
goes into the pattern unescaped. -/
namespace HyderabadHomes
open Relational

theorem toLower_eq_iff_of_symbol {c symbol : Char} (h : symbol.isAlpha = false) : c.toLower = symbol ↔ c = symbol := by
  obtain ⟨noUpper,noLower⟩ := Bool.or_eq_false_iff.mp h
  have above : ¬ (65 ≤ symbol.val ∧ symbol.val ≤ 90) := of_decide_eq_false noUpper
  have below : ¬ (97 ≤ symbol.val ∧ symbol.val ≤ 122) := by
    intro both
    exact Bool.false_ne_true (noLower.symm.trans (Bool.and_eq_true_iff.mpr ⟨decide_eq_true both.1,decide_eq_true both.2⟩))
  simp only [UInt32.le_iff_toNat_le,UInt32.toNat_ofNat] at above below
  unfold Char.toLower
  split
  · rename_i upper
    have bounds : 65 ≤ c.val.toNat ∧ c.val.toNat ≤ 90 := by simpa [UInt32.le_iff_toNat_le] using upper
    refine iff_of_false ?_ ?_
    · intro same
      have value : symbol.val.toNat = c.val.toNat+32 := by
        rw [← same]
        change (c.val+32).toNat = c.val.toNat+32
        rw [UInt32.toNat_add]
        exact Nat.mod_eq_of_lt (Nat.lt_of_le_of_lt (Nat.add_le_add_right bounds.2 32) (by decide))
      omega
    · rintro rfl
      omega
  · exact Iff.rfl

theorem plain_downcase {query : List Char} (plain : Plain query) : Plain (query.map Char.toLower) := by
  intro d member
  obtain ⟨c,inside,rfl⟩ := List.mem_map.mp member
  obtain ⟨percent,underscore,slash⟩ := plain c inside
  refine ⟨?_,?_,?_⟩
  · exact fun same => percent ((toLower_eq_iff_of_symbol (by decide)).mp same)
  · exact fun same => underscore ((toLower_eq_iff_of_symbol (by decide)).mp same)
  · exact fun same => slash ((toLower_eq_iff_of_symbol (by decide)).mp same)

/-- A query without pattern syntax finds the rows whose name contains it, whatever the case. -/
theorem searchProperties_eq_containing (env : Env) (db : Db) (c : Catalog) {query : String} (plain : Plain query.toList) :
    Named.searchProperties env query (db.catalog c) = (db.catalog c).rows.filter fun row =>
      row.val.name.any fun name => decide ((Ruby.downcase query).toList <:+: (env.lower name).toList) := by
  have pattern : Plain (Ruby.downcase query).toList := by
    rw [Ruby.downcase,String.toList_ofList]
    exact plain_downcase plain
  have lowered : query.toList.map Char.toLower = (Ruby.downcase query).toList := by
    rw [Ruby.downcase,String.toList_ofList]
  unfold Named.searchProperties
  rw [lowered]
  refine List.filter_congr fun row _ => ?_
  cases row.val.name with
  | none => rfl
  | some name =>
    rw [Option.any_some,Option.any_some,Bool.eq_iff_iff,like_infix_iff pattern,decide_eq_true_iff]

def flats : Db :=
  {Db.empty with properties := ((Table.empty.insert ⟨some "Big Flat"⟩).insert ⟨some "Flatlet"⟩).insert ⟨none⟩}

theorem search_finds_both_flats :
    Named.searchProperties .production "FLAT" (flats.catalog .properties) =
      [⟨1,⟨some "Big Flat"⟩⟩,⟨2,⟨some "Flatlet"⟩⟩] :=
  (searchProperties_eq_containing .production flats .properties (by decide)).trans (by decide)

/-- The query is no prefix of the first name that it finds. -/
theorem search_is_no_prefix_search :
    Named.searchProperties .production "FLAT" (flats.catalog .properties) ≠
      (flats.catalog .properties).rows.filter fun row => row.val.name.any fun name =>
        decide ((Ruby.downcase "FLAT").toList <+: (Env.production.lower name).toList) := by
  decide

end HyderabadHomes
