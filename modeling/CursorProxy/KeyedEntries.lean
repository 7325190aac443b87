import Mathlib

/-! The entries of an association list, and what their sizes sum up to. -/
namespace CursorProxy.KeyedEntries

variable {κ α:Type} [DecidableEq κ] {entries:AList fun _ : κ=>α} {key:κ} {value:α}

theorem entries_take (h:entries.lookup key=some value) :
 entries.entries.Perm (⟨key,value⟩::(entries.erase key).entries):=by
 have hsame:entries.entries.Perm (entries.insert key value).entries:=by
  refine List.lookup_ext entries.nodupKeys (entries.insert key value).nodupKeys fun x y=>?_
  change y∈entries.lookup x ↔ y∈(entries.insert key value).lookup x
  by_cases hx:x=key
  · subst hx
    rw [AList.lookup_insert,h]
  · rw [AList.lookup_insert_ne hx]
 rwa [AList.entries_insert] at hsame

theorem erase_of_lookup_none (h:entries.lookup key=none) : entries.erase key=entries :=
 AList.ext (List.kerase_of_notMem_keys (AList.lookup_eq_none.mp h))

theorem erase_insert (entries:AList fun _ : κ=>α) (key:κ) (value:α) :
 (entries.insert key value).erase key=entries.erase key:=by
 refine AList.ext ?_
 change List.kerase key (entries.insert key value).entries=List.kerase key entries.entries
 rw [AList.entries_insert]
 exact List.kerase_cons_eq rfl

theorem length_insert (entries:AList fun _ : κ=>α) (key:κ) (value:α) :
 (entries.insert key value).keys.length=(entries.erase key).keys.length+1:=by
 change (List.map _ (entries.insert key value).entries).length=_
 rw [AList.entries_insert]
 exact List.length_cons

theorem length_erase (h:entries.lookup key=some value) : (entries.erase key).keys.length+1=entries.keys.length:=by
 have hlength:=((entries_take h).map Sigma.fst).length_eq
 exact hlength.symm

variable (size:α → ℕ)

def total (entries:AList fun _ : κ=>α) : ℕ :=
 (entries.entries.map fun entry=>size entry.2).sum

theorem total_erase (entries:AList fun _ : κ=>α) (key:κ) :
 total size entries =
  ((entries.lookup key).map size).getD 0+total size (entries.erase key):=by
 cases h:entries.lookup key with
 | none=>rw [erase_of_lookup_none h,Option.map_none,Option.getD_none,Nat.zero_add]
 | some value=>exact ((entries_take h).map fun entry=>size entry.2).sum_eq

theorem total_insert (entries:AList fun _ : κ=>α) (key:κ) (value:α) :
 total size (entries.insert key value)=size value+total size (entries.erase key):=by
 rw [total_erase size (entries.insert key value) key,AList.lookup_insert,erase_insert,Option.map_some,Option.getD_some]

end CursorProxy.KeyedEntries
