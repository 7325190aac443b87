import Mathlib

/-! A map that is too large gives up its oldest entries, one after the other. One entry is spared,
and entries of one age go in the order in which the map is read. -/
namespace CursorProxy.OldestFirst

variable {κ β:Type*} [DecidableEq κ] {time:β → ℕ} {spared key:κ} {entries entries' entries'':AList fun _:κ=>β}

/-- The order in which a hash map is read. -/
structure ReadOrder (κ β:Type*) where
 order : List (Sigma fun _:κ=>β) → List (Sigma fun _:κ=>β)
 perm : ∀ entries,(order entries).Perm entries

def oldest (reading:ReadOrder κ β) (time:β → ℕ) (spared:κ) (entries:AList fun _:κ=>β) : Option κ :=
 (((reading.order entries.entries).filter fun entry=>entry.1≠spared).argmin fun entry=>time entry.2).map Sigma.fst

def removeWhile (large:(AList fun _:κ=>β) → Bool) (pick:(AList fun _:κ=>β) → Option κ) :
  ℕ → (AList fun _:κ=>β) → AList fun _:κ=>β
 | 0,entries=>entries
 | turns+1,entries=>
  if large entries then
   match pick entries with
   | none=>entries
   | some key=>removeWhile large pick turns (entries.erase key)
  else entries

theorem mem_iff : key∈entries ↔ ∃ value,entries.lookup key=some value :=
 AList.lookup_isSome.symm.trans Option.isSome_iff_exists

theorem mem_candidates (reading:ReadOrder κ β) (entry:Sigma fun _:κ=>β) :
  entry∈(reading.order entries.entries).filter (fun entry=>entry.1≠spared) ↔
   entries.lookup entry.1=some entry.2 ∧ entry.1≠spared:=by
 rw [List.mem_filter,decide_eq_true_iff,(reading.perm _).mem_iff]
 exact and_congr_left fun _=>(AList.mem_lookup_iff (a := entry.1) (b := entry.2) (s := entries)).symm

theorem oldest_some {reading:ReadOrder κ β} (h:oldest reading time spared entries=some key) :
  key≠spared ∧ ∃ value,entries.lookup key=some value ∧
   ∀ other held,other≠spared → entries.lookup other=some held → time value ≤ time held:=by
 obtain ⟨entry,hentry,rfl⟩:=Option.map_eq_some_iff.mp h
 obtain ⟨hlookup,hspared⟩:=(mem_candidates reading entry).mp (List.argmin_mem hentry)
 refine ⟨hspared,entry.2,hlookup,fun other held hother hheld=>?_⟩
 have hmem:=(mem_candidates reading ⟨other,held⟩).mpr ⟨hheld,hother⟩
 exact List.le_of_mem_argmin (f := fun entry:Sigma fun _:κ=>β=>time entry.2) hmem hentry

theorem oldest_none {reading:ReadOrder κ β} (h:oldest reading time spared entries=none) (hkey:key∈entries) : key=spared:=by
 by_contra hspared
 obtain ⟨value,hvalue⟩:=mem_iff.mp hkey
 have hnil:=List.argmin_eq_none.mp (Option.map_eq_none_iff.mp h)
 exact absurd ((mem_candidates reading ⟨key,value⟩).mpr ⟨hvalue,hspared⟩) (by rw [hnil]; exact List.not_mem_nil)

/-- What is left is as it was, and what went is no younger than what is left beside the spared entry. -/
structure Thinned (time:β → ℕ) (spared:κ) (entries entries':AList fun _:κ=>β) : Prop where
 same : ∀ key value,entries'.lookup key=some value → entries.lookup key=some value
 kept : entries'.lookup spared=entries.lookup spared
 oldest : ∀ key value other held,entries.lookup key=some value → entries'.lookup key=none →
  other≠spared → entries'.lookup other=some held → time value ≤ time held

theorem Thinned.refl (time:β → ℕ) (spared:κ) (entries:AList fun _:κ=>β) : Thinned time spared entries entries where
 same _ _ h := h
 kept := rfl
 oldest _ _ _ _ h hnone := nomatch h.symm.trans hnone

theorem Thinned.trans (h:Thinned time spared entries entries') (h':Thinned time spared entries' entries'') :
  Thinned time spared entries entries'' where
 same key value hvalue := h.same key value (h'.same key value hvalue)
 kept := h'.kept.trans h.kept
 oldest key value other held hvalue hnone hother hheld:=by
  cases hmiddle:entries'.lookup key with
  | none=>exact h.oldest key value other held hvalue hmiddle hother (h'.same other held hheld)
  | some middle=>
   obtain rfl:=Option.some.inj (hvalue.symm.trans (h.same key middle hmiddle))
   exact h'.oldest key value other held hmiddle hnone hother hheld

theorem Thinned.erase {reading:ReadOrder κ β} (h:OldestFirst.oldest reading time spared entries=some key) :
  Thinned time spared entries (entries.erase key):=by
 obtain ⟨hspared,value,hvalue,holdest⟩:=oldest_some h
 have hlookup:∀ other held,(entries.erase key).lookup other=some held → entries.lookup other=some held:=by
  intro other held hheld
  by_cases hsame:other=key
  · rw [hsame,AList.lookup_erase] at hheld
    cases hheld
  · rwa [AList.lookup_erase_ne hsame] at hheld
 refine ⟨hlookup,AList.lookup_erase_ne (Ne.symm hspared),fun gone lost other held hlost hnone hother hheld=>?_⟩
 by_cases hsame:gone=key
 · rw [hsame,hvalue] at hlost
   obtain rfl:=Option.some.inj hlost
   exact holdest other held hother (hlookup other held hheld)
 · rw [AList.lookup_erase_ne hsame,hlost] at hnone
   cases hnone

theorem Thinned.length_le (h:Thinned time spared entries entries') : entries'.keys.length ≤ entries.keys.length:=by
 refine (List.subperm_of_subset entries'.keys_nodup fun key hkey=>?_).length_le
 obtain ⟨value,hvalue⟩:=mem_iff.mp (AList.mem_keys.mpr hkey)
 exact AList.mem_keys.mp (mem_iff.mpr ⟨value,h.same key value hvalue⟩)

theorem oldest_none_length {reading:ReadOrder κ β} (h:oldest reading time spared entries=none) : entries.keys.length ≤ 1 :=
 (List.subperm_of_subset entries.keys_nodup fun _ hkey=>
  List.mem_singleton.mpr (oldest_none h (AList.mem_keys.mpr hkey))).length_le

variable {large:(AList fun _:κ=>β) → Bool} {pick:(AList fun _:κ=>β) → Option κ}

theorem removeWhile_thinned (reading:ReadOrder κ β)
  (hpick:∀ entries key,large entries=true → pick entries=some key → oldest reading time spared entries=some key)
  (turns:ℕ) : ∀ entries,Thinned time spared entries (removeWhile large pick turns entries):=by
 induction turns with
 | zero=>exact fun entries=>.refl time spared entries
 | succ turns ih=>
  intro entries
  rw [removeWhile]
  split_ifs with hlarge
  · cases hkey:pick entries with
    | none=>exact .refl time spared entries
    | some key=>exact (Thinned.erase (hpick entries key hlarge hkey)).trans (ih _)
  · exact .refl time spared entries

/-- With a turn for every entry the loop ends only where it has to. -/
theorem removeWhile_stops (hpick:∀ entries key,pick entries=some key → key∈entries) (turns:ℕ) :
  ∀ entries,entries.keys.length ≤ turns → large (removeWhile large pick turns entries)=true →
   pick (removeWhile large pick turns entries)=none:=by
 induction turns with
 | zero=>
  intro entries hlength _
  cases hkey:pick entries with
  | none=>exact hkey
  | some key=>
   have hmem:=AList.mem_keys.mp (hpick entries key hkey)
   rw [List.length_eq_zero_iff.mp (Nat.le_zero.mp hlength)] at hmem
   exact absurd hmem List.not_mem_nil
 | succ turns ih=>
  intro entries hlength
  rw [removeWhile]
  split_ifs with hlarge
  · cases hkey:pick entries with
    | none=>exact fun _=>hkey
    | some key=>
     refine ih _ ?_
     have hmem:=AList.mem_keys.mp (hpick entries key hkey)
     rw [AList.keys_erase,List.length_erase_of_mem hmem]
     omega
  · exact fun h=>absurd h hlarge

/-- Only the entries that are wanted stay. -/
def retain (wanted:β → Bool) (entries:AList fun _:κ=>β) : AList fun _:κ=>β :=
 ⟨entries.entries.filter fun entry=>wanted entry.2,entries.nodupKeys.sublist List.filter_sublist⟩

theorem lookup_retain (wanted:β → Bool) (entries:AList fun _:κ=>β) (key:κ) :
  (retain wanted entries).lookup key=(entries.lookup key).filter wanted:=by
 ext value
 rw [Option.filter_eq_some_iff,← Option.mem_def,← Option.mem_def,AList.mem_lookup_iff,AList.mem_lookup_iff]
 exact List.mem_filter

/-- A new key that finds the map full takes the place of the oldest entry. -/
def makeRoom (limit:ℕ) (reading:ReadOrder κ β) (time:β → ℕ) (key:κ) (entries:AList fun _:κ=>β) : AList fun _:κ=>β :=
 if limit ≤ entries.keys.length ∧ key∉entries then
  match oldest reading time key entries with
  | none=>entries
  | some gone=>entries.erase gone
 else entries

theorem makeRoom_thinned (limit:ℕ) (reading:ReadOrder κ β) (time:β → ℕ) (key:κ) (entries:AList fun _:κ=>β) :
  Thinned time key entries (makeRoom limit reading time key entries):=by
 unfold makeRoom
 split_ifs
 · cases hgone:oldest reading time key entries with
   | none=>exact .refl time key entries
   | some gone=>exact .erase hgone
 · exact .refl time key entries

theorem makeRoom_room {limit:ℕ} {reading:ReadOrder κ β} (h:entries.keys.length<limit) : makeRoom limit reading time key entries=entries :=
 if_neg fun hfull=>Nat.not_le.mpr h hfull.1

theorem lookup_erased {other:κ} {value:β} (h:(entries.erase other).lookup key=some value) : other≠key ∧ entries.lookup key=some value:=by
 by_cases hkey:other=key
 · rw [hkey,AList.lookup_erase] at h
   cases h
 · rw [AList.lookup_erase_ne (Ne.symm hkey)] at h
   exact ⟨hkey,h⟩

section
variable {limit:ℕ} {reading:ReadOrder κ β} {wanted:β → Bool} {value:β} {keys:List κ}

/-- What is there when the unwanted has gone and room has been made was there before. -/
theorem lookup_kept (h:(makeRoom limit reading time spared (retain wanted entries)).lookup key=some value) :
  entries.lookup key=some value ∧ wanted value=true:=by
 have hretained:=(makeRoom_thinned limit reading time spared _).same key value h
 rw [lookup_retain,Option.filter_eq_some_iff] at hretained
 exact hretained

theorem mem_kept (h:key∈makeRoom limit reading time spared (retain wanted entries)) : key∈entries:=by
 obtain ⟨value,hvalue⟩:=mem_iff.mp h
 exact mem_iff.mpr ⟨value,(lookup_kept hvalue).1⟩

theorem room_of_few (hkeys:∀ key∈entries,key∈keys) (hfew:(keys++[spared]).toFinset.card ≤ limit) :
  spared∈entries ∨ entries.keys.length<limit:=by
 by_cases hspared:spared∈entries
 · exact .inl hspared
 · have hnodup:(spared::entries.keys).Nodup:=List.nodup_cons.mpr ⟨fun hmem=>hspared (AList.mem_keys.mpr hmem),entries.keys_nodup⟩
   have hsubset:(spared::entries.keys).toFinset ⊆ (keys++[spared]).toFinset:=by
    intro key hkey
    rw [List.mem_toFinset] at hkey ⊢
    rcases List.mem_cons.mp hkey with rfl | hkey
    · exact List.mem_append_right keys List.mem_cons_self
    · exact List.mem_append_left _ (hkeys key (AList.mem_keys.mpr hkey))
   have hcard:=(Finset.card_le_card hsubset).trans hfew
   rw [List.toFinset_card_of_nodup hnodup,List.length_cons] at hcard
   exact .inr hcard

/-- Among few keys what is wanted stays. -/
theorem kept_lookup (hkeys:∀ key∈entries,key∈keys) (hfew:(keys++[spared]).toFinset.card ≤ limit)
  (hlookup:entries.lookup key=some value) (hwanted:wanted value=true) :
  (makeRoom limit reading time spared (retain wanted entries)).lookup key=some value:=by
 have hretained:∀ held∈retain wanted entries,held∈keys:=by
  intro held hheld
  obtain ⟨found,hfound⟩:=mem_iff.mp hheld
  rw [lookup_retain,Option.filter_eq_some_iff] at hfound
  exact hkeys held (mem_iff.mpr ⟨found,hfound.1⟩)
 have hsame:makeRoom limit reading time spared (retain wanted entries)=retain wanted entries:=by
  rcases room_of_few hretained hfew with hspared | hroom
  · exact if_neg fun hfull=>hfull.2 hspared
  · exact makeRoom_room hroom
 rw [hsame,lookup_retain,hlookup]
 exact Option.filter_eq_some_iff.mpr ⟨rfl,hwanted⟩

end

end CursorProxy.OldestFirst
