import Mathlib

/-! Histories of stamped entries, at most one a key, of which only the last few
are kept. -/
namespace CursorProxy.BoundedHistory

variable {α κ:Type*} {key:α → κ} {time:α → ℕ}

/-- Entries in the order of their times, no key twice, none from the future. -/
structure Chronicle (key:α → κ) (time:α → ℕ) (now:ℕ) (entries:List α) : Prop where
 ordered : entries.Pairwise fun a b=>time a ≤ time b
 distinct : (entries.map key).Nodup
 past : ∀ entry∈entries,time entry ≤ now

variable {now later limit since:ℕ} {entries:List α}

theorem Chronicle.nil : Chronicle key time now [] :=
 ⟨.nil,List.nodup_nil,fun _ h=>absurd h List.not_mem_nil⟩

theorem Chronicle.mono (h:Chronicle key time now entries) (hle:now ≤ later) : Chronicle key time later entries :=
 ⟨h.ordered,h.distinct,fun entry hentry=>(h.past entry hentry).trans hle⟩

theorem Chronicle.sublist {kept:List α} (h:Chronicle key time now entries)
 (hkept:kept.Sublist entries) : Chronicle key time now kept :=
 ⟨h.ordered.sublist hkept,h.distinct.sublist (hkept.map key),
  fun entry hentry=>h.past entry (hkept.subset hentry)⟩

theorem Chronicle.append (h:Chronicle key time now entries) (entry:α)
 (hnew:key entry ∉ entries.map key) (hle:now ≤ time entry) : Chronicle key time (time entry) (entries++[entry]):=by
 refine ⟨?_,?_,?_⟩
 · refine List.pairwise_append.mpr ⟨h.ordered,List.pairwise_singleton _ _,?_⟩
   intro a ha b hb
   rw [List.mem_singleton.mp hb]
   exact (h.past a ha).trans hle
 · rw [List.map_append,List.map_singleton]
   refine List.nodup_append.mpr ⟨h.distinct,List.nodup_singleton _,?_⟩
   intro a ha b hb heq
   rw [List.mem_singleton.mp hb] at heq
   exact hnew (heq ▸ ha)
 · intro a ha
   rcases List.mem_append.mp ha with hold | hlast
   · exact (h.past a hold).trans hle
   · rw [List.mem_singleton.mp hlast]

theorem Chronicle.insertionSort (h:Chronicle key time now entries) :
 entries.insertionSort (fun a b=>time a ≤ time b)=entries :=
 List.Pairwise.insertionSort_eq h.ordered

/-- An entry of the key, stamped at `since` or after, with only `newer` keys
behind it. -/
def Retained (key:α → κ) (time:α → ℕ) (k:κ) (since:ℕ) (newer:Finset κ) (entries:List α) : Prop :=
 ∃ before entry after,entries=before++entry::after ∧ key entry=k ∧ since ≤ time entry ∧ ∀ other∈after,key other∈newer

variable {k:κ} {newer wider:Finset κ}

theorem Retained.exists_mem (h:Retained key time k since newer entries) :
 ∃ entry∈entries,key entry=k ∧ since ≤ time entry:=by
 obtain ⟨before,entry,after,rfl,hkey,htime,-⟩:=h
 exact ⟨entry,by simp,hkey,htime⟩

theorem Retained.filter (h:Retained key time k since newer entries) {p:α → Bool}
 (hp:∀ entry,key entry=k → since ≤ time entry → p entry=true) :
 Retained key time k since newer (entries.filter p):=by
 obtain ⟨before,entry,after,rfl,hkey,htime,hafter⟩:=h
 refine ⟨before.filter p,entry,after.filter p,?_,hkey,htime,?_⟩
 · rw [List.filter_append,List.filter_cons_of_pos (hp entry hkey htime)]
 · exact fun other hother=>hafter other (List.mem_of_mem_filter hother)

theorem Retained.last {entry:α} (hkey:key entry=k) (htime:since ≤ time entry) :
 Retained key time k since newer (entries++[entry]) :=
 ⟨entries,entry,[],rfl,hkey,htime,fun _ h=>absurd h List.not_mem_nil⟩

theorem Retained.append (h:Retained key time k since newer entries) (entry:α)
 (hentry:key entry∈newer) : Retained key time k since newer (entries++[entry]):=by
 obtain ⟨before,found,after,rfl,hkey,htime,hafter⟩:=h
 refine ⟨before,found,after++[entry],by simp,hkey,htime,?_⟩
 intro other hother
 rcases List.mem_append.mp hother with hold | hnew
 · exact hafter other hold
 · rw [List.mem_singleton.mp hnew]
   exact hentry

theorem Retained.drop [DecidableEq κ] (h:Retained key time k since newer entries)
 (hdistinct:(entries.map key).Nodup) (hcard:(newer.erase k).card<limit) :
 Retained key time k since newer (entries.drop (entries.length-limit)):=by
 obtain ⟨before,entry,after,rfl,hkey,htime,hafter⟩:=h
 have hlength:after.length ≤ (newer.erase k).card:=by
  rw [List.map_append,List.map_cons,List.nodup_append] at hdistinct
  obtain ⟨hnotin,hnodup⟩:=List.nodup_cons.mp hdistinct.2.1
  rw [← List.length_map key,← List.toFinset_card_of_nodup hnodup]
  refine Finset.card_le_card fun other hother=>?_
  obtain ⟨found,hfound,rfl⟩:=List.mem_map.mp (List.mem_toFinset.mp hother)
  refine Finset.mem_erase.mpr ⟨?_,hafter found hfound⟩
  rintro heq
  rw [hkey,← heq] at hnotin
  exact hnotin (List.mem_map_of_mem hfound)
 have hdrop:(before++entry::after).length-limit ≤ before.length:=by
  rw [List.length_append,List.length_cons]
  omega
 rw [List.drop_append_of_le_length hdrop]
 exact ⟨_,entry,after,rfl,hkey,htime,hafter⟩

end CursorProxy.BoundedHistory
