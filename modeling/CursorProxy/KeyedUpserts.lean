import Mathlib

namespace CursorProxy.KeyedUpserts

variable {α κ:Type*} [DecidableEq κ] {key:α → κ} {row other:α} {rows:List α}

def upsert (key:α → κ) (row:α) : List α → List α
 | []=>[row]
 | first::rows=>if key first=key row then row::rows else first::upsert key row rows

theorem keys_upsert (key:α → κ) (row:α) (rows:List α) :
 (upsert key row rows).map key = if key row∈rows.map key then rows.map key else rows.map key++[key row]:=by
 induction rows with
 | nil=>rfl
 | cons first rows ih=>
  unfold upsert
  by_cases hkey:key first=key row
  · rw [if_pos hkey,List.map_cons,List.map_cons,hkey,if_pos List.mem_cons_self]
  · rw [if_neg hkey,List.map_cons,List.map_cons,ih]
    by_cases hmem:key row∈rows.map key
    · rw [if_pos hmem,if_pos (List.mem_cons_of_mem _ hmem)]
    · rw [if_neg hmem,if_neg fun h=>(List.mem_cons.mp h).elim (fun h=>hkey h.symm) hmem]
      rfl

theorem nodup_upsert (h:(rows.map key).Nodup) (row:α) : ((upsert key row rows).map key).Nodup:=by
 rw [keys_upsert]
 split
 · exact h
 · rename_i hmem
   rw [List.nodup_append]
   refine ⟨h,List.nodup_singleton _,?_⟩
   rintro a ha b hb rfl
   exact hmem (List.mem_singleton.mp hb ▸ ha)

theorem mem_upsert (h:(rows.map key).Nodup) :
 other∈upsert key row rows ↔ other=row ∨ other∈rows ∧ key other≠key row:=by
 induction rows with
 | nil=>simp [upsert]
 | cons first rows ih=>
  rw [List.map_cons,List.nodup_cons] at h
  obtain ⟨hfirst,hrows⟩:=h
  unfold upsert
  by_cases hkey:key first=key row
  · have hother:other∈rows → key other≠key row:=by
     intro hmem hsame
     exact hfirst (hkey ▸ hsame ▸ List.mem_map_of_mem hmem)
    rw [if_pos hkey,List.mem_cons,List.mem_cons]
    constructor
    · rintro (rfl | hmem)
      · exact .inl rfl
      · exact .inr ⟨.inr hmem,hother hmem⟩
    · rintro (rfl | ⟨rfl | hmem,hne⟩)
      · exact .inl rfl
      · exact absurd hkey hne
      · exact .inr hmem
  · rw [if_neg hkey,List.mem_cons,List.mem_cons,ih hrows]
    constructor
    · rintro (rfl | rfl | ⟨hmem,hne⟩)
      · exact .inr ⟨.inl rfl,hkey⟩
      · exact .inl rfl
      · exact .inr ⟨.inr hmem,hne⟩
    · rintro (rfl | ⟨rfl | hmem,hne⟩)
      · exact .inr (.inl rfl)
      · exact .inl rfl
      · exact .inr (.inr ⟨hmem,hne⟩)

theorem upsert_of_mem (h:(rows.map key).Nodup) (hmem:row∈rows) : upsert key row rows=rows:=by
 induction rows with
 | nil=>exact absurd hmem List.not_mem_nil
 | cons first rows ih=>
  rw [List.map_cons,List.nodup_cons] at h
  unfold upsert
  rcases List.mem_cons.mp hmem with rfl | hlater
  · rw [if_pos rfl]
  · have hkey:key first≠key row:=fun hsame=>h.1 (hsame ▸ List.mem_map_of_mem hlater)
    rw [if_neg hkey,ih h.2 hlater]

theorem find?_key (h:(rows.map key).Nodup) (hmem:row∈rows) : rows.find? (fun other=>key other=key row)=some row:=by
 cases hfind:rows.find? (fun other=>key other=key row) with
 | none=>exact absurd (List.find?_eq_none.mp hfind row hmem) (by simp)
 | some found=>
  have hfound:=List.find?_some hfind
  have hkey:key found=key row:=of_decide_eq_true hfound
  rw [List.inj_on_of_nodup_map h (List.mem_of_find?_eq_some hfind) hmem hkey]

end CursorProxy.KeyedUpserts
