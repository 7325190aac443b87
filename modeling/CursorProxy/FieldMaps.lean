import Mathlib

/-! The operations of a map, what they leave alone, and the maps that they do not change. -/
namespace CursorProxy.FieldMaps

variable {κ α:Type*} [DecidableEq κ] {key other:κ} {value:α} {rows:List (κ×α)}

def get (key:κ) (rows:List (κ×α)) : Option α :=
 (rows.find? fun row=>row.1==key).map Prod.snd

def retain (allowed:κ → Bool) (rows:List (κ×α)) : List (κ×α) :=
 rows.filter fun row=>allowed row.1

def remove (key:κ) (rows:List (κ×α)) : List (κ×α) := retain (fun other=>other != key) rows

/-- A value is written over the one of its key, or in front of the first greater key. -/
def insert [LT κ] [DecidableLT κ] (key:κ) (value:α) : List (κ×α) → List (κ×α)
 | []=>[(key,value)]
 | row::rows=>
  if row.1=key then (key,value)::rows
  else if key<row.1 ∧ get key rows=none then (key,value)::row::rows
  else row::insert key value rows

theorem get_cons (key:κ) (row:κ×α) (rows:List (κ×α)) :
 get key (row::rows)=if row.1=key then some row.2 else get key rows:=by
 unfold get
 rw [List.find?_cons]
 by_cases h:row.1=key
 · rw [if_pos h,beq_iff_eq.mpr h]
   rfl
 · rw [if_neg h,beq_false_of_ne h]

section insertion
variable [LT κ] [DecidableLT κ]

theorem get_insert (key other:κ) (value:α) (rows:List (κ×α)) :
 get other (insert key value rows)=if other=key then some value else get other rows:=by
 induction rows with
 | nil=>
  rw [insert,get_cons]
  by_cases h:other=key
  · rw [if_pos h,if_pos h.symm]
  · rw [if_neg h,if_neg fun h'=>h h'.symm]
 | cons row rows ih=>
  have hfront:∀ rest:List (κ×α),get other ((key,value)::rest) =
   if other=key then some value else get other rest:=by
   intro rest
   rw [get_cons]
   by_cases h:other=key
   · rw [if_pos h,if_pos h.symm]
   · rw [if_neg h,if_neg fun h'=>h h'.symm]
  rw [insert]
  by_cases hrow:row.1=key
  · rw [if_pos hrow,hfront,get_cons]
    by_cases hsame:other=key
    · rw [if_pos hsame,if_pos hsame]
    · rw [if_neg hsame,if_neg hsame,if_neg fun h=>hsame (h.symm.trans hrow)]
  · rw [if_neg hrow]
    split
    · exact hfront _
    · rw [get_cons,ih,get_cons]
      by_cases hsame:other=key
      · rw [if_pos hsame,if_pos hsame,if_neg fun h=>hrow (h.trans hsame)]
      · rw [if_neg hsame,if_neg hsame]

theorem get_insert_self (key:κ) (value:α) (rows:List (κ×α)) : get key (insert key value rows)=some value:=by
 rw [get_insert,if_pos rfl]

theorem get_insert_ne (h:other≠key) (value:α) (rows:List (κ×α)) : get other (insert key value rows)=get other rows:=by
 rw [get_insert,if_neg h]

theorem insert_same (h:get key rows=some value) : insert key value rows=rows:=by
 induction rows with
 | nil=>exact (nomatch h)
 | cons row rows ih=>
  rw [get_cons] at h
  rw [insert]
  by_cases hrow:row.1=key
  · rw [if_pos hrow] at h ⊢
    rw [← Option.some.inj h,← hrow]
  · rw [if_neg hrow] at h ⊢
    have hplace:¬(key<row.1 ∧ get key rows=none):=by
     rintro ⟨-,hnone⟩
     rw [hnone] at h
     exact nomatch h
    rw [if_neg hplace,ih h]

end insertion

theorem get_retain (allowed:κ → Bool) (key:κ) (rows:List (κ×α)) :
 get key (retain allowed rows)=if allowed key then get key rows else none:=by
 induction rows with
 | nil=>exact (ite_self none).symm
 | cons row rows ih=>
  unfold retain at ih ⊢
  rw [List.filter_cons]
  by_cases hrow:allowed row.1=true
  · rw [if_pos hrow,get_cons,get_cons,ih]
    by_cases hsame:row.1=key
    · rw [if_pos hsame,if_pos hsame,if_pos (hsame ▸ hrow)]
    · rw [if_neg hsame,if_neg hsame]
  · rw [if_neg hrow,get_cons,ih]
    by_cases hsame:row.1=key
    · rw [if_neg (hsame ▸ hrow),if_neg (hsame ▸ hrow)]
    · rw [if_neg hsame]

theorem retain_same {allowed:κ → Bool} (h:∀ key,allowed key=false → get key rows=none) : retain allowed rows=rows:=by
 refine List.filter_eq_self.mpr fun row hrow=>?_
 by_contra hnot
 have hnone:=h row.1 (Bool.eq_false_iff.mpr hnot)
 rw [get,Option.map_eq_none_iff,List.find?_eq_none] at hnone
 exact hnone row hrow (beq_self_eq_true _)

theorem retain_retain (allowed:κ → Bool) (rows:List (κ×α)) :
 retain allowed (retain allowed rows)=retain allowed rows:=by
 refine retain_same fun key hkey=>?_
 rw [get_retain,hkey]
 rfl

theorem get_remove (key other:κ) (rows:List (κ×α)) :
 get other (remove key rows)=if other=key then none else get other rows:=by
 unfold remove
 rw [get_retain]
 by_cases h:other=key
 · rw [if_pos h,h,bne_self_eq_false,if_neg Bool.false_ne_true]
 · rw [if_neg h,bne_iff_ne.mpr h,if_pos rfl]

theorem get_remove_ne (h:other≠key) (rows:List (κ×α)) : get other (remove key rows)=get other rows:=by
 rw [get_remove,if_neg h]

theorem remove_same (h:get key rows=none) : remove key rows=rows:=by
 refine retain_same fun other hother=>?_
 rw [bne_eq_false_iff_eq] at hother
 rw [hother,h]

theorem remove_cons (key:κ) (row:κ×α) (rows:List (κ×α)) :
 remove key (row::rows)=if row.1=key then remove key rows else row::remove key rows:=by
 unfold remove retain
 rw [List.filter_cons]
 by_cases h:row.1=key
 · rw [if_pos h,if_neg fun hne=>bne_iff_ne.mp hne h]
 · rw [if_neg h,if_pos (bne_iff_ne.mpr h)]

theorem remove_insert [LT κ] [DecidableLT κ] (h:get key rows=none) (value:α) :
 remove key (insert key value rows)=rows:=by
 induction rows with
 | nil=>rw [insert,remove_cons,if_pos rfl]; rfl
 | cons row rows ih=>
  have habsent:=h
  rw [get_cons] at h
  have hrow:row.1≠key:=by
   intro hsame
   rw [if_pos hsame] at h
   exact nomatch h
  rw [if_neg hrow] at h
  rw [insert,if_neg hrow]
  split
  · rw [remove_cons,if_pos rfl,remove_same habsent]
  · rw [remove_cons,if_neg hrow,ih h]

end CursorProxy.FieldMaps
