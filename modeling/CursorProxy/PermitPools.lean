import Mathlib

/-! Pools of permits that are taken and given back. The log of what was issued and of what came
back stands beside the free counts, so that an account can be given of every permit. -/
namespace CursorProxy.PermitPools

variable {α π:Type*} [DecidableEq π]

structure Permit (π:Type*) where
 pool : π
 serial : ℕ
deriving DecidableEq

structure Pools (π:Type*) where
 free : π → ℕ
 issued : List (Permit π)
 returned : List (Permit π)

def Pools.full (capacity:π → ℕ) : Pools π := ⟨capacity,[],[]⟩

def Pools.take (pools:Pools π) (pool:π) : Option (Pools π×Permit π) :=
 if pools.free pool=0 then none
 else
  let permit:=⟨pool,pools.issued.length⟩
  some (⟨fun p=>if p=pool then pools.free p-1 else pools.free p,pools.issued++[permit],
   pools.returned⟩,permit)

def Pools.give (pools:Pools π) (permit:Permit π) : Pools π :=
 ⟨fun p=>if p=permit.pool then pools.free p+1 else pools.free p,pools.issued,
  pools.returned++[permit]⟩

def Pools.giveAll (pools:Pools π) (permits:List (Permit π)) : Pools π :=
 permits.foldl Pools.give pools

def heldIn (held:List (Permit π)) (pool:π) : ℕ :=
 (held.filter fun permit=>permit.pool=pool).length

/-- Every permit that was issued is held or came back, once; and what is not held is free. -/
structure Accounts (capacity:π → ℕ) (pools:Pools π) (held:List (Permit π)) : Prop where
 free : ∀ pool,pools.free pool+heldIn held pool=capacity pool
 once : (held++pools.returned).Perm pools.issued
 serials : pools.issued.map Permit.serial=List.range pools.issued.length

variable {capacity:π → ℕ} {pools pools':Pools π} {held held':List (Permit π)}

theorem heldIn_cons (permit:Permit π) (held:List (Permit π)) (pool:π) :
 heldIn (permit::held) pool=(if permit.pool=pool then 1 else 0)+heldIn held pool:=by
 unfold heldIn
 rw [List.filter_cons]
 by_cases h:permit.pool=pool
 · simp [h]
   omega
 · simp [h]

theorem heldIn_append (held held':List (Permit π)) (pool:π) :
 heldIn (held++held') pool=heldIn held pool+heldIn held' pool:=by
 unfold heldIn
 rw [List.filter_append,List.length_append]

theorem heldIn_perm (h:held.Perm held') (pool:π) : heldIn held pool=heldIn held' pool :=
 (h.filter _).length_eq

theorem heldIn_flatMap (records:List α) (holds:α → List (Permit π)) (pool:π) :
 heldIn (records.flatMap holds) pool = (records.map fun record=>heldIn (holds record) pool).sum:=by
 induction records with
 | nil=>rfl
 | cons record records ih=>
  rw [List.flatMap_cons,heldIn_append,ih,List.map_cons,List.sum_cons]

namespace Accounts

theorem full (capacity:π → ℕ) : Accounts capacity (Pools.full capacity) [] :=
 ⟨fun _=>rfl,List.Perm.refl _,rfl⟩

theorem perm (h:Accounts capacity pools held) (hheld:held.Perm held') : Accounts capacity pools held' :=
 ⟨fun pool=>by rw [← heldIn_perm hheld]; exact h.free pool,
  (hheld.symm.append_right _).trans h.once,h.serials⟩

theorem take {pool:π} {permit:Permit π} (h:Accounts capacity pools held)
 (htake:pools.take pool=some (pools',permit)) : Accounts capacity pools' (permit::held):=by
 unfold Pools.take at htake
 split_ifs at htake with hfree
 obtain ⟨rfl,rfl⟩:=Prod.mk.inj (Option.some.inj htake)
 refine ⟨fun other=>?_,?_,?_⟩
 · have hother:=h.free other
   rw [heldIn_cons]
   by_cases hpool:other=pool
   · subst hpool
     simp
     omega
   · simp [hpool,Ne.symm hpool]
     omega
 · exact (List.Perm.cons _ h.once).trans (List.perm_append_singleton _ _).symm
 · rw [List.map_append,h.serials,List.length_append]
   exact (List.range_succ).symm

theorem give {permit:Permit π} (h:Accounts capacity pools (permit::held)) :
 Accounts capacity (pools.give permit) held:=by
 refine ⟨fun pool=>?_,?_,h.serials⟩
 · have hpool:=h.free pool
   rw [heldIn_cons] at hpool
   unfold Pools.give
   by_cases hsame:permit.pool=pool
   · subst hsame
     simp at hpool ⊢
     omega
   · simp [hsame,Ne.symm hsame] at hpool ⊢
     omega
 · refine List.Perm.trans ?_ h.once
   change (held++(pools.returned++[permit])).Perm (permit::(held++pools.returned))
   rw [← List.append_assoc]
   exact List.perm_append_singleton _ _

theorem giveAll {permits:List (Permit π)} (h:Accounts capacity pools (permits++held)) :
 Accounts capacity (pools.giveAll permits) held:=by
 induction permits generalizing pools with
 | nil=>exact h
 | cons permit permits ih=>exact ih h.give

theorem heldIn_le (h:Accounts capacity pools held) (pool:π) : heldIn held pool ≤ capacity pool:=by
 have hfree:=h.free pool
 omega

theorem nodup (h:Accounts capacity pools held) : pools.issued.Nodup:=by
 have hserials:(pools.issued.map Permit.serial).Nodup:=by
  rw [h.serials]
  exact List.nodup_range
 exact List.Nodup.of_map _ hserials

theorem restored (h:Accounts capacity pools []) : pools.free=capacity ∧ pools.returned.Perm pools.issued :=
 ⟨funext h.free,h.once⟩

end Accounts

variable {β:Type*} {records:List α} {i:ℕ} {record:α}

theorem held_split (h:records[i]?=some record) (holds:α → List β) :
 (records.flatMap holds).Perm (holds record++(records.eraseIdx i).flatMap holds):=by
 obtain ⟨hi,rfl⟩:=List.getElem?_eq_some_iff.mp h
 exact (List.getElem_cons_eraseIdx_perm hi).symm.flatMap_right holds

theorem held_set (h:records[i]?=some record) (next:α) (holds:α → List β) :
 ((records.set i next).flatMap holds).Perm (holds next++(records.eraseIdx i).flatMap holds):=by
 obtain ⟨hi,-⟩:=List.getElem?_eq_some_iff.mp h
 exact (List.set_perm_cons_eraseIdx hi next).flatMap_right holds

end CursorProxy.PermitPools
