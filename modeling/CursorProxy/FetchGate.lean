import CursorProxy.Traces

/-! The callers of `acquire_with_status` run side by side. A step is one atomic section: the
block under the lock of the map, an attempt on a lock, a permit given back, a reference dropped. -/
namespace CursorProxy.FetchGate
open Traces

def maxKeys : ℕ := 512

/-- The mutex behind a key: who has its permit, and who waits for it, the first in front. -/
structure KeyLock where
 holder : Option ℕ
 queue : List ℕ
deriving DecidableEq

namespace KeyLock

def new : KeyLock := ⟨none,[]⟩

def take (lock:KeyLock) (caller:ℕ) : KeyLock := { lock with holder := some caller }

def enqueue (lock:KeyLock) (caller:ℕ) : KeyLock :=
 { lock with queue := lock.queue++[caller] }

/-- A permit that comes back goes to the first that waits; who waits no longer leaves the queue. -/
def leave (lock:KeyLock) (caller:ℕ) : KeyLock :=
 if lock.holder=some caller then ⟨lock.queue.head?,lock.queue.tail⟩
 else { lock with queue := lock.queue.erase caller }

end KeyLock

/-- How far a call of `acquire_with_status` is. A guard that is dropped gives its permit back
before it drops its reference, so that a call that is leaving still refers to its lock. -/
inductive Stage where
 | called
 | cloned (lock:ℕ)
 | refused (lock:ℕ)
 | queued (lock:ℕ)
 | leased (lock:ℕ) (waited:Bool)
 | leaving (lock:ℕ)
 | gone
deriving DecidableEq

namespace Stage

def lock : Stage → Option ℕ
 | .called | .gone=>none
 | .cloned lock | .refused lock | .queued lock | .leased lock _ | .leaving lock=>some lock

/-- A guard that was returned and is not dropped. -/
def live : Stage → Bool
 | .leased _ _=>true
 | _=>false

end Stage

structure Caller (κ:Type*) where
 key : κ
 stage : Stage

structure Gates (κ:Type*) where
 map : List (κ×ℕ)
 locks : List KeyLock
 callers : List (Caller κ)

inductive Event (κ:Type*) where
 | call (key:κ)
 | enter (caller:ℕ) (spared:List κ)
 | tryLock (caller:ℕ)
 | poll (caller:ℕ)
 | dropGuard (caller:ℕ)
 | cancel (caller:ℕ)
 | dropLock (caller:ℕ)

variable {κ:Type*} [DecidableEq κ]

namespace Gates

def initial : Gates κ := ⟨[],[],[]⟩

def stage (g:Gates κ) (caller:ℕ) : Option Stage := (g.callers[caller]?).map Caller.stage

def holder (g:Gates κ) (lock:ℕ) : Option ℕ := (g.locks[lock]?).bind KeyLock.holder

def moveTo (g:Gates κ) (caller:ℕ) (stage:Stage) : Gates κ :=
 { g with callers := g.callers.modify caller fun c=>{ c with stage := stage } }

def update (g:Gates κ) (lock:ℕ) (change:KeyLock → KeyLock) : Gates κ :=
 { g with locks := g.locks.modify lock change }

/-- The entries that `retain` leaves: those with a second reference. A reference that goes away
while `retain` is under way is seen or not, so that more entries may be spared. -/
def retained (g:Gates κ) (spared:List κ) : List (κ×ℕ) :=
 g.map.filter fun entry=>
  entry.1∈spared ∨ ∃ caller∈g.callers,caller.stage.lock=some entry.2

def lockFor (g:Gates κ) (key:κ) (spared:List κ) : Gates κ×ℕ :=
 match g.map.lookup key with
 | some lock=>(g,lock)
 | none=>
  let map:=if maxKeys ≤ g.map.length then g.retained spared else g.map
  ({ g with map := (key,g.locks.length)::map,locks := g.locks++[.new] },g.locks.length)

def step (g:Gates κ) : Event κ → Option (Gates κ)
 | .call key=>some { g with callers := g.callers++[⟨key,.called⟩] }
 | .enter caller spared=>
  match g.callers[caller]? with
  | some ⟨key,.called⟩=>
   let (gates,lock):=g.lockFor key spared
   some (gates.moveTo caller (.cloned lock))
  | _=>none
 | .tryLock caller=>
  match g.stage caller with
  | some (.cloned lock)=>
   if g.holder lock=none then
    some ((g.update lock (·.take caller)).moveTo caller (.leased lock false))
   else some (g.moveTo caller (.refused lock))
  | _=>none
 | .poll caller=>
  match g.stage caller with
  | some (.refused lock)=>
   if g.holder lock=none then
    some ((g.update lock (·.take caller)).moveTo caller (.leased lock true))
   else some ((g.update lock (·.enqueue caller)).moveTo caller (.queued lock))
  | some (.queued lock)=>
   if g.holder lock=some caller then some (g.moveTo caller (.leased lock true)) else none
  | _=>none
 | .dropGuard caller=>
  match g.stage caller with
  | some (.leased lock _)=>
   some ((g.update lock (·.leave caller)).moveTo caller (.leaving lock))
  | _=>none
 | .cancel caller=>
  match g.stage caller with
  | some .called=>some (g.moveTo caller .gone)
  | some (.queued lock)=>
   some ((g.update lock (·.leave caller)).moveTo caller (.leaving lock))
  | _=>none
 | .dropLock caller=>
  match g.stage caller with
  | some (.leaving _)=>some (g.moveTo caller .gone)
  | _=>none

def Held (g:Gates κ) (key:κ) : Prop :=
 ∃ caller∈g.callers,caller.key=key ∧ caller.stage.live=true

end Gates

abbrev Run : Gates κ → List (Event κ) → Gates κ → Prop :=
 Trace fun g event next=>g.step event=some next

/-- What a call does next with its lock, given who holds the permit: the stage it comes to, and
what becomes of the lock. -/
inductive Turn (caller lock:ℕ) (holder:Option ℕ) :
  Stage → Stage → (KeyLock → KeyLock) → Prop where
 | lead (h:holder=none) :
  Turn caller lock holder (.cloned lock) (.leased lock false) (·.take caller)
 | refuse : Turn caller lock holder (.cloned lock) (.refused lock) id
 | follow (h:holder=none) :
  Turn caller lock holder (.refused lock) (.leased lock true) (·.take caller)
 | wait : Turn caller lock holder (.refused lock) (.queued lock) (·.enqueue caller)
 | wake (h:holder=some caller) :
  Turn caller lock holder (.queued lock) (.leased lock true) id
 | release (waited:Bool) :
  Turn caller lock holder (.leased lock waited) (.leaving lock) (·.leave caller)
 | giveUp : Turn caller lock holder (.queued lock) (.leaving lock) (·.leave caller)
 | drop : Turn caller lock holder (.leaving lock) .gone id

section steps
variable {g next:Gates κ} {caller:ℕ} {event:Event κ} {c:Caller κ}

omit [DecidableEq κ] in
theorem stage_eq {stage:Stage} (h:g.stage caller=some stage) : ∃ key,g.callers[caller]?=some ⟨key,stage⟩:=by
 obtain ⟨⟨key,_⟩,hcaller,rfl⟩:=Option.map_eq_some_iff.mp h
 exact ⟨key,hcaller⟩

omit [DecidableEq κ] in
theorem update_id (g:Gates κ) (lock:ℕ) : g.update lock id=g:=by
 unfold Gates.update
 rw [List.modify_id]

theorem step_cases (h:g.step event=some next) : (∃ key,next={ g with callers := g.callers++[⟨key,.called⟩] }) ∨
  (∃ caller key spared,g.callers[caller]?=some ⟨key,.called⟩ ∧
   next=(g.lockFor key spared).1.moveTo caller (.cloned (g.lockFor key spared).2)) ∨
  (∃ caller key,g.callers[caller]?=some ⟨key,.called⟩ ∧ next=g.moveTo caller .gone) ∨
  ∃ caller key lock old new change,g.callers[caller]?=some ⟨key,old⟩ ∧
   Turn caller lock (g.holder lock) old new change ∧
   next=(g.update lock change).moveTo caller new:=by
 cases event with
 | call key=>exact .inl ⟨key,(Option.some.inj h).symm⟩
 | enter caller spared=>
  simp only [Gates.step] at h
  split at h
  · rename_i key hcaller
    exact .inr (.inl ⟨caller,key,spared,hcaller,(Option.some.inj h).symm⟩)
  · exact (nomatch h)
 | tryLock caller=>
  simp only [Gates.step] at h
  split at h
  · rename_i lock hstage
    obtain ⟨key,hcaller⟩:=stage_eq hstage
    split_ifs at h with hfree
    · exact .inr (.inr (.inr ⟨caller,key,lock,_,_,_,hcaller,.lead hfree,(Option.some.inj h).symm⟩))
    · refine .inr (.inr (.inr ⟨caller,key,lock,_,_,_,hcaller,.refuse,?_⟩))
      rw [update_id]
      exact (Option.some.inj h).symm
  · exact (nomatch h)
 | poll caller=>
  simp only [Gates.step] at h
  split at h
  · rename_i lock hstage
    obtain ⟨key,hcaller⟩:=stage_eq hstage
    split_ifs at h with hfree
    · exact .inr (.inr (.inr ⟨caller,key,lock,_,_,_,hcaller,.follow hfree,(Option.some.inj h).symm⟩))
    · exact .inr (.inr (.inr ⟨caller,key,lock,_,_,_,hcaller,.wait,(Option.some.inj h).symm⟩))
  · rename_i lock hstage
    obtain ⟨key,hcaller⟩:=stage_eq hstage
    split_ifs at h with hown
    refine .inr (.inr (.inr ⟨caller,key,lock,_,_,_,hcaller,.wake hown,?_⟩))
    rw [update_id]
    exact (Option.some.inj h).symm
  · exact (nomatch h)
 | dropGuard caller=>
  simp only [Gates.step] at h
  split at h
  · rename_i lock waited hstage
    obtain ⟨key,hcaller⟩:=stage_eq hstage
    exact .inr (.inr (.inr ⟨caller,key,lock,_,_,_,hcaller,.release waited,(Option.some.inj h).symm⟩))
  · exact (nomatch h)
 | cancel caller=>
  simp only [Gates.step] at h
  split at h
  · rename_i hstage
    obtain ⟨key,hcaller⟩:=stage_eq hstage
    exact .inr (.inr (.inl ⟨caller,key,hcaller,(Option.some.inj h).symm⟩))
  · rename_i lock hstage
    obtain ⟨key,hcaller⟩:=stage_eq hstage
    exact .inr (.inr (.inr ⟨caller,key,lock,_,_,_,hcaller,.giveUp,(Option.some.inj h).symm⟩))
  · exact (nomatch h)
 | dropLock caller=>
  simp only [Gates.step] at h
  split at h
  · rename_i lock hstage
    obtain ⟨key,hcaller⟩:=stage_eq hstage
    refine .inr (.inr (.inr ⟨caller,key,lock,_,_,_,hcaller,.drop,?_⟩))
    rw [update_id]
    exact (Option.some.inj h).symm
  · exact (nomatch h)

omit [DecidableEq κ] in
theorem callers_moveTo (hcaller:g.callers[caller]?=some c) (stage:Stage) (other:ℕ) :
  (g.moveTo caller stage).callers[other]? =
   if other=caller then some { c with stage := stage } else g.callers[other]? := by
 unfold Gates.moveTo
 rw [List.getElem?_modify]
 by_cases h:other=caller
 · rw [if_pos h,h,hcaller]
   simp
 · rw [if_neg h]
   simp [Ne.symm h]

theorem callers_lockFor (g:Gates κ) (key:κ) (spared:List κ) : (g.lockFor key spared).1.callers=g.callers:=by
 unfold Gates.lockFor
 split <;> rfl

end steps

/-- Each key has one lock as long as anything refers to it, and who has a guard has the permit. -/
structure Inv (g:Gates κ) : Prop where
 keys : (g.map.map Prod.fst).Nodup
 ids : ∀ entry∈g.map,entry.2<g.locks.length
 refs : ∀ (caller:ℕ) (c:Caller κ) (lock:ℕ),g.callers[caller]?=some c → c.stage.lock=some lock → (c.key,lock)∈g.map
 permits : ∀ (caller:ℕ) (c:Caller κ) (lock:ℕ) (waited:Bool),
  g.callers[caller]?=some c → c.stage=.leased lock waited → g.holder lock=some caller

section invariant
variable {g next:Gates κ} {caller lock:ℕ} {holder:Option ℕ} {old new:Stage} {change:KeyLock → KeyLock} {key:κ}

theorem Turn.old_lock (h:Turn caller lock holder old new change) : old.lock=some lock:=by
 cases h <;> rfl

theorem Turn.new_lock {other:ℕ} (h:Turn caller lock holder old new change)
  (hlock:new.lock=some other) : other=lock:=by
 cases h <;> first | exact (Option.some.inj hlock).symm | exact (nomatch hlock)

theorem Turn.takes {other:ℕ} {waited:Bool} {l:KeyLock} (h:Turn caller lock l.holder old (.leased other waited) change) :
  other=lock ∧ (change l).holder=some caller:=by
 cases h with
 | lead _=>exact ⟨rfl,rfl⟩
 | follow _=>exact ⟨rfl,rfl⟩
 | wake h=>exact ⟨rfl,h⟩

theorem Turn.keeps {other:ℕ} {l:KeyLock} (h:Turn caller lock l.holder old new change)
  (hother:l.holder=some other) (hne:other≠caller) : (change l).holder=some other:=by
 have hleave:(l.leave caller).holder=some other:=by
  unfold KeyLock.leave
  rw [if_neg fun hsame=>hne (Option.some.inj (hother.symm.trans hsame))]
  exact hother
 cases h with
 | lead hfree=>exact (nomatch hother.symm.trans hfree)
 | follow hfree=>exact (nomatch hother.symm.trans hfree)
 | refuse | wait | wake _ | drop=>exact hother
 | release _ | giveUp=>exact hleave

omit [DecidableEq κ] in
theorem holder_update {l:KeyLock} (hl:g.locks[lock]?=some l) (change:KeyLock → KeyLock)
  (other:ℕ) : (g.update lock change).holder other = if other=lock then (change l).holder else g.holder other:=by
 unfold Gates.holder Gates.update
 rw [List.getElem?_modify]
 by_cases h:other=lock
 · rw [if_pos h,h,hl]
   simp
 · rw [if_neg h]
   simp [Ne.symm h]

namespace Inv

omit [DecidableEq κ] in
theorem initial : Inv (Gates.initial : Gates κ) :=
 ⟨List.nodup_nil,fun _ h=>(nomatch h),fun _ _ _ h=>(nomatch h),fun _ _ _ _ h=>(nomatch h)⟩

omit [DecidableEq κ] in
theorem lock_unique (h:Inv g) {lock':ℕ} (hmem:(key,lock)∈g.map) (hmem':(key,lock')∈g.map) : lock=lock' :=
 congrArg Prod.snd (List.inj_on_of_nodup_map h.keys hmem hmem' rfl)

omit [DecidableEq κ] in
theorem called (h:Inv g) (key:κ) : Inv { g with callers := g.callers++[⟨key,.called⟩] }:=by
 have hold (caller:ℕ) (c:Caller κ) (hcaller:(g.callers++[(⟨key,.called⟩ : Caller κ)])[caller]?=some c) :
   g.callers[caller]?=some c ∨ c.stage=.called:=by
  rw [List.getElem?_append] at hcaller
  split_ifs at hcaller
  · exact .inl hcaller
  · obtain rfl:=List.mem_singleton.mp (List.mem_of_getElem? hcaller)
    exact .inr rfl
 refine ⟨h.keys,h.ids,fun caller c lock hcaller hlock=>?_,
  fun caller c lock waited hcaller hstage=>?_⟩
 · rcases hold caller c hcaller with hin | hnew
   · exact h.refs caller c lock hin hlock
   · rw [hnew] at hlock
     exact (nomatch hlock)
 · rcases hold caller c hcaller with hin | hnew
   · exact h.permits caller c lock waited hin hstage
   · exact (nomatch hnew.symm.trans hstage)

omit [DecidableEq κ] in
theorem moveTo (h:Inv g) {c:Caller κ} (hcaller:g.callers[caller]?=some c)
  (hlock:∀ other,new.lock=some other → (c.key,other)∈g.map)
  (htakes:∀ other waited,new=.leased other waited → (g.update lock change).holder other=some caller)
  (hkeeps:∀ other held,other≠caller → g.holder held=some other → (g.update lock change).holder held=some other) :
  Inv ((g.update lock change).moveTo caller new):=by
 have hmoved:=callers_moveTo (g := g.update lock change) hcaller new
 refine ⟨h.keys,fun entry hentry=>?_,fun other d held hother hheld=>?_,
  fun other d held waited hother hstage=>?_⟩
 · exact Nat.lt_of_lt_of_eq (h.ids entry hentry) (List.length_modify _ _ _).symm
 · rw [hmoved] at hother
   split_ifs at hother
   · obtain rfl:=Option.some.inj hother
     exact hlock held hheld
   · exact h.refs other d held hother hheld
 · rw [hmoved] at hother
   split_ifs at hother with hsame
   · obtain rfl:=Option.some.inj hother
     rw [hsame]
     exact htakes held waited hstage
   · exact hkeeps other held hsame (h.permits other d held waited hother hstage)

omit [DecidableEq κ] in
theorem idle (h:Inv g) {c:Caller κ} (hcaller:g.callers[caller]?=some c)
  (hlock:∀ other,new.lock=some other → (c.key,other)∈g.map) (hlive:new.live=false) : Inv (g.moveTo caller new):=by
 have hmoved:Inv ((g.update 0 id).moveTo caller new) :=
  h.moveTo hcaller hlock (fun other waited hnew=>by rw [hnew] at hlive; exact (nomatch hlive))
   (fun other held _ hholder=>by rwa [update_id])
 rwa [update_id] at hmoved

omit [DecidableEq κ] in
theorem turn (h:Inv g) (hcaller:g.callers[caller]?=some ⟨key,old⟩)
  (hturn:Turn caller lock (g.holder lock) old new change) : Inv ((g.update lock change).moveTo caller new):=by
 have hmem:(key,lock)∈g.map:=h.refs caller _ lock hcaller hturn.old_lock
 obtain ⟨l,hl⟩ : ∃ l,g.locks[lock]?=some l:=⟨_,List.getElem?_eq_getElem (h.ids _ hmem)⟩
 have hholder:g.holder lock=l.holder:=by
  unfold Gates.holder
  rw [hl]
  rfl
 rw [hholder] at hturn
 refine h.moveTo hcaller (fun other hother=>?_) (fun other waited hnew=>?_)
  fun other held hne hheld=>?_
 · rw [hturn.new_lock hother]
   exact hmem
 · subst hnew
   obtain ⟨rfl,htaken⟩:=hturn.takes
   rw [holder_update hl,if_pos rfl]
   exact htaken
 · rw [holder_update hl]
   split_ifs with hsame
   · subst hsame
     exact hturn.keeps (hholder.symm.trans hheld) hne
   · exact hheld

theorem retained (h:Inv g) (spared:List κ) {c:Caller κ}
  (hcaller:g.callers[caller]?=some c) (hlock:c.stage.lock=some lock) : (c.key,lock)∈g.retained spared :=
 List.mem_filter.mpr ⟨h.refs caller c lock hcaller hlock,
  decide_eq_true (.inr ⟨c,List.mem_of_getElem? hcaller,hlock⟩)⟩

theorem lockFor (h:Inv g) (key:κ) (spared:List κ) :
  Inv (g.lockFor key spared).1 ∧ (key,(g.lockFor key spared).2)∈(g.lockFor key spared).1.map:=by
 unfold Gates.lockFor
 cases hlookup:g.map.lookup key with
 | some lock=>
  obtain ⟨before,after,hmap,-⟩:=List.lookup_eq_some_iff.mp hlookup
  refine ⟨h,?_⟩
  rw [hmap]
  exact List.mem_append_right _ List.mem_cons_self
 | none=>
  refine ⟨?_,List.mem_cons_self⟩
  have hsub:(if maxKeys ≤ g.map.length then g.retained spared else g.map).Sublist g.map:=by
   split_ifs
   · exact List.filter_sublist
   · exact .refl _
  have hfresh:key ∉ g.map.map Prod.fst:=by
   intro hmem
   obtain ⟨entry,hentry,rfl⟩:=List.mem_map.mp hmem
   have hne:=List.lookup_eq_none_iff.mp hlookup entry hentry
   rw [bne_self_eq_false] at hne
   exact (nomatch hne)
  refine ⟨List.nodup_cons.mpr ⟨fun hmem=>hfresh ((hsub.map _).subset hmem),
   h.keys.sublist (hsub.map _)⟩,fun entry hentry=>?_,
   fun caller c lock hcaller hlock=>List.mem_cons_of_mem _ ?_,
   fun caller c lock waited hcaller hstage=>?_⟩
  · rw [List.length_append]
    rcases List.mem_cons.mp hentry with rfl | hentry
    · exact Nat.lt_succ_self _
    · exact Nat.lt_succ_of_lt (h.ids entry (hsub.subset hentry))
  · split_ifs
    · exact h.retained spared hcaller hlock
    · exact h.refs caller c lock hcaller hlock
  · have hin:lock<g.locks.length :=
     h.ids _ (h.refs caller c lock hcaller (by rw [hstage]; rfl))
    have hholder:=h.permits caller c lock waited hcaller hstage
    unfold Gates.holder at hholder ⊢
    rwa [List.getElem?_append_left hin]

theorem step {event:Event κ} (h:Inv g) (hstep:g.step event=some next) : Inv next:=by
 rcases step_cases hstep with ⟨key,rfl⟩ | ⟨caller,key,spared,hcaller,rfl⟩ |
  ⟨caller,key,hcaller,rfl⟩ | ⟨caller,key,lock,old,new,change,hcaller,hturn,rfl⟩
 · exact h.called key
 · obtain ⟨hinv,hmem⟩:=h.lockFor key spared
   rw [← callers_lockFor g key spared] at hcaller
   refine hinv.idle hcaller (fun other hother=>?_) rfl
   obtain rfl:=Option.some.inj hother
   exact hmem
 · exact h.idle hcaller (fun other hother=>(nomatch hother)) rfl
 · exact h.turn hcaller hturn

theorem run {events:List (Event κ)} (hrun:Run Gates.initial events g) : Inv g :=
 hrun.invariant Inv (fun _ _ _ _ h hstep=>h.step hstep) .initial

end Inv

end invariant

/-- The stages of a call that was refused, and those after them. -/
def Stage.followed : Stage → Bool
 | .refused _ | .queued _ | .leased _ true | .leaving _ | .gone=>true
 | .called | .cloned _ | .leased _ false=>false

section flights
variable {g next:Gates κ} {event:Event κ} {caller other:ℕ} {c d:Caller κ} {key:κ}

theorem Turn.followed {lock:ℕ} {holder:Option ℕ} {old new:Stage}
  {change:KeyLock → KeyLock} (h:Turn caller lock holder old new change)
  (hold:old.followed=true) : new.followed=true:=by
 cases h with
 | lead _ | refuse=>exact (nomatch hold)
 | follow _ | wait | wake _ | release _ | giveUp | drop=>rfl

omit [DecidableEq κ] in
theorem followed_moveTo {new:Stage} (hcaller:g.callers[caller]?=some c)
  (hc:c.stage.followed=true) (hother:g.callers[other]?=some d) (hnew:d.stage.followed=true → new.followed=true) :
  ∃ e,(g.moveTo other new).callers[caller]?=some e ∧ e.stage.followed=true:=by
 rw [callers_moveTo hother]
 split_ifs with hsame
 · subst hsame
   obtain rfl:=Option.some.inj (hcaller.symm.trans hother)
   exact ⟨_,rfl,hnew hc⟩
 · exact ⟨c,hcaller,hc⟩

theorem followed_step (hstep:g.step event=some next) (hcaller:g.callers[caller]?=some c)
  (hc:c.stage.followed=true) : ∃ e,next.callers[caller]?=some e ∧ e.stage.followed=true:=by
 rcases step_cases hstep with ⟨key,rfl⟩ | ⟨other,key,spared,hother,rfl⟩ |
  ⟨other,key,hother,rfl⟩ | ⟨other,key,lock,old,new,change,hother,hturn,rfl⟩
 · refine ⟨c,?_,hc⟩
   rw [List.getElem?_append_left (List.getElem?_eq_some_iff.mp hcaller).1]
   exact hcaller
 · rw [← callers_lockFor g key spared] at hcaller hother
   exact followed_moveTo hcaller hc hother fun hcalled=>(nomatch hcalled)
 · exact followed_moveTo hcaller hc hother fun hcalled=>(nomatch hcalled)
 · exact followed_moveTo (g := g.update lock change) hcaller hc hother hturn.followed

theorem followed_run {events:List (Event κ)} {last:Gates κ} (hrun:Run g events last)
  (hcaller:g.callers[caller]?=some c) (hc:c.stage.followed=true) :
  ∃ e,last.callers[caller]?=some e ∧ e.stage.followed=true :=
 hrun.invariant (fun g=>∃ e,g.callers[caller]?=some e ∧ e.stage.followed=true)
  (fun _ _ _ _ h hstep=>h.elim fun _ he=>followed_step hstep he.1 he.2) ⟨c,hcaller,hc⟩

theorem live_eq {stage:Stage} (h:stage.live=true) : ∃ lock waited,stage=.leased lock waited:=by
 cases stage with
 | leased lock waited=>exact ⟨lock,waited,rfl⟩
 | called | cloned _ | refused _ | queued _ | leaving _ | gone=>exact (nomatch h)

omit [DecidableEq κ] in
theorem Inv.held (h:Inv g) (hheld:g.Held key) {lock:ℕ} (hmem:(key,lock)∈g.map) :
  ∃ other d waited,g.callers[other]?=some d ∧ d.stage=.leased lock waited ∧ g.holder lock=some other:=by
 obtain ⟨d,hd,rfl,hlive⟩:=hheld
 obtain ⟨other,hother⟩:=List.mem_iff_getElem?.mp hd
 obtain ⟨lock',waited,hstage⟩:=live_eq hlive
 have hmem':(d.key,lock')∈g.map:=h.refs other d lock' hother (by rw [hstage]; rfl)
 obtain rfl:=h.lock_unique hmem hmem'
 exact ⟨other,d,waited,hother,hstage,h.permits other d lock waited hother hstage⟩

omit [DecidableEq κ] in
theorem Inv.live_unique (h:Inv g) (hcaller:g.callers[caller]?=some c)
  (hother:g.callers[other]?=some d) (hc:c.stage.live=true) (hd:d.stage.live=true)
  (hkey:c.key=d.key) : caller=other:=by
 obtain ⟨lock,waited,hstage⟩:=live_eq hc
 obtain ⟨lock',waited',hstage'⟩:=live_eq hd
 have hmem:=h.refs caller c lock hcaller (by rw [hstage]; rfl)
 have hmem':=h.refs other d lock' hother (by rw [hstage']; rfl)
 rw [← hkey] at hmem'
 obtain rfl:=h.lock_unique hmem hmem'
 have hholder:=h.permits caller c lock waited hcaller hstage
 exact Option.some.inj (hholder.symm.trans (h.permits other d lock waited' hother hstage'))

theorem Inv.lead (h:Inv g) (hstep:g.step event=some next) (hcaller:g.callers[caller]?=some c) (hc:c.stage.live=false)
  (hnext:next.callers[caller]?=some d) {lock:ℕ} (hd:d.stage=.leased lock false) : ¬g.Held c.key:=by
 intro hheld
 have hmoved (gates:Gates κ) {other:ℕ} {e:Caller κ} {stage:Stage}
   (hcallers:gates.callers[caller]?=some c) (hother:gates.callers[other]?=some e)
   (hmove:(gates.moveTo other stage).callers[caller]?=some d) : c=e ∧ stage=.leased lock false:=by
  rw [callers_moveTo hother] at hmove
  split_ifs at hmove with hsame
  · obtain rfl:=Option.some.inj hmove
    rw [hsame] at hcallers
    exact ⟨Option.some.inj (hcallers.symm.trans hother),hd⟩
  · obtain rfl:=Option.some.inj (hcallers.symm.trans hmove)
    rw [hd] at hc
    exact (nomatch hc)
 rcases step_cases hstep with ⟨key,rfl⟩ | ⟨other,key,spared,hother,rfl⟩ |
  ⟨other,key,hother,rfl⟩ | ⟨other,key,lock',old,new,change,hother,hturn,rfl⟩
 · rw [List.getElem?_append_left (List.getElem?_eq_some_iff.mp hcaller).1] at hnext
   obtain rfl:=Option.some.inj (hcaller.symm.trans hnext)
   rw [hd] at hc
   exact (nomatch hc)
 · rw [← callers_lockFor g key spared] at hcaller hother
   exact (nomatch (hmoved _ hcaller hother hnext).2)
 · exact (nomatch (hmoved g hcaller hother hnext).2)
 · obtain ⟨rfl,hnew⟩:=hmoved (g.update lock' change) hcaller hother hnext
   subst hnew
   have hmem:=h.refs other _ lock' hother hturn.old_lock
   obtain ⟨_,_,_,_,_,hholder⟩:=h.held hheld hmem
   cases hturn with
   | lead hfree=>exact (nomatch hholder.symm.trans hfree)

theorem Inv.refuse (h:Inv g) (hstep:g.step (.tryLock caller)=some next)
  (hcaller:g.callers[caller]?=some c) (hheld:g.Held c.key) :
  ∃ e,next.callers[caller]?=some e ∧ e.stage.followed=true:=by
 simp only [Gates.step] at hstep
 split at hstep
 · rename_i lock hstage
   obtain ⟨key,hstage⟩:=stage_eq hstage
   obtain rfl:=Option.some.inj (hcaller.symm.trans hstage)
   have hmem:=h.refs caller _ lock hcaller rfl
   obtain ⟨_,_,_,_,_,hholder⟩:=h.held hheld hmem
   have hfree:g.holder lock≠none:=Option.ne_none_iff_exists'.mpr ⟨_,hholder⟩
   rw [if_neg hfree] at hstep
   obtain rfl:=Option.some.inj hstep
   rw [callers_moveTo hcaller,if_pos rfl]
   exact ⟨_,rfl,rfl⟩
 · exact (nomatch hstep)

end flights

/-- After any run there is at most one live guard of a key. Who obtains a guard as the leader
obtains it while no guard of the key is live, and who tries the lock while one is live does not
report itself as the leader, whatever happens next. -/
theorem single_flight {events:List (Event κ)} {g:Gates κ} (run:Run Gates.initial events g) :
    (∀ (i j:ℕ) (c d:Caller κ),g.callers[i]?=some c → g.callers[j]?=some d →
      c.stage.live=true → d.stage.live=true → c.key=d.key → i=j) ∧
    (∀ (event:Event κ) (next:Gates κ) (i:ℕ) (c d:Caller κ) (lock:ℕ),
      g.step event=some next → g.callers[i]?=some c → c.stage.live=false →
      next.callers[i]?=some d → d.stage=.leased lock false → ¬g.Held c.key) ∧
    ∀ (i:ℕ) (c:Caller κ) (next:Gates κ),g.callers[i]?=some c → g.Held c.key →
      g.step (.tryLock i)=some next → ∀ (later:List (Event κ)) (last:Gates κ),
      Run next later last → ∀ d lock,last.callers[i]?=some d → d.stage ≠ .leased lock false:=by
  have hinv:=Inv.run run
  refine ⟨fun i j c d hc hd=>hinv.live_unique hc hd,
    fun event next i c d lock hstep hc hlive hd=>hinv.lead hstep hc hlive hd,
    fun i c next hc hheld hstep later last hlater d lock hd hstage=>?_⟩
  obtain ⟨e,he,hfollowed⟩:=hinv.refuse hstep hc hheld
  obtain ⟨f,hf,hlast⟩:=followed_run hlater he hfollowed
  obtain rfl:=Option.some.inj (hf.symm.trans hd)
  rw [hstage] at hlast
  exact (nomatch hlast)

/-- Two calls for one key, the first of which has tried the lock. -/
def contest : List (Event ℕ) := [.call 7,.call 7,.enter 0 [],.enter 1 [],.tryLock 0]

def contested : Gates ℕ := ⟨[(7,0)],[⟨some 0,[]⟩],[⟨7,.leased 0 false⟩,⟨7,.cloned 0⟩]⟩

def refused : Gates ℕ := { contested with callers := [⟨7,.leased 0 false⟩,⟨7,.refused 0⟩] }

/-- The second waits, and goes on as the guard of the first is dropped. -/
def handover : List (Event ℕ) := [.poll 1,.dropGuard 0,.dropLock 0,.poll 1]

def handedOver : Gates ℕ := ⟨[(7,0)],[⟨some 1,[]⟩],[⟨7,.gone⟩,⟨7,.leased 0 true⟩]⟩

theorem single_flight_handover :
    contested.Held 7 ∧ contested.step (.tryLock 1)=some refused ∧ handedOver.callers[1]?=some ⟨7,.leased 0 true⟩ ∧
      ∀ lock,Stage.leased 0 true ≠ .leased lock false:=by
  have hcontest:Run Gates.initial contest contested :=
    .cons rfl <| .cons rfl <| .cons rfl <| .cons rfl <| .cons rfl (.nil _)
  have hhandover:Run refused handover handedOver :=
    .cons rfl <| .cons rfl <| .cons rfl <| .cons rfl (.nil _)
  have hheld:contested.Held 7:=⟨⟨7,.leased 0 false⟩,List.mem_cons_self,rfl,rfl⟩
  exact ⟨hheld,rfl,rfl,fun lock=>(single_flight hcontest).2.2 1 ⟨7,.cloned 0⟩ refused rfl
    hheld rfl handover handedOver hhandover ⟨7,.leased 0 true⟩ lock rfl⟩

end CursorProxy.FetchGate
