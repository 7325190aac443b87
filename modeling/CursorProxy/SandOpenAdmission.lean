import CursorProxy.SandOpenAccounting

namespace CursorProxy.SandOpenAdmission
open SandOpenGate SandOpenAccounting PermitPools Traces

variable {κ:Type*} {settings:SandOpenSettings} {s t u:SandOpenState κ} {place:ℕ} {o:Opening κ} {now:ℚ}

/-- Every scheduler that there was is related to what it has become. -/
def Each (R:SandColdOpenScheduler → SandColdOpenScheduler → Prop) (before after:List SandColdOpenScheduler) : Prop :=
 ∀ (id:ℕ) x,before[id]?=some x → ∃ y,after[id]?=some y ∧ R x y

def Refilled (x y:SandColdOpenScheduler) : Prop := y=x ∨ ∃ now,y=x.refill now

section each
variable {R:SandColdOpenScheduler → SandColdOpenScheduler → Prop}
 {schedulers:List SandColdOpenScheduler} {x y:SandColdOpenScheduler} {id:ℕ}

theorem Each.refl (hrefl:∀ x,R x x) (schedulers:List SandColdOpenScheduler) : Each R schedulers schedulers :=
 fun _ x hx=>⟨x,hx,hrefl x⟩

theorem Each.set (hrefl:∀ x,R x x) (hx:schedulers[id]?=some x) (hxy:R x y) :
  Each R schedulers (schedulers.set id y):=by
 intro other z hz
 rw [List.getElem?_set]
 by_cases h:id=other
 · subst h
   obtain rfl:=Option.some.inj (hx.symm.trans hz)
   exact ⟨y,by rw [if_pos rfl,if_pos (List.getElem?_eq_some_iff.mp hx).1],hxy⟩
 · exact ⟨z,by rw [if_neg h]; exact hz,hrefl z⟩

theorem Each.modify (hrefl:∀ x,R x x) {change:SandColdOpenScheduler → SandColdOpenScheduler}
  (hchange:∀ x,schedulers[id]?=some x → R x (change x)) : Each R schedulers (schedulers.modify id change):=by
 intro other z hz
 rw [List.getElem?_modify,hz]
 by_cases h:id=other
 · subst h
   exact ⟨change z,congrArg some (if_pos rfl),hchange z hz⟩
 · exact ⟨z,congrArg some (if_neg h),hrefl z⟩

end each

def admitting : Stage → Bool
 | .admitted _ _ _ _ _ _ _ | .closed=>false
 | .releasing _ _ _ again | .unreserving _ again=>again
 | _=>true

/-- The sections of an admission, as against those of a permit that was given. -/
def Admission (s:SandOpenState κ) : Action κ → Prop
 | .admitSandOpenUntil _ _ _ | .attempt _ _ | .giveUp _=>True
 | .advance place _=>∃ o,s.openings[place]?=some o ∧ admitting o.stage=true
 | .recordOpenOutcome _ _ | .recordOpenNeutral _ | .drop _=>False

theorem pace_untouched (h:Inv settings s) {id:ℕ} {granted:Bool}
  (hpace:s.pace id now=some (t,granted)) : Each Untouched s.schedulers t.schedulers:=by
 obtain ⟨x,hx,-,rfl⟩:=pace_spec hpace
 exact Each.set Untouched.refl hx ((h.bounded id x hx).tryAcquireNow_untouched now)

theorem advance_untouched (h:Inv settings s) (ho:s.openings[place]?=some o)
  (hadmitting:admitting o.stage=true) (hstep:s.advance place o now=some t) :
  Each Untouched s.schedulers t.schedulers:=by
 have hsame:=Each.refl Untouched.refl s.schedulers
 cases hstage:o.stage with
 | waiting=>simp [SandOpenState.advance,hstage] at hstep
 | closed=>simp [SandOpenState.advance,hstage] at hstep
 | admitted lane a g globalCold routeCold calls dropped=>
  rw [hstage] at hadmitting
  cases hadmitting
 | located lane=>
  simp only [SandOpenState.advance,hstage] at hstep
  split at hstep <;>
  · obtain rfl:=Option.some.inj hstep
    exact hsame
 | reserved lane g=>
  simp only [SandOpenState.advance,hstage] at hstep
  split at hstep <;>
  · obtain rfl:=Option.some.inj hstep
    exact hsame
 | bulkheads lane a g=>
  simp only [SandOpenState.advance,hstage] at hstep
  obtain ⟨⟨next,granted⟩,hpace,rfl⟩:=Option.map_eq_some_iff.mp hstep
  have hpaced:=pace_untouched h hpace
  exact hpaced
 | paced lane a g cold=>
  simp only [SandOpenState.advance,hstage] at hstep
  obtain ⟨⟨next,granted⟩,hpace,rfl⟩:=Option.map_eq_some_iff.mp hstep
  have hpaced:=pace_untouched h hpace
  exact hpaced
 | refused lane a g cold=>
  simp only [SandOpenState.advance,hstage] at hstep
  obtain rfl:=Option.some.inj hstep
  obtain ⟨scheduler,completed⟩:=cold
  cases completed with
  | true=>exact hsame
  | false=>
   have hpending:=h.pending_le ho scheduler
   rw [hstage] at hpending
   change pendingIn [⟨scheduler,false⟩] scheduler ≤ _ at hpending
   rw [pendingIn_fresh,if_pos rfl] at hpending
   refine Each.modify Untouched.refl fun x hx=>cancel_untouched ?_
   unfold inFlight at hpending
   rw [hx] at hpending
   exact hpending
 | releasing lane a g again=>
  simp only [SandOpenState.advance,hstage] at hstep
  obtain rfl:=Option.some.inj hstep
  exact hsame
 | unreserving g again=>
  simp only [SandOpenState.advance,hstage] at hstep
  obtain rfl:=Option.some.inj hstep
  exact hsame

/-- The sections of one caller that lead it back to its wait. -/
inductive Returns (place:ℕ) : SandOpenState κ → SandOpenState κ → Prop where
 | back {s:SandOpenState κ} {o:Opening κ} (ho:s.openings[place]?=some o)
   (hstage:o.stage=.waiting) : Returns place s s
 | advance {s t u:SandOpenState κ} {o:Opening κ} (now:ℚ)
   (ho:s.openings[place]?=some o) (hstep:s.advance place o now=some u)
   (hrest:Returns place u t) : Returns place s t

theorem setStage_opening (ho:s.openings[place]?=some o) (stage:Stage) :
  (s.setStage place o stage).openings[place]?=some { o with stage := stage }:=by
 obtain ⟨hplace,-⟩:=List.getElem?_eq_some_iff.mp ho
 exact List.getElem?_set_self hplace

namespace Returns

theorem waiting (h:Returns place s t) (ho:s.openings[place]?=some o) (hstage:o.stage=.waiting) : t=s:=by
 cases h with
 | back _ _=>rfl
 | advance now ho' hstep hrest=>
  obtain rfl:=Option.some.inj (ho.symm.trans ho')
  simp [SandOpenState.advance,hstage] at hstep

theorem next (h:Returns place s t) (ho:s.openings[place]?=some o) (hstage:o.stage ≠ .waiting) :
  ∃ now u,s.advance place o now=some u ∧ Returns place u t:=by
 cases h with
 | back ho' hwaiting=>
  obtain rfl:=Option.some.inj (ho.symm.trans ho')
  exact absurd hwaiting hstage
 | advance now ho' hstep hrest=>
  obtain rfl:=Option.some.inj (ho.symm.trans ho')
  exact ⟨now,_,hstep,hrest⟩

variable {lane a g:ℕ}

theorem unreserving (h:Returns place s t) (ho:s.openings[place]?=some o) (hstage:o.stage=.unreserving g true) :
  t.pools=s.pools.give ⟨.global,g⟩ ∧ t.schedulers=s.schedulers:=by
 obtain ⟨now,u,hstep,hrest⟩:=h.next ho (by rw [hstage]; nofun)
 simp only [SandOpenState.advance,hstage] at hstep
 obtain rfl:=Option.some.inj hstep
 obtain rfl:=hrest.waiting (setStage_opening ho _) rfl
 exact ⟨rfl,rfl⟩

theorem releasing (h:Returns place s t) (ho:s.openings[place]?=some o) (hstage:o.stage=.releasing lane a g true) :
  t.pools=(s.pools.give ⟨.lane lane,a⟩).give ⟨.global,g⟩ ∧ t.schedulers=s.schedulers:=by
 obtain ⟨now,u,hstep,hrest⟩:=h.next ho (by rw [hstage]; nofun)
 simp only [SandOpenState.advance,hstage] at hstep
 obtain rfl:=Option.some.inj hstep
 exact hrest.unreserving (setStage_opening ho _) rfl

theorem refused (h:Returns place s t) (ho:s.openings[place]?=some o) (hstage:o.stage=.refused lane a g ⟨0,false⟩) :
  t.pools=(s.pools.give ⟨.lane lane,a⟩).give ⟨.global,g⟩ ∧
   t.schedulers=s.schedulers.modify 0 SandColdOpenScheduler.cancel:=by
 obtain ⟨now,u,hstep,hrest⟩:=h.next ho (by rw [hstage]; nofun)
 simp only [SandOpenState.advance,hstage] at hstep
 obtain rfl:=Option.some.inj hstep
 exact hrest.releasing (setStage_opening ho _) rfl

theorem admitted (h:Returns place s t) (ho:s.openings[place]?=some o) {globalCold routeCold:SandColdOpenPermit}
  (hstage:o.stage=.admitted lane a g globalCold routeCold [] false) : False:=by
 obtain ⟨now,u,hstep,hrest⟩:=h.next ho (by rw [hstage]; nofun)
 simp [SandOpenState.advance,hstage] at hstep

theorem tryAcquireNow_refused {x:SandColdOpenScheduler}
  (h:false=(x.tryAcquireNow now).2) : (x.tryAcquireNow now).1=x.refill now:=by
 rcases tryAcquireNow_cases x now with hcase | ⟨-,hcase⟩
 · rw [hcase]
 · rw [hcase] at h
   exact (nomatch h)

theorem paced (h:Returns place s t) (ho:s.openings[place]?=some o) (hstage:o.stage=.paced lane a g ⟨0,false⟩) :
  t.pools=(s.pools.give ⟨.lane lane,a⟩).give ⟨.global,g⟩ ∧
   ∃ x now,s.schedulers[o.scheduler]?=some x ∧
    t.schedulers=(s.schedulers.set o.scheduler (x.refill now)).modify 0 SandColdOpenScheduler.cancel:=by
 obtain ⟨now,u,hstep,hrest⟩:=h.next ho (by rw [hstage]; nofun)
 simp only [SandOpenState.advance,hstage] at hstep
 obtain ⟨⟨next,granted⟩,hpace,rfl⟩:=Option.map_eq_some_iff.mp hstep
 obtain ⟨x,hx,hgranted,rfl⟩:=pace_spec hpace
 cases granted with
 | true=>exact (hrest.admitted (setStage_opening ho _) rfl).elim
 | false=>
  obtain ⟨hpools,hschedulers⟩:=hrest.refused (setStage_opening ho _) rfl
  refine ⟨hpools,x,now,hx,hschedulers.trans ?_⟩
  rw [← tryAcquireNow_refused hgranted]
  rfl

theorem bulkheads (h:Returns place s t) (ho:s.openings[place]?=some o)
  (hbounded:∀ (id:ℕ) x,s.schedulers[id]?=some x → Bounded x) (hid:0<o.scheduler)
  (hstage:o.stage=.bulkheads lane a g) :
  t.pools=(s.pools.give ⟨.lane lane,a⟩).give ⟨.global,g⟩ ∧ Each Refilled s.schedulers t.schedulers:=by
 have hrefl:∀ x,Refilled x x:=fun x=>Or.inl rfl
 obtain ⟨now,u,hstep,hrest⟩:=h.next ho (by rw [hstage]; nofun)
 simp only [SandOpenState.advance,hstage] at hstep
 obtain ⟨⟨next,granted⟩,hpace,rfl⟩:=Option.map_eq_some_iff.mp hstep
 obtain ⟨x,hx,hgranted,rfl⟩:=pace_spec hpace
 cases granted with
 | false=>
  obtain ⟨hpools,hschedulers⟩:=hrest.releasing (setStage_opening ho _) rfl
  refine ⟨hpools,hschedulers ▸ ?_⟩
  rw [tryAcquireNow_refused hgranted]
  exact Each.set hrefl hx (Or.inr ⟨now,rfl⟩)
 | true=>
  obtain ⟨hpools,y,later,hy,hschedulers⟩:=hrest.paced (setStage_opening ho _) rfl
  refine ⟨hpools,fun id z hz=>?_⟩
  rw [hschedulers]
  change ∃ y',((((s.schedulers.set 0 (x.tryAcquireNow now).1).set o.scheduler
   (y.refill later)).modify 0 SandColdOpenScheduler.cancel)[id]?)=some y' ∧ _
  rw [List.getElem?_modify,List.getElem?_set,List.getElem?_set,List.length_set]
  by_cases hfront:0=id
  · subst hfront
    obtain rfl:=Option.some.inj (hx.symm.trans hz)
    rw [if_neg (Nat.ne_of_gt hid),if_pos rfl,if_pos (List.getElem?_eq_some_iff.mp hx).1]
    exact ⟨_,rfl,Or.inr ⟨now,(hbounded 0 x hx).cancel_granted hgranted.symm⟩⟩
  · by_cases hroute:o.scheduler=id
    · subst hroute
      have hin:=(List.getElem?_eq_some_iff.mp hz).1
      have hsame:y=z:=by
       change (s.schedulers.set 0 _)[o.scheduler]?=some y at hy
       rw [List.getElem?_set_ne hfront] at hy
       exact Option.some.inj (hy.symm.trans hz)
      subst hsame
      rw [if_pos rfl,if_pos hin]
      exact ⟨_,congrArg some (if_neg hfront),Or.inr ⟨later,rfl⟩⟩
    · rw [if_neg hroute,if_neg hfront,hz]
      exact ⟨z,congrArg some (if_neg hfront),hrefl z⟩

theorem take_free {pools pools':Pools Pool} {pool:Pool} {permit:Permit Pool}
  (htake:pools.take pool=some (pools',permit)) (serial:ℕ) : (pools'.give ⟨pool,serial⟩).free=pools.free:=by
 unfold Pools.take at htake
 split_ifs at htake with hempty
 obtain ⟨rfl,rfl⟩:=Prod.mk.inj (Option.some.inj htake)
 funext other
 unfold Pools.give
 by_cases h:other=pool
 · subst h
   simp
   omega
 · simp [h]

theorem give_free {pools pools':Pools Pool} (h:pools.free=pools'.free)
  (permit:Permit Pool) : (pools.give permit).free=(pools'.give permit).free:=by
 unfold Pools.give
 dsimp only
 rw [h]

theorem reserved (h:Returns place s t) (ho:s.openings[place]?=some o)
  (hbounded:∀ (id:ℕ) x,s.schedulers[id]?=some x → Bounded x) (hid:0<o.scheduler) (hstage:o.stage=.reserved lane g) :
  t.pools.free=(s.pools.give ⟨.global,g⟩).free ∧ Each Refilled s.schedulers t.schedulers:=by
 obtain ⟨now,u,hstep,hrest⟩:=h.next ho (by rw [hstage]; nofun)
 simp only [SandOpenState.advance,hstage] at hstep
 split at hstep
 · rename_i pools permit htake
   obtain rfl:=Option.some.inj hstep
   obtain ⟨hpools,hschedulers⟩:=hrest.bulkheads (setStage_opening ho _) hbounded hid rfl
   exact ⟨hpools ▸ give_free (take_free htake permit.serial) _,hschedulers⟩
 · obtain rfl:=Option.some.inj hstep
   obtain ⟨hpools,hschedulers⟩:=hrest.unreserving (setStage_opening ho _) rfl
   exact ⟨hpools ▸ rfl,hschedulers ▸ Each.refl (fun x=>Or.inl rfl) _⟩

theorem located (h:Returns place s t) (ho:s.openings[place]?=some o)
  (hbounded:∀ (id:ℕ) x,s.schedulers[id]?=some x → Bounded x) (hid:0<o.scheduler) (hstage:o.stage=.located lane) :
  t.pools.free=s.pools.free ∧ Each Refilled s.schedulers t.schedulers:=by
 obtain ⟨now,u,hstep,hrest⟩:=h.next ho (by rw [hstage]; nofun)
 simp only [SandOpenState.advance,hstage] at hstep
 split at hstep
 · rename_i pools permit htake
   obtain rfl:=Option.some.inj hstep
   obtain ⟨hfree,hschedulers⟩:=hrest.reserved (setStage_opening ho _) hbounded hid rfl
   exact ⟨hfree.trans (take_free htake permit.serial),hschedulers⟩
 · obtain rfl:=Option.some.inj hstep
   obtain rfl:=hrest.waiting (setStage_opening ho _) rfl
   exact ⟨rfl,Each.refl (fun x=>Or.inl rfl) _⟩

end Returns

section accounts
variable [DecidableEq κ]

def holdsPermit (o:Opening κ) : Bool := !o.stage.accountHeld.isEmpty

structure Accounted (settings:SandOpenSettings) (s:SandOpenState κ) : Prop where
 permits : (s.openings.filter holdsPermit).length ≤ clamp settings.globalLimit 1 sandOpenGlobalMax
 permitsOfKey : ∀ key,(s.openings.filter fun o=>o.key=key ∧ holdsPermit o).length ≤
  clamp settings.accountLimit 1 sandOpenAccountMax
 oneLane : ∀ o∈s.openings,∀ o'∈s.openings,o.key=o'.key → ∀ lane lane',
  o.stage.lane=some lane → o'.stage.lane=some lane' → lane=lane'
 slots : ∀ pool,s.pools.free pool+heldIn s.held pool=SandOpenState.capacity settings pool
 attempts : ∀ (id:ℕ) x,s.schedulers[id]?=some x → x.inFlight=uncompleted s id
 bounded : ∀ (id:ℕ) x,s.schedulers[id]?=some x → Bounded x

omit [DecidableEq κ] in
theorem filter_length_le_heldIn (openings:List (Opening κ)) (p:Opening κ → Bool) (pool:Pool)
  (h:∀ o∈openings,p o=true → 1 ≤ heldIn o.held pool) :
  (openings.filter p).length ≤ heldIn (openings.flatMap Opening.held) pool:=by
 induction openings with
 | nil=>exact Nat.zero_le _
 | cons o openings ih=>
  have hrest:=ih fun o' ho'=>h o' (List.mem_cons_of_mem _ ho')
  rw [List.flatMap_cons,heldIn_append,List.filter_cons]
  split_ifs with hp
  · have hown:=h o List.mem_cons_self hp
    rw [List.length_cons]
    omega
  · omega

omit [DecidableEq κ] in
theorem holdsPermit_spec (h:holdsPermit o=true) :
  ∃ lane,o.stage.lane=some lane ∧ 1 ≤ heldIn o.held (.lane lane) ∧ 1 ≤ heldIn o.held .global:=by
 unfold holdsPermit at h
 unfold Opening.held
 cases hstage:o.stage with
 | waiting | located _ | reserved _ _ | unreserving _ _ | closed=>
  rw [hstage] at h
  exact (nomatch h)
 | bulkheads lane a g | paced lane a g _ | refused lane a g _ | admitted lane a g _ _ _ _
 | releasing lane a g _=>
  exact ⟨lane,rfl,by simp [Stage.accountHeld,Stage.globalHeld,heldIn],
   by simp [Stage.accountHeld,Stage.globalHeld,heldIn]⟩

theorem accounted_of_inv (h:Inv settings s) : Accounted settings s:=by
 have hlane:∀ o∈s.openings,∀ o'∈s.openings,o.key=o'.key → ∀ lane lane',
   o.stage.lane=some lane → o'.stage.lane=some lane' → lane=lane':=by
  intro o ho o' ho' hkey lane lane' hlane hlane'
  obtain ⟨place,hplace⟩:=List.mem_iff_getElem?.mp ho
  obtain ⟨place',hplace'⟩:=List.mem_iff_getElem?.mp ho'
  have heq:=h.lanes.unique (h.lane_mem hplace hlane) (h.lane_mem hplace' hlane') hkey
  exact congrArg Prod.snd heq
 refine ⟨?_,fun key=>?_,hlane,h.accounts.free,fun id x hx=>?_,h.bounded⟩
 · refine (filter_length_le_heldIn s.openings holdsPermit .global fun o _ hpermit=>?_).trans
    (h.accounts.heldIn_le .global)
   obtain ⟨lane,-,-,hglobal⟩:=holdsPermit_spec hpermit
   exact hglobal
 · cases hfirst:s.openings.filter fun o=>o.key=key ∧ holdsPermit o with
   | nil=>exact Nat.zero_le _
   | cons first rest=>
    have hmem:first∈s.openings.filter fun o=>o.key=key ∧ holdsPermit o:=by
     rw [hfirst]
     exact List.mem_cons_self
    obtain ⟨hopening,hfirst'⟩:=List.mem_filter.mp hmem
    obtain ⟨hkey,hpermit⟩:=of_decide_eq_true hfirst'
    obtain ⟨lane,hown,-,-⟩:=holdsPermit_spec hpermit
    rw [← hfirst]
    refine (filter_length_le_heldIn s.openings _ (.lane lane) fun o ho hp=>?_).trans
     (h.accounts.heldIn_le (.lane lane))
    obtain ⟨hkey',hpermit'⟩:=of_decide_eq_true hp
    obtain ⟨lane',hown',hheld,-⟩:=holdsPermit_spec hpermit'
    exact hlane first hopening o ho (hkey.trans hkey'.symm) lane lane' hown hown' ▸ hheld
 · have hattempts:=h.attempts id
   unfold inFlight at hattempts
   rw [hx] at hattempts
   exact hattempts

theorem admission_untouched (h:Inv settings s) {action:Action κ}
  (hadmission:Admission s action) (hstep:s.step settings action=some t) :
  Each Untouched s.schedulers t.schedulers:=by
 have hsame:=Each.refl Untouched.refl s.schedulers
 cases action with
 | admitSandOpenUntil key idle now=>
  obtain ⟨⟨next,id⟩,hfound,rfl⟩:=Option.map_eq_some_iff.mp hstep
  obtain ⟨schedulers,routes,rfl,-,-,-,hgrown⟩:=sandColdOpenScheduler_spec h.routes hfound
  rcases hgrown with rfl | ⟨x,-,-,rfl⟩
  · exact hsame
  · intro id y hy
    exact ⟨y,(List.getElem?_append_left (List.getElem?_eq_some_iff.mp hy).1).trans hy,Untouched.refl y⟩
 | attempt place idle=>
  obtain ⟨o,next,lane,ho,hstage,hgate,rfl⟩:=attempt_spec hstep
  obtain ⟨-,-,hschedulers,-,-⟩:=h.accountGate hgate
  cases lane with
  | none=>exact hschedulers ▸ hsame
  | some lane=>exact hschedulers.symm ▸ hsame
 | advance place now=>
  obtain ⟨o,ho,hadvance⟩:=Option.bind_eq_some_iff.mp hstep
  obtain ⟨o',ho',hadmitting⟩:=hadmission
  obtain rfl:=Option.some.inj (ho.symm.trans ho')
  exact advance_untouched h ho hadmitting hadvance
 | giveUp place=>
  obtain ⟨o,-,-,rfl⟩:=giveUp_spec hstep
  exact hsame
 | recordOpenOutcome place success=>exact hadmission.elim
 | recordOpenNeutral place=>exact hadmission.elim
 | drop place=>exact hadmission.elim

theorem attempt_restores (h:Inv settings s) {idle:Option κ}
  (hstep:s.step settings (.attempt place idle)=some u) (hback:Returns place u t) :
  t.pools.free=s.pools.free ∧ Each Refilled s.schedulers t.schedulers:=by
 obtain ⟨o,next,lane,ho,hstage,hgate,rfl⟩:=attempt_spec hstep
 obtain ⟨-,hopenings,hschedulers,hpools,-⟩:=h.accountGate hgate
 have hid:0<o.scheduler:=h.routeIds _ (h.scheduler_mem ho (by rw [hstage]; rfl))
 cases lane with
 | none=>
  obtain rfl:=hback.waiting (hopenings ▸ ho) hstage
  exact ⟨congrArg Pools.free hpools,hschedulers ▸ Each.refl (fun x=>Or.inl rfl) _⟩
 | some lane=>
  have hback':=hback.located (setStage_opening (hopenings ▸ ho) _)
   (fun id x hx=>h.bounded id x (hschedulers ▸ hx)) hid rfl
  change t.pools.free=next.pools.free ∧ Each Refilled next.schedulers t.schedulers at hback'
  rw [hpools,hschedulers] at hback'
  exact hback'

/-- In every state of every run no bulkhead gives more than it has, every key has one lane, every
scheduler counts its own cold opens and keeps its bounds, and an admission that gets no permit
leaves no trace but refilled buckets. -/
theorem admissions_accounted {actions:List (Action κ)}
    (h:perform (SandOpenState.step settings) (.start settings now) actions=some s) :
    Accounted settings s ∧
      (∀ action t,Admission s action → s.step settings action=some t → Each Untouched s.schedulers t.schedulers) ∧
      ∀ place idle u t,s.step settings (.attempt place idle)=some u → Returns place u t →
        t.pools.free=s.pools.free ∧ Each Refilled s.schedulers t.schedulers:=by
  have hinv:=inv_of_perform h
  exact ⟨accounted_of_inv hinv,
    fun action t hadmission hstep=>admission_untouched hinv hadmission hstep,
    fun place idle u t hstep hback=>attempt_restores hinv hstep hback⟩

end accounts

/-- Two callers of one key and a third of another; the last attempt is refused by the bulkhead of
the key. -/
def crowd : List (Action String) :=
 [.admitSandOpenUntil "a" none 0,.admitSandOpenUntil "a" none 0,.admitSandOpenUntil "b" none 1,
  .attempt 0 none,.attempt 2 none,.advance 0 1,.advance 2 1,.advance 0 1,.advance 0 2,
  .advance 2 2,.advance 0 2,.advance 2 2,.advance 2 2,.recordOpenOutcome 0 true,
  .advance 0 3,.drop 2,.advance 2 3,.advance 0 3,.attempt 1 none,.advance 1 3,.advance 1 3]

def crowdSettings : SandOpenSettings :=
 SandOpenEnv.settings ⟨some 3,some 1,none,none,none,none,none⟩

theorem admissions_accounted_crowd :
    ∃ s,perform (SandOpenState.step crowdSettings) (.start crowdSettings 0) crowd=some s ∧
      Accounted crowdSettings s:=by
  have hruns:(perform (SandOpenState.step crowdSettings) (.start crowdSettings 0)
      crowd).isSome=true := by decide +kernel
  obtain ⟨s,hs⟩:=Option.isSome_iff_exists.mp hruns
  exact ⟨s,hs,(admissions_accounted hs).1⟩

end CursorProxy.SandOpenAdmission
