import CursorProxy.SandOpenGate

namespace CursorProxy.SandOpenAccounting
open SandOpenGate PermitPools Traces
open SandColdOpenScheduler (withLimits)

/-- The limits and the rates are in order, and the bucket is neither in debt nor over its cap. -/
structure Bounded (x:SandColdOpenScheduler) : Prop where
 min_pos : 1 ≤ x.minInflight
 min_le : x.minInflight ≤ x.inflightLimit
 le_max : x.inflightLimit ≤ x.maxInflight
 minRate_pos : 1 ≤ x.minRatePerSecond
 minRate_le : x.minRatePerSecond ≤ x.ratePerSecond
 rate_le : x.ratePerSecond ≤ x.maxRatePerSecond
 tokens_nonneg : 0 ≤ x.tokens
 tokens_le : x.tokens ≤ max x.ratePerSecond 1

/-- What an admission may do to a scheduler: the windows and the limits stay, and a token goes
only with a slot and comes back with it, up to the cap. -/
structure Untouched (x y:SandColdOpenScheduler) : Prop where
 window : y={ x with inFlight := y.inFlight,tokens := y.tokens,lastRefill := y.lastRefill }
 tokens : min (x.tokens+x.inFlight) (max x.ratePerSecond 1+y.inFlight) ≤ y.tokens+y.inFlight

theorem clamp_pos {value high:ℕ} (h:1 ≤ high) : 1 ≤ clamp value 1 high :=
 le_min (le_max_right _ _) h

theorem clamp_le (value low high:ℕ) : clamp value low high ≤ high :=
 min_le_right _ _

section scheduler
variable {x y:SandColdOpenScheduler}

theorem withLimits_bounded {maxInflight maxRate:ℕ} (hinflight:1 ≤ maxInflight)
 (hrate:1 ≤ maxRate) (initialInflight initialRate:ℕ) (adaptive:Bool) (now:ℚ) :
 Bounded (withLimits initialInflight initialRate maxRate maxInflight adaptive now):=by
 have hinitial:(1:ℚ) ≤ (clamp initialRate 1 maxRate:ℕ):=by
  exact_mod_cast clamp_pos hrate
 have hceiling:(1:ℚ) ≤ (clamp maxRate 1 sandOpenRateMax:ℕ):=by
  exact_mod_cast clamp_pos (by decide)
 have hone:(1:ℚ) ≤ min ((clamp initialRate 1 maxRate:ℕ) : ℚ)
  ((clamp maxRate 1 sandOpenRateMax:ℕ) : ℚ) := le_min hinitial hceiling
 have hmin:(1:ℚ) ≤ (sandOpenMinRate:ℕ):=by
  exact_mod_cast (by decide:1 ≤ sandOpenMinRate)
 exact ⟨le_min (by decide) (clamp_pos hinflight),min_le_right _ _,clamp_le _ _ _,
  le_min hmin hone,min_le_right _ _,min_le_right _ _,zero_le_one.trans hone,
  le_max_left _ _⟩

theorem Bounded.rate_pos (h:Bounded x) : 1 ≤ x.ratePerSecond :=
 h.minRate_pos.trans h.minRate_le

theorem Bounded.refill (h:Bounded x) (now:ℚ) : Bounded (x.refill now):=by
 have hrate:0 ≤ x.ratePerSecond:=zero_le_one.trans h.rate_pos
 have hearned:0 ≤ max (now-x.lastRefill) 0*x.ratePerSecond :=
  mul_nonneg (le_max_right _ _) hrate
 exact ⟨h.min_pos,h.min_le,h.le_max,h.minRate_pos,h.minRate_le,h.rate_le,
  le_min (add_nonneg h.tokens_nonneg hearned) (le_max_of_le_right zero_le_one),min_le_right _ _⟩

theorem Bounded.refill_tokens (h:Bounded x) (now:ℚ) : x.tokens ≤ (x.refill now).tokens:=by
 have hrate:0 ≤ x.ratePerSecond:=zero_le_one.trans h.rate_pos
 have hearned:0 ≤ max (now-x.lastRefill) 0*x.ratePerSecond :=
  mul_nonneg (le_max_right _ _) hrate
 exact le_min (le_add_of_nonneg_right hearned) h.tokens_le

theorem tryAcquireNow_cases (x:SandColdOpenScheduler) (now:ℚ) :
 x.tryAcquireNow now=(x.refill now,false) ∨
  1 ≤ (x.refill now).tokens ∧ x.tryAcquireNow now =
   ({ x.refill now with
    inFlight := x.inFlight+1
    tokens := (x.refill now).tokens-1 },true):=by
 unfold SandColdOpenScheduler.tryAcquireNow
 by_cases h:(x.refill now).inflightLimit ≤ (x.refill now).inFlight ∨ (x.refill now).tokens<1
 · exact Or.inl (if_pos h)
 · exact Or.inr ⟨le_of_not_gt fun hlow=>h (Or.inr hlow),if_neg h⟩

theorem Bounded.tryAcquireNow (h:Bounded x) (now:ℚ) : Bounded (x.tryAcquireNow now).1:=by
 have hfilled:=h.refill now
 rcases tryAcquireNow_cases x now with hcase | ⟨htoken,hcase⟩
 · rw [hcase]
   exact hfilled
 · rw [hcase]
   exact ⟨h.min_pos,h.min_le,h.le_max,h.minRate_pos,h.minRate_le,h.rate_le,
    sub_nonneg.mpr htoken,(sub_le_self _ zero_le_one).trans hfilled.tokens_le⟩

theorem tryAcquireNow_inFlight (x:SandColdOpenScheduler) (now:ℚ) :
 (x.tryAcquireNow now).1.inFlight = x.inFlight+if (x.tryAcquireNow now).2=true then 1 else 0:=by
 rcases tryAcquireNow_cases x now with hcase | ⟨-,hcase⟩
 · rw [hcase]
   rfl
 · rw [hcase]
   rfl

theorem Bounded.backOff (h:Bounded x) : Bounded x.backOff:=by
 have hrate:=h.rate_pos
 have hhalf:x.ratePerSecond / 2 ≤ x.ratePerSecond:=by linarith
 have hlow:(0:ℚ) ≤ max (x.ratePerSecond / 2) x.minRatePerSecond :=
  le_max_of_le_right (zero_le_one.trans h.minRate_pos)
 exact ⟨h.min_pos,le_max_right _ _,
  max_le ((Nat.div_le_self _ _).trans h.le_max) (h.min_le.trans h.le_max),h.minRate_pos,
  le_max_right _ _,max_le (hhalf.trans h.rate_le) (h.minRate_le.trans h.rate_le),
  le_min h.tokens_nonneg hlow,(min_le_right _ _).trans (le_max_left _ _)⟩

theorem Bounded.speedUp (h:Bounded x) : Bounded x.speedUp:=by
 have hstep:(0:ℚ) ≤ max (x.ratePerSecond / 4) 1:=le_max_of_le_right zero_le_one
 have hrate:x.minRatePerSecond ≤ min (x.ratePerSecond+max (x.ratePerSecond / 4) 1) x.maxRatePerSecond :=
  le_min (h.minRate_le.trans (le_add_of_nonneg_right hstep)) (h.minRate_le.trans h.rate_le)
 exact ⟨h.min_pos,le_min (h.min_le.trans (Nat.le_add_right _ _)) (h.min_le.trans h.le_max),
  min_le_right _ _,h.minRate_pos,hrate,min_le_right _ _,
  le_min h.tokens_nonneg ((zero_le_one.trans h.minRate_pos).trans hrate),(min_le_right _ _).trans (le_max_left _ _)⟩

theorem Bounded.newWindow (h:Bounded x) : Bounded x.newWindow :=
 ⟨h.min_pos,h.min_le,h.le_max,h.minRate_pos,h.minRate_le,h.rate_le,h.tokens_nonneg,h.tokens_le⟩

theorem Bounded.finish (h:Bounded x) (success:Bool) : Bounded (x.finish success):=by
 have hcounted:Bounded (x.counted success) :=
  ⟨h.min_pos,h.min_le,h.le_max,h.minRate_pos,h.minRate_le,h.rate_le,h.tokens_nonneg,h.tokens_le⟩
 unfold SandColdOpenScheduler.finish
 dsimp only
 split_ifs
 · exact hcounted.backOff.newWindow
 · exact hcounted.speedUp.newWindow
 · exact hcounted.newWindow
 · exact hcounted

theorem finish_inFlight (x:SandColdOpenScheduler) (success:Bool) : (x.finish success).inFlight=x.inFlight-1:=by
 unfold SandColdOpenScheduler.finish
 dsimp only
 split_ifs <;> rfl

theorem Bounded.cancel (h:Bounded x) : Bounded x.cancel :=
 ⟨h.min_pos,h.min_le,h.le_max,h.minRate_pos,h.minRate_le,h.rate_le,
  le_min (add_nonneg h.tokens_nonneg zero_le_one) (le_max_of_le_right zero_le_one),min_le_right _ _⟩

theorem Bounded.settled (h:Bounded x) (call:ColdOpenCall) : Bounded (call.settled x):=by
 cases call with
 | complete success=>exact h.finish success
 | cancel=>exact h.cancel

theorem settled_inFlight (call:ColdOpenCall) (x:SandColdOpenScheduler) : (call.settled x).inFlight=x.inFlight-1:=by
 cases call with
 | complete success=>exact finish_inFlight x success
 | cancel=>rfl

theorem Bounded.cancel_granted (h:Bounded x) {now:ℚ} (hgranted:(x.tryAcquireNow now).2=true) :
 (x.tryAcquireNow now).1.cancel=x.refill now:=by
 have hcap:=(h.refill now).tokens_le
 rcases tryAcquireNow_cases x now with hcase | ⟨-,hcase⟩
 · rw [hcase] at hgranted
   exact (nomatch hgranted)
 · rw [hcase]
   have htokens:min ((x.refill now).tokens-1+1) (max (x.refill now).ratePerSecond 1) = (x.refill now).tokens:=by
    rw [sub_add_cancel,min_eq_left hcap]
   change { x.refill now with
    inFlight := x.inFlight+1-1
    tokens := min ((x.refill now).tokens-1+1) (max (x.refill now).ratePerSecond 1) }=_
   rw [htokens]
   rfl

theorem Untouched.refl (x:SandColdOpenScheduler) : Untouched x x :=
 ⟨rfl,min_le_left _ _⟩

theorem Bounded.tryAcquireNow_untouched (h:Bounded x) (now:ℚ) : Untouched x (x.tryAcquireNow now).1:=by
 have hfilled:=h.refill_tokens now
 rcases tryAcquireNow_cases x now with hcase | ⟨-,hcase⟩
 · rw [hcase]
   exact ⟨rfl,(min_le_left _ _).trans (add_le_add_left hfilled _)⟩
 · rw [hcase]
   refine ⟨rfl,(min_le_left _ _).trans ?_⟩
   push_cast
   linarith

theorem cancel_untouched (hslot:1 ≤ x.inFlight) : Untouched x x.cancel:=by
 refine ⟨rfl,?_⟩
 have hcast:((x.inFlight-1 : ℕ) : ℚ)=x.inFlight-1:=by
  push_cast [hslot]
  rfl
 change min (x.tokens+x.inFlight) (max x.ratePerSecond 1+((x.inFlight-1 : ℕ) : ℚ)) ≤
  min (x.tokens+1) (max x.ratePerSecond 1)+((x.inFlight-1 : ℕ) : ℚ)
 rw [hcast]
 rcases le_total (x.tokens+1) (max x.ratePerSecond 1) with hroom | hfull
 · rw [min_eq_left hroom]
   exact (min_le_left _ _).trans (by linarith)
 · rw [min_eq_right hfull]
   exact min_le_right _ _

end scheduler

section entries
variable {κ:Type*} [DecidableEq κ] {entries refs refs':List (κ×ℕ)} {key:κ} {id:ℕ}

/-- Each key has one entry, and what is referred to has kept its own. -/
structure Kept (entries refs:List (κ×ℕ)) : Prop where
 keys : (entries.map Prod.fst).Nodup
 refs : ∀ ref∈refs,ref∈entries

omit [DecidableEq κ] in
theorem Kept.mono (h:Kept entries refs) (hrefs:∀ ref∈refs',ref∈refs ∨ ref∈entries) : Kept entries refs' :=
 ⟨h.keys,fun ref href=>(hrefs ref href).elim (h.refs ref) fun hentry=>hentry⟩

omit [DecidableEq κ] in
theorem Kept.unique (h:Kept entries refs) {ref ref':κ×ℕ} (href:ref∈entries)
 (href':ref'∈entries) (hkey:ref.1=ref'.1) : ref=ref' :=
 List.inj_on_of_nodup_map h.keys href href' hkey

theorem mem_of_lookup (h:entries.lookup key=some id) : (key,id)∈entries:=by
 obtain ⟨before,after,rfl,-⟩:=List.lookup_eq_some_iff.mp h
 exact List.mem_append_right _ List.mem_cons_self

theorem Kept.insert (h:Kept entries refs) (hnew:entries.lookup key=none) : Kept ((key,id)::entries) refs:=by
 refine ⟨List.nodup_cons.mpr ⟨fun hmem=>?_,h.keys⟩,
  fun ref href=>List.mem_cons_of_mem _ (h.refs ref href)⟩
 obtain ⟨entry,hentry,hkey⟩:=List.mem_map.mp hmem
 have hne:=List.lookup_eq_none_iff.mp hnew entry hentry
 rw [hkey,bne_self_eq_false] at hne
 exact (nomatch hne)

theorem without_lookup (hnew:entries.lookup key=none) (idle:Option κ) :
 (SandOpenState.without entries idle).lookup key=none :=
 List.Sublist.lookup_eq_none List.filter_sublist hnew

theorem Kept.without (h:Kept entries refs) {idle:Option κ} (hidle:SandOpenState.mayEvict entries refs idle=true) :
 Kept (SandOpenState.without entries idle) refs:=by
 refine ⟨(h.keys.sublist (List.filter_sublist.map _)),fun ref href=>?_⟩
 refine List.mem_filter.mpr ⟨h.refs ref href,decide_eq_true fun hsame=>?_⟩
 rw [← hsame] at hidle
 obtain ⟨entry,hentry,hfree⟩:=List.any_eq_true.mp hidle
 have hunused:=of_decide_eq_true hfree
 have heq:=h.unique (h.refs ref href) hentry hunused.1.symm
 exact hunused.2 ref href (congrArg Prod.snd heq)

end entries

section invariant
variable {κ:Type*} {settings:SandOpenSettings} {s t next:SandOpenState κ}
 {place:ℕ} {o:Opening κ} {stage:Stage} {now:ℚ} {id:ℕ}

def pendingIn (colds:List SandColdOpenPermit) (id:ℕ) : ℕ :=
 colds.countP fun cold=>cold.scheduler=id ∧ cold.completed=false

/-- The cold opens of a scheduler that were neither completed nor cancelled. -/
def uncompleted (s:SandOpenState κ) (id:ℕ) : ℕ :=
 pendingIn (s.openings.flatMap fun o=>o.stage.coldOpens) id

def inFlight (schedulers:List SandColdOpenScheduler) (id:ℕ) : ℕ :=
 ((schedulers[id]?).map SandColdOpenScheduler.inFlight).getD 0

/-- A permit that is dropped settles both of its cold opens. -/
def Settles : Stage → Prop
 | .admitted _ _ _ globalCold routeCold calls true=>
  (globalCold.completed=true ∨ .global∈calls.map Prod.fst) ∧ (routeCold.completed=true ∨ .route∈calls.map Prod.fst)
 | _=>True

structure Inv (settings:SandOpenSettings) (s:SandOpenState κ) : Prop where
 accounts : Accounts (SandOpenState.capacity settings) s.pools s.held
 lanes : Kept s.account (s.openings.flatMap Opening.laneRef)
 routes : Kept s.routes (s.openings.flatMap Opening.schedulerRef)
 attempts : ∀ id,inFlight s.schedulers id=uncompleted s id
 bounded : ∀ (id:ℕ) x,s.schedulers[id]?=some x → Bounded x
 front : 0<s.schedulers.length
 routeIds : ∀ route∈s.routes,0<route.2
 settles : ∀ o∈s.openings,Settles o.stage

theorem pendingIn_append (colds colds':List SandColdOpenPermit) (id:ℕ) :
 pendingIn (colds++colds') id=pendingIn colds id+pendingIn colds' id :=
 List.countP_append

theorem pendingIn_pair (cold cold':SandColdOpenPermit) (id:ℕ) :
 pendingIn [cold,cold'] id=pendingIn [cold] id+pendingIn [cold'] id :=
 pendingIn_append [cold] [cold'] id

theorem pendingIn_completed {cold:SandColdOpenPermit} (h:cold.completed=true) (id:ℕ) : pendingIn [cold] id=0:=by
 simp [pendingIn,h]

theorem pendingIn_fresh (scheduler id:ℕ) : pendingIn [⟨scheduler,false⟩] id=if scheduler=id then 1 else 0:=by
 by_cases h:scheduler=id
 · simp [pendingIn,h]
 · simp [pendingIn,h]

theorem inFlight_set {schedulers:List SandColdOpenScheduler} {x:SandColdOpenScheduler}
 (hx:schedulers[id]?=some x) (y:SandColdOpenScheduler) (other:ℕ) :
 inFlight (schedulers.set id y) other = if id=other then y.inFlight else inFlight schedulers other:=by
 unfold inFlight
 rw [List.getElem?_set]
 by_cases h:id=other
 · rw [if_pos h,if_pos h,if_pos (List.getElem?_eq_some_iff.mp hx).1]
   rfl
 · rw [if_neg h,if_neg h]

theorem inFlight_modify {schedulers:List SandColdOpenScheduler} {change:SandColdOpenScheduler → SandColdOpenScheduler}
 (hchange:∀ x,(change x).inFlight=x.inFlight-1) (other:ℕ) :
 inFlight (schedulers.modify id change) other = inFlight schedulers other-if id=other then 1 else 0:=by
 unfold inFlight
 rw [List.getElem?_modify]
 by_cases h:id=other
 · rw [if_pos h]
   cases schedulers[other]? with
   | none=>simp [h]
   | some x=>simp [h,hchange]
 · rw [if_neg h]
   cases schedulers[other]? <;> simp [h]

theorem getElem?_of_mem_set {schedulers:List SandColdOpenScheduler}
 {P:SandColdOpenScheduler → Prop} (hall:∀ (id:ℕ) x,schedulers[id]?=some x → P x)
 {y:SandColdOpenScheduler} (hy:P y) (id other:ℕ) (x:SandColdOpenScheduler)
 (hx:(schedulers.set id y)[other]?=some x) : P x:=by
 rw [List.getElem?_set] at hx
 split_ifs at hx
 · obtain rfl:=Option.some.inj hx
   exact hy
 · exact hall other x hx

namespace Inv

theorem lane_mem (h:Inv settings s) (ho:s.openings[place]?=some o) {lane:ℕ}
 (hlane:o.stage.lane=some lane) : (o.key,lane)∈s.account:=by
 refine h.lanes.refs _ (List.mem_flatMap.mpr ⟨o,List.mem_of_getElem? ho,?_⟩)
 unfold Opening.laneRef
 rw [hlane]
 exact List.mem_singleton_self _

theorem scheduler_mem (h:Inv settings s) (ho:s.openings[place]?=some o)
 (hlive:o.stage.live=true) : (o.key,o.scheduler)∈s.routes:=by
 refine h.routes.refs _ (List.mem_flatMap.mpr ⟨o,List.mem_of_getElem? ho,?_⟩)
 unfold Opening.schedulerRef
 rw [if_pos hlive]
 exact List.mem_singleton_self _

theorem pending_le (h:Inv settings s) (ho:s.openings[place]?=some o) (id:ℕ) :
 pendingIn o.stage.coldOpens id ≤ inFlight s.schedulers id:=by
 have hperm:=held_split ho fun o=>o.stage.coldOpens
 have hcount:=hperm.countP_eq fun cold=>cold.scheduler=id ∧ cold.completed=false
 have happend:=pendingIn_append o.stage.coldOpens ((s.openings.eraseIdx place).flatMap fun o=>o.stage.coldOpens) id
 have hattempts:=h.attempts id
 unfold uncompleted pendingIn at hattempts
 unfold pendingIn at happend ⊢
 omega

theorem set (h:Inv settings s) (ho:s.openings[place]?=some o)
 (hlive:o.stage.live=true) (pools:Pools Pool) (schedulers:List SandColdOpenScheduler)
 (hlane:∀ lane,stage.lane=some lane → (o.key,lane)∈s.account)
 (haccounts:∀ rest,Accounts (SandOpenState.capacity settings) s.pools (o.held++rest) →
  Accounts (SandOpenState.capacity settings) pools (stage.accountHeld++stage.globalHeld++rest))
 (hattempts:∀ id,inFlight schedulers id+pendingIn o.stage.coldOpens id =
  inFlight s.schedulers id+pendingIn stage.coldOpens id) (hlength:schedulers.length=s.schedulers.length)
 (hbounded:∀ (id:ℕ) x,schedulers[id]?=some x → Bounded x) (hsettles:Settles stage) :
 Inv settings ({ s with pools := pools,schedulers := schedulers }.setStage place o stage):=by
 have hrefs:=fun (ref:κ×ℕ) (refs:Opening κ → List (κ×ℕ))
  (href:ref∈(s.openings.set place { o with stage := stage }).flatMap refs)=>
  List.mem_append.mp ((held_set ho { o with stage := stage } refs).mem_iff.mp href)
 have hrest:=fun (ref:κ×ℕ) (refs:Opening κ → List (κ×ℕ))
  (href:ref∈(s.openings.eraseIdx place).flatMap refs)=>
  (held_split ho refs).mem_iff.mpr (List.mem_append_right _ href)
 have hown:=h.scheduler_mem ho hlive
 refine ⟨?_,?_,?_,fun id=>?_,hbounded,hlength ▸ h.front,h.routeIds,fun other hmem=>?_⟩
 · exact (haccounts _ (h.accounts.perm (held_split ho Opening.held))).perm
    (held_set ho { o with stage := stage } Opening.held).symm
 · refine h.lanes.mono fun ref href=>(hrefs ref _ href).elim (fun hnew=>Or.inr ?_)
    fun hold=>Or.inl (hrest ref _ hold)
   obtain ⟨lane,hlane',rfl⟩:=List.mem_map.mp hnew
   exact hlane lane (Option.mem_toList.mp hlane')
 · refine h.routes.mono fun ref href=>(hrefs ref _ href).elim (fun hnew=>Or.inr ?_)
    fun hold=>Or.inl (hrest ref _ hold)
   unfold Opening.schedulerRef at hnew
   split_ifs at hnew
   · obtain rfl:=List.mem_singleton.mp hnew
     exact hown
   · exact (nomatch hnew)
 · have hsplit:=(held_split ho fun o=>o.stage.coldOpens).countP_eq
    fun cold=>cold.scheduler=id ∧ cold.completed=false
   have hset:=(held_set ho { o with stage := stage } fun o=>o.stage.coldOpens).countP_eq
    fun cold=>cold.scheduler=id ∧ cold.completed=false
   have hbefore:=h.attempts id
   have hnow:=hattempts id
   rw [List.countP_append] at hsplit hset
   dsimp only at hset
   change inFlight schedulers id=pendingIn
    ((s.openings.set place { o with stage := stage }).flatMap fun o=>o.stage.coldOpens) id
   unfold uncompleted pendingIn at hbefore
   unfold pendingIn at hnow ⊢
   omega
 · rcases List.mem_or_eq_of_mem_set hmem with hold | rfl
   · exact h.settles other hold
   · exact hsettles

theorem set_pools (h:Inv settings s) (ho:s.openings[place]?=some o) (hlive:o.stage.live=true) (pools:Pools Pool)
 (hlane:∀ lane,stage.lane=some lane → (o.key,lane)∈s.account)
 (haccounts:∀ rest,Accounts (SandOpenState.capacity settings) s.pools (o.held++rest) →
  Accounts (SandOpenState.capacity settings) pools (stage.accountHeld++stage.globalHeld++rest))
 (hcold:stage.coldOpens=o.stage.coldOpens) (hsettles:Settles stage) :
 Inv settings ({ s with pools := pools }.setStage place o stage) :=
 h.set ho hlive pools s.schedulers hlane haccounts (fun id=>by rw [hcold]) rfl h.bounded
  hsettles

theorem set_schedulers (h:Inv settings s) (ho:s.openings[place]?=some o)
 (hlive:o.stage.live=true) (schedulers:List SandColdOpenScheduler)
 (hlane:∀ lane,stage.lane=some lane → o.stage.lane=some lane) (hheld:stage.accountHeld++stage.globalHeld=o.held)
 (hattempts:∀ id,inFlight schedulers id+pendingIn o.stage.coldOpens id =
  inFlight s.schedulers id+pendingIn stage.coldOpens id) (hlength:schedulers.length=s.schedulers.length)
 (hbounded:∀ (id:ℕ) x,schedulers[id]?=some x → Bounded x) (hsettles:Settles stage) :
 Inv settings ({ s with schedulers := schedulers }.setStage place o stage) :=
 h.set ho hlive s.pools schedulers (fun lane hlane'=>h.lane_mem ho (hlane lane hlane'))
  (fun rest haccounts=>by rw [hheld]; exact haccounts) hattempts hlength hbounded hsettles

end Inv

theorem pace_spec {granted:Bool} (h:s.pace id now=some (next,granted)) :
 ∃ x,s.schedulers[id]?=some x ∧ granted=(x.tryAcquireNow now).2 ∧
  next={ s with schedulers := s.schedulers.set id (x.tryAcquireNow now).1 }:=by
 obtain ⟨x,hx,hanswer⟩:=Option.map_eq_some_iff.mp h
 obtain ⟨rfl,rfl⟩:=Prod.mk.inj hanswer
 exact ⟨x,hx,rfl,rfl⟩

theorem take_permit {pools pools':Pools Pool} {pool:Pool} {permit:Permit Pool}
 (h:pools.take pool=some (pools',permit)) : permit=⟨pool,permit.serial⟩:=by
 unfold Pools.take at h
 split_ifs at h
 obtain ⟨-,rfl⟩:=Prod.mk.inj (Option.some.inj h)
 rfl

theorem take_accounts {capacity:Pool → ℕ} {pools pools':Pools Pool} {pool:Pool}
 {permit:Permit Pool} {held:List (Permit Pool)} (h:Accounts capacity pools held)
 (htake:pools.take pool=some (pools',permit)) : Accounts capacity pools' (⟨pool,permit.serial⟩::held):=by
 have htaken:=h.take htake
 rw [take_permit htake] at htaken
 exact htaken

theorem held_of_stage (h:o.stage=stage) : o.held=stage.accountHeld++stage.globalHeld:=by
 rw [← h]
 rfl

theorem callCold_completed (cold:SandColdOpenPermit) (call:ColdOpenCall) : (s.callCold cold call).2.completed=true:=by
 obtain ⟨scheduler,completed⟩:=cold
 cases completed <;> rfl

theorem mem_later {side other:ColdOpenSide} {call:ColdOpenCall}
 {calls:List (ColdOpenSide×ColdOpenCall)} (hne:side≠other)
 (hmem:side∈((other,call)::calls).map Prod.fst) : side∈calls.map Prod.fst :=
 (List.mem_cons.mp hmem).resolve_left hne

theorem callCold_spec {cold:SandColdOpenPermit} (hbounded:∀ (id:ℕ) x,s.schedulers[id]?=some x → Bounded x)
 (hpending:∀ id,pendingIn [cold] id ≤ inFlight s.schedulers id) (call:ColdOpenCall) :
 ∃ schedulers,s.callCold cold call = ({ s with schedulers := schedulers },{ cold with completed := true }) ∧
  schedulers.length=s.schedulers.length ∧
  (∀ (id:ℕ) x,schedulers[id]?=some x → Bounded x) ∧
  ∀ id,inFlight schedulers id+pendingIn [cold] id=inFlight s.schedulers id:=by
 obtain ⟨scheduler,completed⟩:=cold
 cases completed with
 | true=>
  refine ⟨s.schedulers,rfl,rfl,hbounded,fun id=>?_⟩
  rw [pendingIn_completed rfl,Nat.add_zero]
 | false=>
  refine ⟨_,rfl,List.length_modify _ _ _,fun id x hx=>?_,fun id=>?_⟩
  · rw [List.getElem?_modify] at hx
    obtain ⟨y,hy,rfl⟩:=Option.map_eq_some_iff.mp hx
    split_ifs
    · exact (hbounded id y hy).settled call
    · exact hbounded id y hy
  · have hown:=hpending id
    rw [inFlight_modify (settled_inFlight call)]
    dsimp only
    rw [pendingIn_fresh] at hown ⊢
    omega

namespace Inv

theorem paced (h:Inv settings s) (ho:s.openings[place]?=some o)
 (hlive:o.stage.live=true) {granted:Bool} (hpace:s.pace id now=some (next,granted))
 (hlane:∀ lane,stage.lane=some lane → o.stage.lane=some lane) (hheld:stage.accountHeld++stage.globalHeld=o.held)
 (hcold:∀ other,pendingIn stage.coldOpens other=pendingIn o.stage.coldOpens other +
  if granted=true then pendingIn [⟨id,false⟩] other else 0)
 (hsettles:Settles stage) :
 Inv settings (next.setStage place o stage):=by
 obtain ⟨x,hx,rfl,rfl⟩:=pace_spec hpace
 refine h.set_schedulers ho hlive _ hlane hheld (fun other=>?_) List.length_set
  (getElem?_of_mem_set h.bounded ((h.bounded id x hx).tryAcquireNow now) id) hsettles
 have hbefore:id=other → inFlight s.schedulers other=x.inFlight:=by
  rintro rfl
  unfold inFlight
  rw [hx]
  rfl
 rw [inFlight_set hx,hcold,pendingIn_fresh,tryAcquireNow_inFlight]
 split_ifs with hsame
 · rw [hbefore hsame]
   omega
 · rw [hbefore hsame]
   omega
 · omega
 · omega

theorem called (h:Inv settings s) (ho:s.openings[place]?=some o)
 (hlive:o.stage.live=true) {cold:SandColdOpenPermit} (rest:List SandColdOpenPermit)
 (hcold:∀ other,pendingIn o.stage.coldOpens other = pendingIn [cold] other+pendingIn rest other) (call:ColdOpenCall)
 (hlane:∀ lane,stage.lane=some lane → o.stage.lane=some lane) (hheld:stage.accountHeld++stage.globalHeld=o.held)
 (hstage:∀ other,pendingIn stage.coldOpens other=pendingIn rest other) (hsettles:Settles stage) :
 Inv settings ((s.callCold cold call).1.setStage place o stage):=by
 have hpending:∀ other,pendingIn [cold] other ≤ inFlight s.schedulers other:=fun other=>by
  have hle:=h.pending_le ho other
  have hsplit:=hcold other
  omega
 obtain ⟨schedulers,hcall,hlength,hbounded,hattempts⟩ :=
  callCold_spec h.bounded hpending call
 rw [hcall]
 refine h.set_schedulers ho hlive schedulers hlane hheld (fun other=>?_) hlength hbounded
  hsettles
 have hnow:=hattempts other
 rw [hcold,hstage]
 omega

theorem took (h:Inv settings s) (ho:s.openings[place]?=some o)
 (hlive:o.stage.live=true) {pools:Pools Pool} {pool:Pool} {permit:Permit Pool}
 (htake:s.pools.take pool=some (pools,permit)) (hlane:∀ lane,stage.lane=some lane → o.stage.lane=some lane)
 (hheld:stage.accountHeld++stage.globalHeld=⟨pool,permit.serial⟩::o.held)
 (hcold:stage.coldOpens=o.stage.coldOpens) (hsettles:Settles stage) :
 Inv settings ({ s with pools := pools }.setStage place o stage):=by
 refine h.set_pools ho hlive pools (fun lane hnow=>h.lane_mem ho (hlane lane hnow))
  (fun rest haccounts=>?_) hcold hsettles
 rw [hheld]
 exact take_accounts haccounts htake

theorem gave (h:Inv settings s) (ho:s.openings[place]?=some o)
 (hlive:o.stage.live=true) {permit:Permit Pool} (hlane:stage.lane=none)
 (hheld:o.held=permit::(stage.accountHeld++stage.globalHeld))
 (hcold:stage.coldOpens=o.stage.coldOpens) (hsettles:Settles stage) :
 Inv settings ({ s with pools := s.pools.give permit }.setStage place o stage):=by
 refine h.set_pools ho hlive _ (fun lane hnow=>?_) (fun rest haccounts=>?_) hcold hsettles
 · rw [hlane] at hnow
   exact (nomatch hnow)
 · rw [hheld] at haccounts
   exact haccounts.give

theorem moved (h:Inv settings s) (ho:s.openings[place]?=some o) (hlive:o.stage.live=true)
 (hlane:∀ lane,stage.lane=some lane → o.stage.lane=some lane) (hheld:stage.accountHeld++stage.globalHeld=o.held)
 (hcold:∀ other,pendingIn stage.coldOpens other=pendingIn o.stage.coldOpens other)
 (hsettles:Settles stage) : Inv settings (s.setStage place o stage) :=
 h.set_schedulers ho hlive s.schedulers hlane hheld (fun other=>by rw [hcold]) rfl h.bounded
  hsettles

section admitted
variable {lane a g:ℕ} {globalCold routeCold:SandColdOpenPermit}
 {calls:List (ColdOpenSide×ColdOpenCall)} {call:ColdOpenCall} {dropped:Bool}

theorem released (h:Inv settings s) (ho:s.openings[place]?=some o)
 (hstage:o.stage=.admitted lane a g globalCold routeCold [] true) :
 Inv settings (s.setStage place o (.releasing lane a g false)):=by
 have hsettled:=h.settles o (List.mem_of_getElem? ho)
 rw [hstage] at hsettled
 have hglobal:globalCold.completed=true :=
  hsettled.1.elim (fun hdone=>hdone) fun hmem=>(nomatch hmem)
 have hroute:routeCold.completed=true :=
  hsettled.2.elim (fun hdone=>hdone) fun hmem=>(nomatch hmem)
 refine h.moved ho (by rw [hstage]; rfl) (fun _ hlane=>by rw [hstage]; exact hlane)
  (held_of_stage hstage).symm (fun other=>?_) trivial
 rw [hstage]
 change 0=pendingIn [globalCold,routeCold] other
 rw [pendingIn_pair,pendingIn_completed hglobal,pendingIn_completed hroute]

theorem called_global (h:Inv settings s) (ho:s.openings[place]?=some o)
 (hstage:o.stage = .admitted lane a g globalCold routeCold ((.global,call)::calls) dropped) :
 Inv settings ((s.callCold globalCold call).1.setStage place o
  (.admitted lane a g (s.callCold globalCold call).2 routeCold calls dropped)):=by
 have hsettled:=h.settles o (List.mem_of_getElem? ho)
 rw [hstage] at hsettled
 have hcalled:(s.callCold globalCold call).2.completed=true :=
  callCold_completed globalCold call
 refine h.called ho (by rw [hstage]; rfl) [routeCold]
  (fun other=>by rw [hstage]; exact pendingIn_pair _ _ other) call
  (fun _ hlane=>by rw [hstage]; exact hlane) (held_of_stage hstage).symm
  (fun other=>?_) ?_
 · change pendingIn [(s.callCold globalCold call).2,routeCold] other=_
   rw [pendingIn_pair,pendingIn_completed hcalled,Nat.zero_add]
 · cases dropped with
   | false=>trivial
   | true=>
    exact ⟨Or.inl hcalled,hsettled.2.imp_right (mem_later (nofun:ColdOpenSide.route ≠ .global))⟩

theorem called_route (h:Inv settings s) (ho:s.openings[place]?=some o)
 (hstage:o.stage = .admitted lane a g globalCold routeCold ((.route,call)::calls) dropped) :
 Inv settings ((s.callCold routeCold call).1.setStage place o
  (.admitted lane a g globalCold (s.callCold routeCold call).2 calls dropped)):=by
 have hsettled:=h.settles o (List.mem_of_getElem? ho)
 rw [hstage] at hsettled
 have hcalled:(s.callCold routeCold call).2.completed=true :=
  callCold_completed routeCold call
 refine h.called ho (by rw [hstage]; rfl) [globalCold]
  (fun other=>by rw [hstage]; exact (pendingIn_pair _ _ other).trans (Nat.add_comm _ _))
  call (fun _ hlane=>by rw [hstage]; exact hlane) (held_of_stage hstage).symm
  (fun other=>?_) ?_
 · change pendingIn [globalCold,(s.callCold routeCold call).2] other=_
   rw [pendingIn_pair,pendingIn_completed hcalled,Nat.add_zero]
 · cases dropped with
   | false=>trivial
   | true=>
    exact ⟨hsettled.1.imp_right (mem_later (nofun:ColdOpenSide.global ≠ .route)),Or.inl hcalled⟩

end admitted

theorem advance (h:Inv settings s) (ho:s.openings[place]?=some o)
 (hstep:s.advance place o now=some t) : Inv settings t:=by
 cases hstage:o.stage with
 | waiting=>simp [SandOpenState.advance,hstage] at hstep
 | closed=>simp [SandOpenState.advance,hstage] at hstep
 | located | reserved=>
  simp only [SandOpenState.advance,hstage] at hstep
  have hheld:=held_of_stage hstage
  split at hstep
  · rename_i pools permit htake
    obtain rfl:=Option.some.inj hstep
    exact h.took ho (by rw [hstage]; rfl) htake (fun _ hlane=>by rw [hstage]; exact hlane)
     (by rw [hheld]; rfl) (by rw [hstage]; rfl) trivial
  · obtain rfl:=Option.some.inj hstep
    exact h.moved ho (by rw [hstage]; rfl) (fun _ hlane=>(nomatch hlane)) hheld.symm
     (fun _=>by rw [hstage]; rfl) trivial
 | bulkheads lane a g=>
  simp only [SandOpenState.advance,hstage] at hstep
  obtain ⟨⟨next,granted⟩,hpace,rfl⟩:=Option.map_eq_some_iff.mp hstep
  have hlive:o.stage.live=true:=by rw [hstage]; rfl
  have hheld:=held_of_stage hstage
  cases granted with
  | true=>
   refine h.paced ho hlive hpace (fun _ hlane=>by rw [hstage]; exact hlane) hheld.symm
    (fun other=>?_) trivial
   rw [hstage,if_pos rfl]
   exact (Nat.zero_add _).symm
  | false=>
   refine h.paced ho hlive hpace (fun _ hlane=>by rw [hstage]; exact hlane) hheld.symm
    (fun other=>?_) trivial
   rw [hstage]
   rfl
 | paced lane a g cold=>
  simp only [SandOpenState.advance,hstage] at hstep
  obtain ⟨⟨next,granted⟩,hpace,rfl⟩:=Option.map_eq_some_iff.mp hstep
  have hlive:o.stage.live=true:=by rw [hstage]; rfl
  have hheld:=held_of_stage hstage
  cases granted with
  | true=>
   refine h.paced ho hlive hpace (fun _ hlane=>by rw [hstage]; exact hlane) hheld.symm
    (fun other=>?_) trivial
   rw [hstage,if_pos rfl]
   exact pendingIn_pair cold _ other
  | false=>
   refine h.paced ho hlive hpace (fun _ hlane=>by rw [hstage]; exact hlane) hheld.symm
    (fun other=>?_) trivial
   rw [hstage]
   rfl
 | refused lane a g cold=>
  simp only [SandOpenState.advance,hstage] at hstep
  obtain rfl:=Option.some.inj hstep
  exact h.called ho (by rw [hstage]; rfl) [] (fun other=>by rw [hstage]; rfl)
   .cancel (fun _ hlane=>by rw [hstage]; exact hlane) (held_of_stage hstage).symm
   (fun _=>rfl) trivial
 | admitted lane a g globalCold routeCold calls dropped=>
  rcases calls with _ | ⟨⟨side,call⟩,calls⟩
  · simp only [SandOpenState.advance,hstage] at hstep
    cases dropped with
    | false=>exact (nomatch hstep)
    | true=>
     obtain rfl:=Option.some.inj hstep
     exact h.released ho hstage
  · cases side with
    | global=>
     simp only [SandOpenState.advance,hstage] at hstep
     obtain rfl:=Option.some.inj hstep
     exact h.called_global ho hstage
    | route=>
     simp only [SandOpenState.advance,hstage] at hstep
     obtain rfl:=Option.some.inj hstep
     exact h.called_route ho hstage
 | releasing lane a g again=>
  simp only [SandOpenState.advance,hstage] at hstep
  obtain rfl:=Option.some.inj hstep
  exact h.gave ho (by rw [hstage]; rfl) rfl (held_of_stage hstage) (by rw [hstage]; rfl)
   trivial
 | unreserving g again=>
  simp only [SandOpenState.advance,hstage] at hstep
  obtain rfl:=Option.some.inj hstep
  have hheld:=held_of_stage hstage
  cases again with
  | true=>
   exact h.gave ho (by rw [hstage]; rfl) rfl hheld (by rw [hstage]; rfl) trivial
  | false=>
   exact h.gave ho (by rw [hstage]; rfl) rfl hheld (by rw [hstage]; rfl) trivial

end Inv

theorem ask_spec {calls:List (ColdOpenSide×ColdOpenCall)} {drop:Bool} (h:s.ask place calls drop=some t) :
 ∃ o lane a g globalCold routeCold,s.openings[place]?=some o ∧
  o.stage=.admitted lane a g globalCold routeCold [] false ∧
  t=s.setStage place o (.admitted lane a g globalCold routeCold calls drop):=by
 unfold SandOpenState.ask at h
 split at h
 · rename_i o ho
   split at h
   · rename_i lane a g globalCold routeCold hstage
     exact ⟨o,lane,a,g,globalCold,routeCold,ho,hstage,(Option.some.inj h).symm⟩
   · exact (nomatch h)
 · exact (nomatch h)

namespace Inv

theorem ask (h:Inv settings s) {calls:List (ColdOpenSide×ColdOpenCall)} {drop:Bool} (hask:s.ask place calls drop=some t)
 (hcalls:drop=true → .global∈calls.map Prod.fst ∧ .route∈calls.map Prod.fst) : Inv settings t:=by
 obtain ⟨o,lane,a,g,globalCold,routeCold,ho,hstage,rfl⟩:=ask_spec hask
 refine h.moved ho (by rw [hstage]; rfl) (fun _ hlane=>by rw [hstage]; exact hlane)
  (held_of_stage hstage).symm (fun _=>by rw [hstage]; rfl) ?_
 cases drop with
 | false=>trivial
 | true=>exact ⟨Or.inr (hcalls rfl).1,Or.inr (hcalls rfl).2⟩

theorem start (settings:SandOpenSettings) (now:ℚ) :
 Inv settings (SandOpenState.start settings now : SandOpenState κ):=by
 refine ⟨Accounts.full _,⟨List.nodup_nil,fun ref href=>(nomatch href)⟩,
  ⟨List.nodup_nil,fun ref href=>(nomatch href)⟩,fun id=>?_,fun id x hx=>?_,
  Nat.zero_lt_one,fun route hroute=>(nomatch hroute),fun o ho=>(nomatch ho)⟩
 · cases id <;> rfl
 · obtain rfl:=List.mem_singleton.mp (List.mem_of_getElem? hx)
   exact withLimits_bounded settings.global_pos settings.ceiling_pos _ _ _ _

end Inv

theorem flatMap_waiting {β:Type*} (openings:List (Opening κ)) (key:κ) (id:ℕ) (f:Opening κ → List β) :
 (openings++[(⟨key,id,.waiting⟩ : Opening κ)]).flatMap f = openings.flatMap f++f ⟨key,id,.waiting⟩:=by
 rw [List.flatMap_append,List.flatMap_singleton]

variable [DecidableEq κ]

theorem accountGate_spec {key:κ} {idle:Option κ} {lane:Option ℕ}
 (hkept:Kept s.account (s.openings.flatMap Opening.laneRef)) (h:s.accountGate settings key idle=some (next,lane)) :
 ∃ account nextLane,next={ s with account := account,nextLane := nextLane } ∧
  Kept account (s.openings.flatMap Opening.laneRef) ∧
  ∀ id,lane=some id → (key,id)∈account:=by
 unfold SandOpenState.accountGate at h
 split at h
 · rename_i id hfound
   obtain ⟨rfl,rfl⟩:=Prod.mk.inj (Option.some.inj h)
   refine ⟨s.account,s.nextLane,rfl,hkept,fun lane hlane=>?_⟩
   obtain rfl:=Option.some.inj hlane
   exact mem_of_lookup hfound
 · rename_i hnew
   split_ifs at h with hfull hidle
   · split at h
     · obtain ⟨rfl,rfl⟩:=Prod.mk.inj (Option.some.inj h)
       exact ⟨s.account,s.nextLane,rfl,hkept,fun lane hlane=>(nomatch hlane)⟩
     · obtain ⟨rfl,rfl⟩:=Prod.mk.inj (Option.some.inj h)
       refine ⟨_,_,rfl,(hkept.without hidle).insert (without_lookup hnew _),
        fun lane hlane=>?_⟩
       obtain rfl:=Option.some.inj hlane
       exact List.mem_cons_self
   · obtain ⟨rfl,rfl⟩:=Prod.mk.inj (Option.some.inj h)
     refine ⟨_,_,rfl,hkept.insert hnew,fun lane hlane=>?_⟩
     obtain rfl:=Option.some.inj hlane
     exact List.mem_cons_self

theorem sandColdOpenScheduler_spec {key:κ} {idle:Option κ}
 (hkept:Kept s.routes (s.openings.flatMap Opening.schedulerRef))
 (h:s.sandColdOpenScheduler settings key idle now=some (next,id)) :
 ∃ schedulers routes,next={ s with schedulers := schedulers,routes := routes } ∧
  Kept routes (s.openings.flatMap Opening.schedulerRef) ∧ (key,id)∈routes ∧
  (∀ route∈routes,route∈s.routes ∨ route.2=s.schedulers.length) ∧
  (schedulers=s.schedulers ∨ ∃ x,Bounded x ∧ x.inFlight=0 ∧
   schedulers=s.schedulers++[x]):=by
 unfold SandOpenState.sandColdOpenScheduler at h
 split at h
 · rename_i found hfound
   obtain ⟨rfl,rfl⟩:=Prod.mk.inj (Option.some.inj h)
   exact ⟨s.schedulers,s.routes,rfl,hkept,mem_of_lookup hfound,fun route=>Or.inl,
    Or.inl rfl⟩
 · rename_i hnew
   dsimp only at h
   generalize hfull : decide (sandColdOpenSchedulerMaxEntries ≤ s.routes.length)=full at h
   split_ifs at h with hbusy hevict
   · obtain ⟨rfl,rfl⟩:=Prod.mk.inj (Option.some.inj h)
     subst hevict
     have hidle:SandOpenState.mayEvict s.routes (s.openings.flatMap Opening.schedulerRef) idle=true:=by
      cases hcase:SandOpenState.mayEvict s.routes (s.openings.flatMap Opening.schedulerRef) idle
      · rw [hcase] at hbusy
        exact absurd rfl hbusy
      · rfl
     refine ⟨_,_,rfl,(hkept.without hidle).insert (without_lookup hnew _),
      List.mem_cons_self,fun route hroute=>?_,Or.inr ⟨_,withLimits_bounded
       settings.account_pos settings.ceiling_pos _ _ _ _,rfl,rfl⟩⟩
     rcases List.mem_cons.mp hroute with rfl | hold
     · exact Or.inr rfl
     · exact Or.inl (List.mem_of_mem_filter hold)
   · obtain ⟨rfl,rfl⟩:=Prod.mk.inj (Option.some.inj h)
     refine ⟨_,_,rfl,hkept.insert hnew,List.mem_cons_self,fun route hroute=>?_,
      Or.inr ⟨_,withLimits_bounded settings.account_pos settings.ceiling_pos _ _ _ _,rfl,
       rfl⟩⟩
     rcases List.mem_cons.mp hroute with rfl | hold
     · exact Or.inr rfl
     · exact Or.inl hold

namespace Inv

theorem accountGate (h:Inv settings s) {key:κ} {idle:Option κ} {lane:Option ℕ}
 (hgate:s.accountGate settings key idle=some (next,lane)) :
 Inv settings next ∧ next.openings=s.openings ∧ next.schedulers=s.schedulers ∧
  next.pools=s.pools ∧ ∀ id,lane=some id → (key,id)∈next.account:=by
 obtain ⟨account,nextLane,rfl,hkept,hlane⟩:=accountGate_spec h.lanes hgate
 exact ⟨⟨h.accounts,hkept,h.routes,h.attempts,h.bounded,h.front,h.routeIds,h.settles⟩,rfl,rfl,rfl,hlane⟩

theorem admitSandOpenUntil (h:Inv settings s) {key:κ} {idle:Option κ}
 (hfound:s.sandColdOpenScheduler settings key idle now=some (next,id)) :
 Inv settings { next with openings := next.openings++[⟨key,id,.waiting⟩] }:=by
 obtain ⟨schedulers,routes,rfl,hkept,hmem,hids,hgrown⟩ :=
  sandColdOpenScheduler_spec h.routes hfound
 refine ⟨?_,?_,?_,fun other=>?_,fun other x hx=>?_,?_,fun route hroute=>?_,
  fun o ho=>?_⟩
 · change Accounts _ _ ((s.openings++[(⟨key,id,.waiting⟩ : Opening κ)]).flatMap Opening.held)
   rw [flatMap_waiting]
   exact (List.append_nil (s.openings.flatMap Opening.held)).symm ▸ h.accounts
 · change Kept _ ((s.openings++[(⟨key,id,.waiting⟩ : Opening κ)]).flatMap Opening.laneRef)
   rw [flatMap_waiting]
   exact (List.append_nil (s.openings.flatMap Opening.laneRef)).symm ▸ h.lanes
 · refine hkept.mono fun ref href=>?_
   change ref∈(s.openings++[(⟨key,id,.waiting⟩ : Opening κ)]).flatMap Opening.schedulerRef at href
   rw [flatMap_waiting] at href
   rcases List.mem_append.mp href with hold | hnew
   · exact Or.inl hold
   · obtain rfl:=List.mem_singleton.mp hnew
     exact Or.inr hmem
 · have hnone:uncompleted { s with
    schedulers := schedulers
    routes := routes
    openings := s.openings++[⟨key,id,.waiting⟩] } other=uncompleted s other:=by
    unfold uncompleted
    rw [flatMap_waiting,pendingIn_append]
    rfl
   rw [hnone,← h.attempts other]
   rcases hgrown with rfl | ⟨x,-,hzero,rfl⟩
   · rfl
   · unfold inFlight
     rw [List.getElem?_append]
     split_ifs with hin
     · rfl
     · rw [List.getElem?_eq_none (Nat.le_of_not_lt hin)]
       cases hlast:[x][other-s.schedulers.length]? with
       | none=>rfl
       | some y=>
        obtain rfl:=List.mem_singleton.mp (List.mem_of_getElem? hlast)
        exact hzero
 · rcases hgrown with rfl | ⟨y,hy,-,rfl⟩
   · exact h.bounded other x hx
   · rcases List.mem_append.mp (List.mem_of_getElem? hx) with hold | hnew
     · obtain ⟨place,hplace⟩:=List.mem_iff_getElem?.mp hold
       exact h.bounded place x hplace
     · obtain rfl:=List.mem_singleton.mp hnew
       exact hy
 · have hfront:=h.front
   rcases hgrown with rfl | ⟨y,-,-,rfl⟩
   · exact hfront
   · change 0<(s.schedulers++[y]).length
     rw [List.length_append]
     omega
 · rcases hids route hroute with hold | hnew
   · exact h.routeIds route hold
   · rw [hnew]
     exact h.front
 · rcases List.mem_append.mp ho with hold | hnew
   · exact h.settles o hold
   · obtain rfl:=List.mem_singleton.mp hnew
     trivial

end Inv

theorem attempt_spec {idle:Option κ} (h:s.step settings (.attempt place idle)=some t) :
 ∃ o next lane,s.openings[place]?=some o ∧ o.stage=.waiting ∧
  s.accountGate settings o.key idle=some (next,lane) ∧ t=match lane with
   | some lane=>next.setStage place o (.located lane)
   | none=>next:=by
 simp only [SandOpenState.step] at h
 split at h
 · rename_i o ho
   split at h
   · rename_i hstage
     obtain ⟨⟨next,lane⟩,hgate,rfl⟩:=Option.map_eq_some_iff.mp h
     exact ⟨o,next,lane,ho,hstage,hgate,rfl⟩
   · exact (nomatch h)
 · exact (nomatch h)

theorem giveUp_spec (h:s.step settings (.giveUp place)=some t) :
 ∃ o,s.openings[place]?=some o ∧ o.stage=.waiting ∧ t=s.setStage place o .closed:=by
 simp only [SandOpenState.step] at h
 split at h
 · rename_i o ho
   split at h
   · rename_i hstage
     exact ⟨o,ho,hstage,(Option.some.inj h).symm⟩
   · exact (nomatch h)
 · exact (nomatch h)

namespace Inv

theorem step (h:Inv settings s) {action:Action κ} (hstep:s.step settings action=some t) : Inv settings t:=by
 cases action with
 | admitSandOpenUntil key idle now=>
  obtain ⟨⟨next,id⟩,hfound,rfl⟩:=Option.map_eq_some_iff.mp hstep
  exact h.admitSandOpenUntil hfound
 | attempt place idle=>
  obtain ⟨o,next,lane,ho,hstage,hgate,rfl⟩:=attempt_spec hstep
  obtain ⟨hnext,hopenings,-,-,hlane⟩:=h.accountGate hgate
  cases lane with
  | none=>exact hnext
  | some lane=>
   refine hnext.set_pools (hopenings ▸ ho) (by rw [hstage]; rfl) next.pools
    (fun other hother=>?_) (fun rest haccounts=>?_) (by rw [hstage]; rfl) trivial
   · obtain rfl:=Option.some.inj hother
     exact hlane lane rfl
   · rw [held_of_stage hstage] at haccounts
     exact haccounts
 | advance place now=>
  obtain ⟨o,ho,hadvance⟩:=Option.bind_eq_some_iff.mp hstep
  exact h.advance ho hadvance
 | giveUp place=>
  obtain ⟨o,ho,hstage,rfl⟩:=giveUp_spec hstep
  exact h.moved ho (by rw [hstage]; rfl) (fun _ hlane=>(nomatch hlane))
   (held_of_stage hstage).symm (fun _=>by rw [hstage]; rfl) trivial
 | recordOpenOutcome place success=>exact h.ask hstep fun hdrop=>(nomatch hdrop)
 | recordOpenNeutral place=>exact h.ask hstep fun hdrop=>(nomatch hdrop)
 | drop place=>exact h.ask hstep fun _=>⟨by simp,by simp⟩

end Inv

theorem inv_of_perform {actions:List (Action κ)}
 (h:perform (SandOpenState.step settings) (.start settings now) actions=some s) : Inv settings s :=
 (perform_trace h).invariant (Inv settings) (fun _ _ _ _ hinv hstep=>hinv.step hstep)
  (Inv.start settings now)

end invariant

end CursorProxy.SandOpenAccounting
