import CursorProxy.PermitPools
import CursorProxy.Traces

/-! Two bulkheads of semaphores and two cold-open schedulers are passed one after the other. A
step is one atomic section: a lock that is held, or a semaphore that is tried or given back.
Rates and tokens are rational numbers. -/
namespace CursorProxy.SandOpenGate
open PermitPools

inductive Pool where
 | global
 | lane (id:ℕ)
deriving DecidableEq

def sandOpenGlobalMax : ℕ := 512
def sandOpenAccountMax : ℕ := 512
def sandOpenRateMax : ℕ := 512
def sandOpenMinInflight : ℕ := 8
def sandOpenMinRate : ℕ := 8
def sandColdOpenSchedulerMaxEntries : ℕ := 2048
def sandOpenBreakerMaxEntries : ℕ := 2048

def clamp (value low high:ℕ) : ℕ := min (max value low) high

/-- The limits and rates that the gate and the schedulers are made with. -/
structure SandOpenSettings where
 globalLimit : ℕ
 accountLimit : ℕ
 accountMaxEntries : ℕ
 initialInflight : ℕ
 routeInitialInflight : ℕ
 initialRate : ℕ
 routeInitialRate : ℕ
 rateCeiling : ℕ
 global_pos : 1 ≤ globalLimit
 account_pos : 1 ≤ accountLimit
 ceiling_pos : 1 ≤ rateCeiling

/-- A variable of the environment, if it is a positive number. -/
def boundedEnv (value:Option ℕ) (default limit:ℕ) : ℕ :=
 clamp ((value.filter fun value=>0<value).getD default) 1 limit

theorem boundedEnv_pos (value:Option ℕ) (default:ℕ) {limit:ℕ} (h:1 ≤ limit) : 1 ≤ boundedEnv value default limit :=
 le_min (le_max_right _ _) h

structure SandOpenEnv where
 openConcurrency : Option ℕ
 accountOpenConcurrency : Option ℕ
 openInitialInflight : Option ℕ
 accountOpenInitialInflight : Option ℕ
 openInitialRate : Option ℕ
 accountOpenInitialRate : Option ℕ
 openRate : Option ℕ

def SandOpenEnv.settings (env:SandOpenEnv) : SandOpenSettings where
 globalLimit := boundedEnv env.openConcurrency 512 sandOpenGlobalMax
 accountLimit := boundedEnv env.accountOpenConcurrency 512 sandOpenAccountMax
 accountMaxEntries := sandOpenBreakerMaxEntries
 initialInflight := boundedEnv env.openInitialInflight 32 512
 routeInitialInflight := boundedEnv env.accountOpenInitialInflight
  (boundedEnv env.openInitialInflight 32 512) sandOpenAccountMax
 initialRate := boundedEnv env.openInitialRate 32 sandOpenRateMax
 routeInitialRate := boundedEnv env.accountOpenInitialRate
  (boundedEnv env.openInitialRate 32 sandOpenRateMax) sandOpenRateMax
 rateCeiling := boundedEnv env.openRate sandOpenRateMax sandOpenRateMax
 global_pos := boundedEnv_pos _ _ (by decide)
 account_pos := boundedEnv_pos _ _ (by decide)
 ceiling_pos := boundedEnv_pos _ _ (by decide)

structure SandColdOpenScheduler where
 inFlight : ℕ
 inflightLimit : ℕ
 maxInflight : ℕ
 minInflight : ℕ
 ratePerSecond : ℚ
 maxRatePerSecond : ℚ
 minRatePerSecond : ℚ
 tokens : ℚ
 lastRefill : ℚ
 windowAttempts : ℕ
 windowFailures : ℕ
 windowTarget : ℕ
 successesSinceIncrease : ℕ
 adaptiveFailureBackoff : Bool

namespace SandColdOpenScheduler

def withLimits (initialInflight initialRate maxRate maxInflight:ℕ)
 (adaptiveFailureBackoff:Bool) (now:ℚ) : SandColdOpenScheduler :=
 let inflightLimit:=clamp initialInflight 1 maxInflight
 let maxRatePerSecond : ℚ:=clamp maxRate 1 sandOpenRateMax
 let ratePerSecond : ℚ:=min (clamp initialRate 1 maxRate:ℚ) maxRatePerSecond
 { inFlight := 0
   inflightLimit := inflightLimit
   maxInflight := maxInflight
   minInflight := min sandOpenMinInflight inflightLimit
   ratePerSecond := ratePerSecond
   maxRatePerSecond := maxRatePerSecond
   minRatePerSecond := min (sandOpenMinRate:ℚ) ratePerSecond
   tokens := ratePerSecond
   lastRefill := now
   windowAttempts := 0
   windowFailures := 0
   windowTarget := inflightLimit
   successesSinceIncrease := 0
   adaptiveFailureBackoff := adaptiveFailureBackoff }

def refill (s:SandColdOpenScheduler) (now:ℚ) : SandColdOpenScheduler :=
 let elapsed:=max (now-s.lastRefill) 0
 { s with
   tokens := min (s.tokens+elapsed*s.ratePerSecond) (max s.ratePerSecond 1)
   lastRefill := now }

/-- The bucket is refilled even if no slot is given. -/
def tryAcquireNow (s:SandColdOpenScheduler) (now:ℚ) : SandColdOpenScheduler×Bool :=
 let filled:=s.refill now
 if filled.inflightLimit ≤ filled.inFlight ∨ filled.tokens<1 then (filled,false)
 else ({ filled with inFlight := filled.inFlight+1,tokens := filled.tokens-1 },true)

def backOff (s:SandColdOpenScheduler) : SandColdOpenScheduler :=
 let rate:=max (s.ratePerSecond / 2) s.minRatePerSecond
 { s with
   inflightLimit := max (s.inflightLimit / 2) s.minInflight
   ratePerSecond := rate
   tokens := min s.tokens rate }

def speedUp (s:SandColdOpenScheduler) : SandColdOpenScheduler :=
 let rate:=min (s.ratePerSecond+max (s.ratePerSecond / 4) 1) s.maxRatePerSecond
 { s with
   inflightLimit := min (s.inflightLimit+max (s.inflightLimit / 4) 1) s.maxInflight
   ratePerSecond := rate
   tokens := min s.tokens rate }

def newWindow (s:SandColdOpenScheduler) : SandColdOpenScheduler :=
 { s with
   windowAttempts := 0
   windowFailures := 0
   windowTarget := max s.inflightLimit 1
   successesSinceIncrease := 0 }

def counted (s:SandColdOpenScheduler) (success:Bool) : SandColdOpenScheduler :=
 { s with
   inFlight := s.inFlight-1
   windowAttempts := s.windowAttempts+1
   windowFailures := s.windowFailures+(if success then 0 else 1)
   successesSinceIncrease := s.successesSinceIncrease+(if success then 1 else 0) }

/-- The limits move once for each window of attempts. -/
def finish (s:SandColdOpenScheduler) (success:Bool) : SandColdOpenScheduler :=
 let counted:=s.counted success
 if max counted.windowTarget 1 ≤ counted.windowAttempts then
  if counted.adaptiveFailureBackoff=true ∧
   counted.windowAttempts ≤ counted.windowFailures*2 then
   counted.backOff.newWindow
  else if counted.windowFailures=0 ∧ counted.inflightLimit<counted.maxInflight then
   counted.speedUp.newWindow
  else counted.newWindow
 else counted

/-- No attempt was made: the slot and the token come back. -/
def cancel (s:SandColdOpenScheduler) : SandColdOpenScheduler :=
 { s with
   inFlight := s.inFlight-1
   tokens := min (s.tokens+1) (max s.ratePerSecond 1) }

end SandColdOpenScheduler

structure SandColdOpenPermit where
 scheduler : ℕ
 completed : Bool

inductive ColdOpenCall where
 | complete (success:Bool)
 | cancel

def ColdOpenCall.settled (call:ColdOpenCall) (scheduler:SandColdOpenScheduler) : SandColdOpenScheduler :=
 match call with
 | .complete success=>scheduler.finish success
 | .cancel=>scheduler.cancel

inductive ColdOpenSide where
 | global
 | route

/-- Where the admission and the permit of a caller stand. Slots are held by the numbers under
which they were issued. -/
inductive Stage where
 /-- Between two attempts, with the route's scheduler at hand. -/
 | waiting
 | located (lane:ℕ)
 | reserved (lane globalSerial:ℕ)
 | bulkheads (lane accountSerial globalSerial:ℕ)
 | paced (lane accountSerial globalSerial:ℕ) (globalCold:SandColdOpenPermit)
 /-- The route's scheduler refused. -/
 | refused (lane accountSerial globalSerial:ℕ) (globalCold:SandColdOpenPermit)
 | admitted (lane accountSerial globalSerial:ℕ) (globalCold routeCold:SandColdOpenPermit)
  (calls:List (ColdOpenSide×ColdOpenCall)) (dropped:Bool)
 | releasing (lane accountSerial globalSerial:ℕ) (again:Bool)
 | unreserving (globalSerial:ℕ) (again:Bool)
 | closed

namespace Stage

def globalHeld : Stage → List (Permit Pool)
 | reserved _ g | bulkheads _ _ g | paced _ _ g _ | refused _ _ g _ | admitted _ _ g _ _ _ _
 | releasing _ _ g _ | unreserving g _=>[⟨.global,g⟩]
 | waiting | located _ | closed=>[]

def accountHeld : Stage → List (Permit Pool)
 | bulkheads l a _ | paced l a _ _ | refused l a _ _ | admitted l a _ _ _ _ _
 | releasing l a _ _=>[⟨.lane l,a⟩]
 | waiting | located _ | reserved _ _ | unreserving _ _ | closed=>[]

def lane : Stage → Option ℕ
 | located l | reserved l _ | bulkheads l _ _ | paced l _ _ _ | refused l _ _ _
 | admitted l _ _ _ _ _ _ | releasing l _ _ _=>some l
 | waiting | unreserving _ _ | closed=>none

def coldOpens : Stage → List SandColdOpenPermit
 | paced _ _ _ globalCold | refused _ _ _ globalCold=>[globalCold]
 | admitted _ _ _ globalCold routeCold _ _=>[globalCold,routeCold]
 | _=>[]

/-- Whether the admission, or the permit it gave, still refers to the route's scheduler. -/
def live : Stage → Bool
 | closed=>false
 | _=>true

end Stage

structure Opening (κ:Type*) where
 key : κ
 scheduler : ℕ
 stage : Stage

/-- The account lanes and the route schedulers are named by numbers; the schedulers are kept for
those who still hold them, the process-wide one in front. -/
structure SandOpenState (κ:Type*) where
 pools : Pools Pool
 account : List (κ×ℕ)
 nextLane : ℕ
 schedulers : List SandColdOpenScheduler
 routes : List (κ×ℕ)
 openings : List (Opening κ)

variable {κ:Type*} [DecidableEq κ]

namespace Opening

def held (o:Opening κ) : List (Permit Pool) := o.stage.accountHeld++o.stage.globalHeld

def laneRef (o:Opening κ) : List (κ×ℕ) := o.stage.lane.toList.map fun lane=>(o.key,lane)

def schedulerRef (o:Opening κ) : List (κ×ℕ) :=
 if o.stage.live then [(o.key,o.scheduler)] else []

end Opening

inductive Action (κ:Type*) where
 /-- The admission of a key begins; the entry of the map that would be evicted. -/
 | admitSandOpenUntil (key:κ) (idle:Option κ) (now:ℚ)
 | attempt (place:ℕ) (idle:Option κ)
 /-- The next atomic section of a caller. -/
 | advance (place:ℕ) (now:ℚ)
 | giveUp (place:ℕ)
 | recordOpenOutcome (place:ℕ) (success:Bool)
 | recordOpenNeutral (place:ℕ)
 | drop (place:ℕ)

namespace SandOpenState

def capacity (settings:SandOpenSettings) : Pool → ℕ
 | .global=>clamp settings.globalLimit 1 sandOpenGlobalMax
 | .lane _=>clamp settings.accountLimit 1 sandOpenAccountMax

def start (settings:SandOpenSettings) (now:ℚ) : SandOpenState κ where
 pools := Pools.full (capacity settings)
 account := []
 nextLane := 0
 schedulers := [.withLimits settings.initialInflight settings.initialRate settings.rateCeiling
  settings.globalLimit false now]
 routes := []
 openings := []

def held (s:SandOpenState κ) : List (Permit Pool) := s.openings.flatMap Opening.held

/-- The entry that an iteration of a map may find: one that only the map refers to, and one if
there is any. -/
def mayEvict (entries refs:List (κ×ℕ)) : Option κ → Bool
 | some key=>entries.any fun entry=>entry.1=key ∧ ∀ ref∈refs,ref.2≠entry.2
 | none=>entries.all fun entry=>refs.any fun ref=>ref.2=entry.2

def without (entries:List (κ×ℕ)) (idle:Option κ) : List (κ×ℕ) :=
 entries.filter fun entry=>some entry.1≠idle

/-- The state with a lane for the key, and the lane; none while every entry is in use. -/
def accountGate (settings:SandOpenSettings) (s:SandOpenState κ) (key:κ) (idle:Option κ) :
 Option (SandOpenState κ×Option ℕ) :=
 match s.account.lookup key with
 | some id=>some (s,some id)
 | none=>
  if max settings.accountMaxEntries 1 ≤ s.account.length then
   if mayEvict s.account (s.openings.flatMap Opening.laneRef) idle then
    match idle with
    | none=>some (s,none)
    | some _=>some ({ s with
     account := (key,s.nextLane)::without s.account idle
     nextLane := s.nextLane+1 },some s.nextLane)
   else none
  else some ({ s with
   account := (key,s.nextLane)::s.account
   nextLane := s.nextLane+1 },some s.nextLane)

/-- A map that is full of schedulers in use grows. -/
def sandColdOpenScheduler (settings:SandOpenSettings) (s:SandOpenState κ) (key:κ)
 (idle:Option κ) (now:ℚ) : Option (SandOpenState κ×ℕ) :=
 match s.routes.lookup key with
 | some id=>some (s,id)
 | none=>
  let full:=decide (sandColdOpenSchedulerMaxEntries ≤ s.routes.length)
  if full&&!mayEvict s.routes (s.openings.flatMap Opening.schedulerRef) idle then none
  else some ({ s with
   schedulers := s.schedulers++[.withLimits settings.routeInitialInflight
    settings.routeInitialRate settings.rateCeiling settings.accountLimit true now]
   routes := (key,s.schedulers.length) :: (if full then without s.routes idle else s.routes) },s.schedulers.length)

def setStage (s:SandOpenState κ) (place:ℕ) (o:Opening κ) (stage:Stage) : SandOpenState κ :=
 { s with openings := s.openings.set place { o with stage := stage } }

def pace (s:SandOpenState κ) (id:ℕ) (now:ℚ) : Option (SandOpenState κ×Bool) :=
 (s.schedulers[id]?).map fun scheduler=>
  let answer:=scheduler.tryAcquireNow now
  ({ s with schedulers := s.schedulers.set id answer.1 },answer.2)

def settle (s:SandOpenState κ) (id:ℕ) (change:SandColdOpenScheduler → SandColdOpenScheduler) : SandOpenState κ :=
 { s with schedulers := s.schedulers.modify id change }

/-- A call on a cold open that was completed does nothing. -/
def callCold (s:SandOpenState κ) (cold:SandColdOpenPermit) (call:ColdOpenCall) : SandOpenState κ×SandColdOpenPermit :=
 if cold.completed then (s,cold)
 else (s.settle cold.scheduler call.settled,{ cold with completed := true })

def advance (s:SandOpenState κ) (place:ℕ) (o:Opening κ) (now:ℚ) : Option (SandOpenState κ) :=
 match o.stage with
 | .waiting | .closed=>none
 | .located lane=>match s.pools.take .global with
  | some (pools,permit)=>
   some ({ s with pools := pools }.setStage place o (.reserved lane permit.serial))
  | none=>some (s.setStage place o .waiting)
 | .reserved lane g=>match s.pools.take (.lane lane) with
  | some (pools,permit)=>
   some ({ s with pools := pools }.setStage place o (.bulkheads lane permit.serial g))
  | none=>some (s.setStage place o (.unreserving g true))
 | .bulkheads lane a g=>(s.pace 0 now).map fun (next,granted)=>
  next.setStage place o (if granted then .paced lane a g ⟨0,false⟩ else .releasing lane a g true)
 | .paced lane a g cold=>(s.pace o.scheduler now).map fun (next,granted)=>
  next.setStage place o
   (if granted then .admitted lane a g cold ⟨o.scheduler,false⟩ [] false
    else .refused lane a g cold)
 | .refused lane a g cold=>
  some ((s.callCold cold .cancel).1.setStage place o (.releasing lane a g true))
 | .admitted lane a g globalCold routeCold ((.global,call)::calls) dropped=>
  let (next,called):=s.callCold globalCold call
  some (next.setStage place o (.admitted lane a g called routeCold calls dropped))
 | .admitted lane a g globalCold routeCold ((.route,call)::calls) dropped=>
  let (next,called):=s.callCold routeCold call
  some (next.setStage place o (.admitted lane a g globalCold called calls dropped))
 | .admitted lane a g _ _ [] dropped=>
  if dropped then some (s.setStage place o (.releasing lane a g false)) else none
 | .releasing lane a g again=>
  some ({ s with pools := s.pools.give ⟨.lane lane,a⟩ }.setStage place o (.unreserving g again))
 | .unreserving g again=>
  some ({ s with pools := s.pools.give ⟨.global,g⟩ }.setStage place o
   (if again then .waiting else .closed))

/-- The owner of a permit that is not being called asks for the calls. -/
def ask (s:SandOpenState κ) (place:ℕ) (calls:List (ColdOpenSide×ColdOpenCall)) (drop:Bool) : Option (SandOpenState κ) :=
 match s.openings[place]? with
 | some o=>match o.stage with
  | .admitted lane a g globalCold routeCold [] false=>
   some (s.setStage place o (.admitted lane a g globalCold routeCold calls drop))
  | _=>none
 | none=>none

def step (settings:SandOpenSettings) (s:SandOpenState κ) : Action κ → Option (SandOpenState κ)
 | .admitSandOpenUntil key idle now=>(s.sandColdOpenScheduler settings key idle now).map fun
  (next,id)=>
  { next with openings := next.openings++[⟨key,id,.waiting⟩] }
 | .attempt place idle=>match s.openings[place]? with
  | some o=>match o.stage with
   | .waiting=>(s.accountGate settings o.key idle).map fun (next,lane)=>
    match lane with
    | some lane=>next.setStage place o (.located lane)
    | none=>next
   | _=>none
  | none=>none
 | .advance place now=>(s.openings[place]?).bind fun o=>s.advance place o now
 | .giveUp place=>match s.openings[place]? with
  | some o=>match o.stage with
   | .waiting=>some (s.setStage place o .closed)
   | _=>none
  | none=>none
 | .recordOpenOutcome place success=>
  s.ask place [(.global,.complete success),(.route,.complete success)] false
 | .recordOpenNeutral place=>s.ask place [(.global,.cancel),(.route,.cancel)] false
 | .drop place=>s.ask place [(.route,.cancel),(.global,.cancel)] true

end SandOpenState
end CursorProxy.SandOpenGate
