import CursorProxy.SandDriverRuns

/-! Every call of `client.open` in a logical turn, the first one included, is paid from one of
three budgets. Times are in nanoseconds, and what is left is the time before the deadline of the
turn. -/
namespace CursorProxy.SandBudget
open RunInference SandDriver Driver

structure SandAttemptBudget where
 transportRemaining : ℕ
 accountFailoverRemaining : ℕ
 toolFallbackRemaining : ℕ

def SandAttemptBudget.remaining (budget:SandAttemptBudget) : SandOpenAttemptKind → ℕ
 | .transport=>budget.transportRemaining
 | .accountFailover=>budget.accountFailoverRemaining
 | .toolFallback=>budget.toolFallbackRemaining

def SandAttemptBudget.total (budget:SandAttemptBudget) : ℕ :=
 budget.transportRemaining+budget.accountFailoverRemaining+budget.toolFallbackRemaining

def SandAttemptBudget.tryConsume (budget:SandAttemptBudget) : SandOpenAttemptKind → Option SandAttemptBudget
 | .transport=>
  if budget.transportRemaining=0 then none
  else some { budget with transportRemaining := budget.transportRemaining-1 }
 | .accountFailover=>
  if budget.accountFailoverRemaining=0 then none
  else some { budget with accountFailoverRemaining := budget.accountFailoverRemaining-1 }
 | .toolFallback=>
  if budget.toolFallbackRemaining=0 then none
  else some { budget with toolFallbackRemaining := budget.toolFallbackRemaining-1 }

inductive Act where
 | consumed (kind:SandOpenAttemptKind)
 | opened
 deriving DecidableEq

structure Spending where
 budget : SandAttemptBudget
 acts : List Act

def Spending.tryConsume (spending:Spending) (kind:SandOpenAttemptKind) : Option Spending :=
 (spending.budget.tryConsume kind).map fun budget=>⟨budget,spending.acts++[.consumed kind]⟩

def Spending.opens (spending:Spending) : Spending :=
 { spending with acts := spending.acts++[.opened] }

inductive Admission where
 | permit
 | full
 | error (error:CursorError)

structure Wait where
 elapsed : ℕ
 admission : Admission

inductive Answer where
 /-- There is no answer yet. -/
 | pending
 | stream
 | failed (error:CursorError)

structure OpenTry where
 elapsed : ℕ
 preflight : Option CursorError
 breaker : Option CursorError
 waits : List Wait
 episodeExpired : Bool
 opened : Answer
 /-- The deadline of the episode is further away than the delay. -/
 delayFits : Bool
 delay : ℕ

/-- The number is that of the tools of the request. -/
structure OpenEnv where
 maxRetries : ℕ
 isSandToolCapabilityError : CursorError → ℕ → Bool
 isSandAccountFailoverError : CursorError → ℕ → Bool
 shouldRetryUpstream : CursorError → Bool
 /-- The error with the marker of an exhausted budget. -/
 exhausted : CursorError → CursorError

def admissionDeadline : CursorError :=
 ⟨504,"Sand inference open admission deadline exhausted",none⟩

def openDeadline : CursorError := ⟨504,"Sand inference open retry budget exhausted",none⟩

def budgetExhausted : CursorError := ⟨503,"Sand upstream attempt budget exhausted",none⟩

def millisecond : ℕ := 1000000

def awaitPermit : ℕ → List Wait → Answer×ℕ
 | left,[]=>(.pending,left)
 | left,wait::waits=>match wait.admission with
  | .permit=>(.stream,left-wait.elapsed)
  | .error error=>(.failed error,left-wait.elapsed)
  | .full=>
   if left-wait.elapsed=0 then (.failed admissionDeadline,0)
   else awaitPermit (left-wait.elapsed -
    max 1 (min (left-wait.elapsed) (250*millisecond) / millisecond)*millisecond) waits

def openSandWithRetriesUntil (env:OpenEnv) (tools:ℕ) : ℕ → SandOpenAttemptKind →
  Option CursorError → Spending → ℕ → List OpenTry → Answer×Spending×ℕ
 | _,_,_,spending,left,[]=>(.pending,spending,left)
 | attempt,kind,lastError,spending,left,next::tries=>
  if left-next.elapsed=0 then (.failed openDeadline,spending,0)
  else match next.preflight.or next.breaker with
   | some error=>(.failed error,spending,left-next.elapsed)
   | none=>match awaitPermit (left-next.elapsed) next.waits with
    | (.pending,left)=>(.pending,spending,left)
    | (.failed error,left)=>(.failed error,spending,left)
    | (.stream,left)=>
     if next.episodeExpired then (.failed openDeadline,spending,left)
     else match spending.tryConsume kind with
      | none=>(.failed (env.exhausted (lastError.getD budgetExhausted)),spending,left)
      | some spending=>match next.opened with
       | .pending=>(.pending,spending.opens,left)
       | .stream=>(.stream,spending.opens,left)
       | .failed error=>
        if env.isSandToolCapabilityError error tools then
         (.failed error,spending.opens,left)
        else if decide (attempt<env.maxRetries) &&
          !env.isSandAccountFailoverError error tools &&
          env.shouldRetryUpstream error then
         if !next.delayFits then (.failed error,spending.opens,left)
         else openSandWithRetriesUntil env tools (attempt+1) .transport (some error)
          spending.opens (left-next.delay) tries
        else (.failed error,spending.opens,left)

structure Opening where
 tools : ℕ
 probe : Option CursorError
 tries : List OpenTry

def openSandWithPolicyProbeUntil (env:OpenEnv) (kind:SandOpenAttemptKind)
  (spending:Spending) (left:ℕ) (opening:Opening) : Answer×Spending×ℕ :=
 match opening.probe with
 | some error=>(.failed error,spending,left)
 | none=>openSandWithRetriesUntil env opening.tools 0 kind none spending left opening.tries

/-- One turn of the loop before the driver; `elapsed` is the time of the account lookup. -/
structure First where
 opening : Opening
 replacement : Bool
 elapsed : ℕ

inductive FirstStream where
 | pending
 | failed
 | opened (fallbackRequest:Bool) (swaps:ℕ)
 deriving DecidableEq

def swapsAccount (env:SandEnv) (error:CursorError) : Bool :=
 !env.sandAttemptBudgetExhausted error&&!env.isSandToolCapabilityError error &&
  (env.isAccountFailoverOpenError error||env.cursorErrorIsAccountFailoverPolicy error ||
   env.isSandAccountFailoverError error)

def openFirst (env:SandEnv) (openEnv:OpenEnv) : Bool → ℕ → SandOpenAttemptKind → Spending →
  ℕ → List First → FirstStream×Spending
 | _,_,_,spending,_,[]=>(.pending,spending)
 | fallbackRequest,swaps,kind,spending,left,next::firsts=>
  match openSandWithPolicyProbeUntil openEnv kind spending left next.opening with
  | (.pending,spending,_)=>(.pending,spending)
  | (.stream,spending,_)=>(.opened fallbackRequest swaps,spending)
  | (.failed error,spending,left)=>
   if swapsAccount env error then
    if decide (swaps<env.swapLimit)&&next.replacement then
     openFirst env openEnv fallbackRequest (swaps+1) .accountFailover spending (left-next.elapsed) firsts
    else if env.isSandAdmissionCapacityError error&&decide (left-next.elapsed≠0) then
     openFirst env openEnv fallbackRequest swaps .transport spending
      (left-next.elapsed-min (left-next.elapsed) (250*millisecond)) firsts
    else (.failed,spending)
   else if env.isSandToolCapabilityError error&&fallbackRequest then
    openFirst env openEnv false swaps .toolFallback spending left firsts
   else (.failed,spending)

/-- One turn of the driver's loop; `left` is the time that is left when it opens. -/
structure TurnAttempt where
 attempt : Attempt
 left : ℕ
 opening : Opening

/-- The receiver may go while the open is under way. -/
def driveOne (env:SandEnv) (openEnv:OpenEnv) (s:Driver) (spending:Spending)
  (next:TurnAttempt) : (Driver×Status)×Spending :=
 if next.attempt.closed||s.hasStream||decide (next.left=0) then
  (s.iterate env { next.attempt with expired := decide (next.left=0) },spending)
 else match openSandWithPolicyProbeUntil openEnv s.nextOpenKind spending next.left
   next.opening with
  | (.pending,spending,_)=>
   ((s,if next.attempt.closedOpening then .closed else .waiting),spending)
  | (.stream,spending,_)=>
   (s.iterate env { next.attempt with expired := false,opened := none },spending)
  | (.failed error,spending,_)=>
   (s.iterate env { next.attempt with expired := false,opened := some error },spending)

def driveTurn (env:SandEnv) (openEnv:OpenEnv) : Driver → Spending → List TurnAttempt → (Driver×Status)×Spending
 | s,spending,[]=>((s,.again),spending)
 | s,spending,next::attempts=>match driveOne env openEnv s spending next with
  | ((s,.again),spending)=>driveTurn env openEnv s spending attempts
  | ((s,status),spending)=>((s,status),spending)

inductive Outcome where
 | opening
 | failed
 | driven (status:Status)
 deriving DecidableEq

structure Turn where
 fallbackRequest : Bool
 swaps : ℕ
 left : ℕ
 firsts : List First
 attempts : List TurnAttempt

def sandTurn (env:SandEnv) (openEnv:OpenEnv) (budget:SandAttemptBudget) (turn:Turn) : Outcome×Spending :=
 match openFirst env openEnv turn.fallbackRequest turn.swaps .transport ⟨budget,[]⟩ turn.left
   turn.firsts with
 | (.pending,spending)=>(.opening,spending)
 | (.failed,spending)=>(.failed,spending)
 | (.opened fallbackRequest swaps,spending)=>
  ((.driven (driveTurn env openEnv (start fallbackRequest swaps) spending turn.attempts).1.2,
   (driveTurn env openEnv (start fallbackRequest swaps) spending turn.attempts).2))

def consumedOf (kind:SandOpenAttemptKind) (acts:List Act) : ℕ := acts.count (.consumed kind)

def openedOf (acts:List Act) : ℕ := acts.count .opened

/-- Each open comes right after the unit that pays for it. -/
inductive Paired : List Act → Prop where
 | nil : Paired []
 | opened (kind:SandOpenAttemptKind) {acts:List Act} :
  Paired acts → Paired (.consumed kind :: .opened::acts)

theorem Paired.append {acts more:List Act} (h:Paired acts) (hmore:Paired more) : Paired (acts++more):=by
 induction h with
 | nil=>exact hmore
 | opened kind hacts ih=>exact ih.opened kind

theorem Paired.openedOf_eq {acts:List Act} (h:Paired acts) : openedOf acts =
  consumedOf .transport acts+consumedOf .accountFailover acts + consumedOf .toolFallback acts:=by
 induction h with
 | nil=>rfl
 | opened kind hacts ih=>
  unfold openedOf consumedOf at *
  cases kind <;> simp <;> omega

/-- What was done since, and what it consumed is gone from the budgets. -/
def Spends (before after:Spending) : Prop :=
 ∃ acts,after.acts=before.acts++acts ∧ Paired acts ∧
  ∀ kind,after.budget.remaining kind+consumedOf kind acts=before.budget.remaining kind

namespace Spends

theorem refl (spending:Spending) : Spends spending spending :=
 ⟨[],(List.append_nil _).symm,.nil,fun _=>rfl⟩

theorem trans {a b c:Spending} (h:Spends a b) (h':Spends b c) : Spends a c:=by
 obtain ⟨acts,hacts,hpaired,hkept⟩:=h
 obtain ⟨more,hmore,hpaired',hkept'⟩:=h'
 refine ⟨acts++more,by rw [hmore,hacts,List.append_assoc],hpaired.append hpaired',?_⟩
 intro kind
 have hfirst:=hkept kind
 have hsecond:=hkept' kind
 unfold consumedOf at *
 rw [List.count_append]
 omega

theorem total_eq {before after:Spending} (h:Spends before after) :
  ∃ acts,after.acts=before.acts++acts ∧ after.budget.total+openedOf acts=before.budget.total:=by
 obtain ⟨acts,hacts,hpaired,hkept⟩:=h
 refine ⟨acts,hacts,?_⟩
 have htransport:=hkept .transport
 have haccount:=hkept .accountFailover
 have htool:=hkept .toolFallback
 rw [hpaired.openedOf_eq]
 simp only [SandAttemptBudget.remaining] at htransport haccount htool
 unfold SandAttemptBudget.total
 omega

theorem total_le {before after:Spending} (h:Spends before after) : after.budget.total ≤ before.budget.total:=by
 obtain ⟨acts,-,htotal⟩:=h.total_eq
 omega

theorem one {before after:Spending} {kind:SandOpenAttemptKind}
  (h:before.tryConsume kind=some after) : Spends before after.opens:=by
 obtain ⟨⟨transport,account,tool⟩,acts⟩:=before
 refine ⟨[.consumed kind,.opened],?_,Paired.nil.opened kind,?_⟩
 · obtain ⟨budget,-,rfl⟩:=Option.map_eq_some_iff.mp h
   simp [Spending.opens]
 · intro other
   obtain ⟨budget,hbudget,rfl⟩:=Option.map_eq_some_iff.mp h
   cases kind <;> simp only [SandAttemptBudget.tryConsume] at hbudget <;> split_ifs at hbudget <;>
    obtain rfl:=Option.some.inj hbudget <;>
    cases other <;> simp [Spending.opens,SandAttemptBudget.remaining,consumedOf] <;> omega

theorem one_lt {before after:Spending} {kind:SandOpenAttemptKind}
  (h:before.tryConsume kind=some after) : after.opens.budget.total<before.budget.total:=by
 obtain ⟨acts,hacts,htotal⟩:=(one h).total_eq
 have hmore:acts=[.consumed kind,.opened]:=by
  obtain ⟨budget,-,rfl⟩:=Option.map_eq_some_iff.mp h
  simpa [Spending.opens] using hacts.symm
 rw [hmore] at htotal
 have hone:openedOf [.consumed kind,.opened]=1:=by cases kind <;> rfl
 omega

end Spends

/-- What an open spends and how long it takes; a stream is paid. -/
structure Opens (before:Spending) (left:ℕ) (result:Answer×Spending×ℕ) : Prop where
 spends : Spends before result.2.1
 left : result.2.2 ≤ left
 paid : result.1=.stream → result.2.1.budget.total<before.budget.total

theorem awaitPermit_left (left:ℕ) (waits:List Wait) : (awaitPermit left waits).2 ≤ left:=by
 induction waits generalizing left with
 | nil=>exact le_rfl
 | cons wait waits ih=>
  unfold awaitPermit
  cases wait.admission with
  | permit=>exact Nat.sub_le _ _
  | error error=>exact Nat.sub_le _ _
  | full=>
   dsimp only
   split_ifs
   · exact Nat.zero_le _
   · exact (ih _).trans ((Nat.sub_le _ _).trans (Nat.sub_le _ _))

theorem open_opens (env:OpenEnv) (tools:ℕ) (tries:List OpenTry) :
  ∀ attempt kind lastError spending left,Opens spending left
   (openSandWithRetriesUntil env tools attempt kind lastError spending left tries):=by
 induction tries with
 | nil=>exact fun _ _ _ spending _=>⟨.refl spending,le_rfl,nofun⟩
 | cons next tries ih=>
  intro attempt kind lastError spending left
  unfold openSandWithRetriesUntil
  by_cases hgone:left-next.elapsed=0
  · rw [if_pos hgone]
    exact ⟨.refl spending,Nat.zero_le _,nofun⟩
  rw [if_neg hgone]
  cases next.preflight.or next.breaker with
  | some error=>exact ⟨.refl spending,Nat.sub_le _ _,nofun⟩
  | none=>
   have hleft:=(awaitPermit_left (left-next.elapsed) next.waits).trans (Nat.sub_le _ _)
   dsimp only
   generalize awaitPermit (left-next.elapsed) next.waits=permit at hleft ⊢
   obtain ⟨permit,rest⟩:=permit
   cases permit with
   | pending=>exact ⟨.refl spending,hleft,nofun⟩
   | failed error=>exact ⟨.refl spending,hleft,nofun⟩
   | stream=>
    dsimp only
    by_cases hexpired:next.episodeExpired=true
    · rw [if_pos hexpired]
      exact ⟨.refl spending,hleft,nofun⟩
    rw [if_neg hexpired]
    cases hpaid:spending.tryConsume kind with
    | none=>exact ⟨.refl spending,hleft,nofun⟩
    | some after=>
     dsimp only
     cases next.opened with
     | pending=>exact ⟨.one hpaid,hleft,nofun⟩
     | stream=>exact ⟨.one hpaid,hleft,fun _=>Spends.one_lt hpaid⟩
     | failed error=>
      dsimp only
      split_ifs
      · exact ⟨.one hpaid,hleft,nofun⟩
      · exact ⟨.one hpaid,hleft,nofun⟩
      · have hrest:=ih (attempt+1) .transport (some error) after.opens (rest-next.delay)
        exact ⟨(Spends.one hpaid).trans hrest.spends,hrest.left.trans ((Nat.sub_le _ _).trans hleft),
         fun hstream=>(hrest.paid hstream).trans (Spends.one_lt hpaid)⟩
      · exact ⟨.one hpaid,hleft,nofun⟩

theorem opening_opens (env:OpenEnv) (kind:SandOpenAttemptKind) (spending:Spending) (left:ℕ) (opening:Opening) :
  Opens spending left (openSandWithPolicyProbeUntil env kind spending left opening):=by
 unfold openSandWithPolicyProbeUntil
 cases opening.probe with
 | some error=>exact ⟨.refl spending,le_rfl,nofun⟩
 | none=>exact open_opens env opening.tools opening.tries 0 kind none spending left

theorem awaitPermit_answers {left:ℕ} {waits:List Wait} (h:left<waits.length) :
  (awaitPermit left waits).1 ≠ .pending:=by
 induction waits generalizing left with
 | nil=>exact absurd h (Nat.not_lt_zero _)
 | cons wait waits ih=>
  unfold awaitPermit
  cases wait.admission with
  | permit=>exact nofun
  | error error=>exact nofun
  | full=>
   dsimp only
   split_ifs with hgone
   · exact nofun
   · apply ih
     have hpause:0 < max 1 (min (left-wait.elapsed) (250*millisecond) / millisecond) *
       millisecond := Nat.mul_pos (by omega) (by decide)
     rw [List.length_cons] at h
     omega

/-- There are as many answers as the open can ask for. -/
structure Opening.Answered (env:OpenEnv) (left:ℕ) (opening:Opening) : Prop where
 tries : env.maxRetries<opening.tries.length
 waits : ∀ next∈opening.tries,left<next.waits.length
 opened : ∀ next∈opening.tries,next.opened ≠ .pending

theorem open_answers (env:OpenEnv) (tools:ℕ) (tries:List OpenTry) :
  ∀ attempt kind lastError spending left,attempt ≤ env.maxRetries → env.maxRetries-attempt<tries.length →
   (∀ next∈tries,left<next.waits.length) → (∀ next∈tries,next.opened ≠ .pending) →
    (openSandWithRetriesUntil env tools attempt kind lastError spending left tries).1 ≠ .pending:=by
 induction tries with
 | nil=>exact fun _ _ _ _ _ _ hlength=>absurd hlength (Nat.not_lt_zero _)
 | cons next tries ih=>
  intro attempt kind lastError spending left hattempt hlength hwaits hopened
  unfold openSandWithRetriesUntil
  by_cases hgone:left-next.elapsed=0
  · rw [if_pos hgone]
    exact nofun
  rw [if_neg hgone]
  cases next.preflight.or next.breaker with
  | some error=>exact nofun
  | none=>
   have hleft:=(awaitPermit_left (left-next.elapsed) next.waits).trans (Nat.sub_le _ _)
   have hpermit:=awaitPermit_answers ((Nat.sub_le left next.elapsed).trans_lt (hwaits next List.mem_cons_self))
   dsimp only
   generalize awaitPermit (left-next.elapsed) next.waits=permit at hleft hpermit ⊢
   obtain ⟨permit,rest⟩:=permit
   cases permit with
   | pending=>exact absurd rfl hpermit
   | failed error=>exact nofun
   | stream=>
    dsimp only
    by_cases hexpired:next.episodeExpired=true
    · rw [if_pos hexpired]
      exact nofun
    rw [if_neg hexpired]
    cases spending.tryConsume kind with
    | none=>exact nofun
    | some after=>
     dsimp only
     cases hanswer:next.opened with
     | pending=>exact absurd hanswer (hopened next List.mem_cons_self)
     | stream=>exact nofun
     | failed error=>
      dsimp only
      split_ifs with hcapability hretry
      · exact nofun
      · exact nofun
      · simp only [Bool.and_eq_true,decide_eq_true_eq] at hretry
        rw [List.length_cons] at hlength
        refine ih _ _ _ _ _ (by omega) (by omega) (fun other hmem=>?_)
         fun other hmem=>hopened other (List.mem_cons_of_mem _ hmem)
        have hother:=hwaits other (List.mem_cons_of_mem _ hmem)
        omega
      · exact nofun

theorem opening_answers {env:OpenEnv} {left:ℕ} {opening:Opening}
  (h:opening.Answered env left) (kind:SandOpenAttemptKind) (spending:Spending) :
  (openSandWithPolicyProbeUntil env kind spending left opening).1 ≠ .pending:=by
 unfold openSandWithPolicyProbeUntil
 cases opening.probe with
 | some error=>exact nofun
 | none=>
  exact open_answers env opening.tools opening.tries 0 kind none spending left (Nat.zero_le _)
   h.tries h.waits h.opened

theorem openFirst_spends (env:SandEnv) (openEnv:OpenEnv) (firsts:List First) :
  ∀ fallbackRequest swaps kind spending left,Spends spending
   (openFirst env openEnv fallbackRequest swaps kind spending left firsts).2:=by
 induction firsts with
 | nil=>exact fun _ _ _ spending _=>.refl spending
 | cons next firsts ih=>
  intro fallbackRequest swaps kind spending left
  unfold openFirst
  have hspends:=(opening_opens openEnv kind spending left next.opening).spends
  generalize openSandWithPolicyProbeUntil openEnv kind spending left next.opening=result
   at hspends ⊢
  obtain ⟨answer,after,rest⟩:=result
  cases answer with
  | pending=>exact hspends
  | stream=>exact hspends
  | failed error=>
   dsimp only
   split_ifs
   · exact hspends.trans (ih _ _ _ _ _)
   · exact hspends.trans (ih _ _ _ _ _)
   · exact hspends
   · exact hspends.trans (ih _ _ _ _ _)
   · exact hspends

theorem Opening.Answered.mono {env:OpenEnv} {left rest:ℕ} {opening:Opening}
  (h:opening.Answered env left) (hrest:rest ≤ left) : opening.Answered env rest :=
 ⟨h.tries,fun next hmem=>hrest.trans_lt (h.waits next hmem),h.opened⟩

theorem openFirst_ends (env:SandEnv) (openEnv:OpenEnv) (firsts:List First) :
  ∀ fallbackRequest swaps kind spending left,(∀ next∈firsts,next.opening.Answered openEnv left) →
   env.swapLimit-swaps+fallbackRequest.toNat+left<firsts.length →
    (openFirst env openEnv fallbackRequest swaps kind spending left firsts).1 ≠ .pending:=by
 induction firsts with
 | nil=>exact fun _ _ _ _ _ _ hlength=>absurd hlength (Nat.not_lt_zero _)
 | cons next firsts ih=>
  intro fallbackRequest swaps kind spending left hanswered hlength
  unfold openFirst
  have hleft:=(opening_opens openEnv kind spending left next.opening).left
  have hanswer:=opening_answers (hanswered next List.mem_cons_self) kind spending
  generalize openSandWithPolicyProbeUntil openEnv kind spending left next.opening=result
   at hleft hanswer ⊢
  obtain ⟨answer,after,rest⟩:=result
  have hlater:∀ rest' ≤ left,∀ other∈firsts,other.opening.Answered openEnv rest' :=
   fun rest' hrest' other hmem=>(hanswered other (List.mem_cons_of_mem _ hmem)).mono hrest'
  rw [List.length_cons] at hlength
  cases answer with
  | pending=>exact absurd rfl hanswer
  | stream=>exact nofun
  | failed error=>
   dsimp only at hleft ⊢
   split_ifs with hswap hreplacement hcapacity hcapability
   · simp only [Bool.and_eq_true,decide_eq_true_eq] at hreplacement
     exact ih _ _ _ _ _ (hlater _ (by omega)) (by omega)
   · simp only [Bool.and_eq_true,decide_eq_true_eq] at hcapacity
     have hquarter:0<250*millisecond:=by decide
     exact ih _ _ _ _ _ (hlater _ (by omega)) (by omega)
   · exact nofun
   · obtain ⟨-,rfl⟩:=Bool.and_eq_true_iff.mp hcapability
     rw [Bool.toNat_true] at hlength
     refine ih _ _ _ _ _ (hlater _ hleft) ?_
     rw [Bool.toNat_false]
     omega
   · exact nofun

structure Same (s s':Driver) : Prop where
 hasStream : s'.hasStream=s.hasStream
 retries : s'.retries=s.retries
 fallbackRequest : s'.fallbackRequest=s.fallbackRequest
 swaps : s'.swaps=s.swaps

theorem Same.trans {a b c:Driver} (h:Same a b) (h':Same b c) : Same a c :=
 ⟨h'.hasStream.trans h.hasStream,h'.retries.trans h.retries,
  h'.fallbackRequest.trans h.fallbackRequest,h'.swaps.trans h.swaps⟩

theorem send_same (s:Driver) (accepted:Option ℕ) : Same s (s.sendSandBufferedEvents accepted).1:=by
 rcases SandDriverRuns.send_spec s accepted with hsend | ⟨count,-,hsend⟩
 · rw [hsend]
   exact ⟨rfl,rfl,rfl,rfl⟩
 · rw [hsend]
   exact ⟨rfl,rfl,rfl,rfl⟩

theorem sendError_ends (env:SandEnv) (s:Driver) (accepted:Option ℕ) (error:CursorError) :
  (s.sendSandBufferedError env accepted error).2 ≠ .again:=by
 unfold sendSandBufferedError
 generalize s.sendSandBufferedEvents accepted=sent
 obtain ⟨s',open'⟩:=sent
 cases open' with
 | false=>exact nofun
 | true=>
  dsimp only
  split_ifs <;> exact nofun

theorem readStream_same (env:SandEnv) (polls:List Poll) :
  ∀ s compactionThinking,Same s (readStream env s compactionThinking polls).1:=by
 induction polls with
 | nil=>exact fun s _=>⟨rfl,rfl,rfl,rfl⟩
 | cons poll polls ih=>
  intro s compactionThinking
  unfold readStream
  by_cases hexpired:(!s.committed&&poll.expired)=true
  · rw [if_pos hexpired]
    exact ⟨rfl,rfl,rfl,rfl⟩
  rw [if_neg hexpired]
  cases poll.next with
  | closed=>exact ⟨rfl,rfl,rfl,rfl⟩
  | error error=>exact ⟨rfl,rfl,rfl,rfl⟩
  | ended=>exact ⟨rfl,rfl,rfl,rfl⟩
  | idle exhausted=>exact ⟨rfl,rfl,rfl,rfl⟩
  | event event=>
   dsimp only
   cases normalizeSandStreamEvent env event with
   | none=>exact ih s compactionThinking
   | some event=>
    dsimp only
    have hsend:∀ kept:Driver,Same s kept → Same s (kept.sendSandBufferedEvents poll.accepted).1 :=
     fun kept hkept=>hkept.trans (send_same kept poll.accepted)
    cases classifySandStreamEvent event s.committed env.compactionMode
      (noteThinking env compactionThinking event) with
    | buffer=>
     have hkept:Same s { s with buffered:=s.buffered++[event] } :=
      ⟨rfl,rfl,rfl,rfl⟩
     exact hkept.trans (ih _ _)
    | hollowEnd=>exact ⟨rfl,rfl,rfl,rfl⟩
    | commit=>
     have hkept:=hsend { s with buffered := s.buffered++[event],committed := true } ⟨rfl,rfl,rfl,rfl⟩
     dsimp only
     generalize Driver.sendSandBufferedEvents _ poll.accepted=sent at hkept ⊢
     obtain ⟨s',open'⟩:=sent
     cases open' with
     | true=>exact hkept.trans (ih s' _)
     | false=>exact hkept
    | complete=>
     have hkept:=hsend { s with buffered := s.buffered++[event] } ⟨rfl,rfl,rfl,rfl⟩
     dsimp only
     generalize Driver.sendSandBufferedEvents _ poll.accepted=sent at hkept ⊢
     obtain ⟨s',open'⟩:=sent
     cases open' <;> exact hkept

/-- An account, the bridge or a retry is taken. -/
structure Moves (env:SandEnv) (s s':Driver) : Prop where
 hasStream : s'.hasStream=s.hasStream
 taken : (s.swaps<env.swapLimit ∧ s'.swaps=s.swaps+1 ∧ s'.fallbackRequest=s.fallbackRequest) ∨
  (s.fallbackRequest=true ∧ s'.fallbackRequest=false ∧ s'.swaps=s.swaps) ∨
  (s.retries<env.maxRetries ∧ s'.retries=s.retries+1 ∧ s'.fallbackRequest=s.fallbackRequest ∧ s'.swaps=s.swaps)

theorem Moves.swap {env:SandEnv} {s:Driver} {found:Bool} (h:s.replaces env found=true) : Moves env s s.swapAccount :=
 ⟨rfl,Or.inl ⟨of_decide_eq_true (Bool.and_eq_true_iff.mp h).1,rfl,rfl⟩⟩

theorem openFailed_again (env:SandEnv) (s:Driver) (attempt:Attempt) (error:CursorError) :
  (s.openFailed env attempt error).2=.again → Moves env s (s.openFailed env attempt error).1:=by
 unfold openFailed
 split_ifs with hbudget hcapability hfallback hfailover hclosed hreplacement hretry hdelay hsleep
 · exact fun h=>absurd h (sendError_ends _ _ _ _)
 · exact fun _=>⟨rfl,Or.inr (Or.inl ⟨hfallback,rfl,rfl⟩)⟩
 · exact fun h=>absurd h (sendError_ends _ _ _ _)
 · exact nofun
 · exact fun _=>.swap hreplacement
 · exact fun h=>absurd h (sendError_ends _ _ _ _)
 · exact fun h=>absurd h (sendError_ends _ _ _ _)
 · exact nofun
 · simp only [Bool.and_eq_true,decide_eq_true_eq] at hretry
   exact fun _=>⟨rfl,Or.inr (Or.inr ⟨hretry.1.1.2,rfl,rfl,rfl⟩)⟩
 · exact fun h=>absurd h (sendError_ends _ _ _ _)

theorem streamFailedLater_again (env:SandEnv) (s:Driver) (attempt:Attempt)
  (error:CursorError) : (s.streamFailedLater env attempt error).2=.again →
   Moves env s (s.streamFailedLater env attempt error).1 ∨ Same s (s.streamFailedLater env attempt error).1:=by
 unfold streamFailedLater
 split_ifs with hbudget hcapability hfallback hfailover hclosed hreplacement hleft hreleased hretry hdelay hsleep
 · exact fun h=>absurd h (sendError_ends _ _ _ _)
 · exact fun _=>Or.inl ⟨rfl,Or.inr (Or.inl ⟨hfallback,rfl,rfl⟩)⟩
 · exact fun h=>absurd h (sendError_ends _ _ _ _)
 · exact nofun
 · exact fun _=>Or.inl (.swap hreplacement)
 · exact nofun
 · exact fun _=>Or.inr ⟨rfl,rfl,rfl,rfl⟩
 · exact fun h=>absurd h (sendError_ends _ _ _ _)
 · exact fun h=>absurd h (sendError_ends _ _ _ _)
 · exact nofun
 · simp only [Bool.and_eq_true,decide_eq_true_eq] at hretry
   exact fun _=>Or.inl ⟨rfl,Or.inr (Or.inr ⟨hretry.1.1.2,rfl,rfl,rfl⟩)⟩
 · exact fun h=>absurd h (sendError_ends _ _ _ _)

theorem streamFailed_again (env:SandEnv) (s:Driver) (attempt:Attempt)
  (error:CursorError) : (s.streamFailed env attempt error).2=.again →
   Moves env s (s.streamFailed env attempt error).1 ∨ Same s (s.streamFailed env attempt error).1:=by
 unfold streamFailed
 dsimp only
 split_ifs with hfallback hhollow hclosed hreplacement
 · exact fun _=>Or.inl ⟨rfl,Or.inr (Or.inl ⟨(Bool.and_eq_true_iff.mp hfallback).2,rfl,rfl⟩)⟩
 · exact nofun
 · exact fun _=>Or.inl ⟨rfl,(Moves.swap hreplacement).taken⟩
 · intro h
   rcases streamFailedLater_again env _ attempt error h with hmoves | hsame
   · exact Or.inl ⟨hmoves.hasStream,hmoves.taken⟩
   · exact Or.inr ⟨hsame.hasStream,hsame.retries,hsame.fallbackRequest,hsame.swaps⟩
 · exact streamFailedLater_again env s attempt error

theorem drain_again {env:SandEnv} {s:Driver} {attempt:Attempt} (h:(s.drain env attempt).2=.again) :
  Moves env { s with hasStream := false } (s.drain env attempt).1 ∨
   Same { s with hasStream := false } (s.drain env attempt).1:=by
 unfold drain at h ⊢
 have hread:=readStream_same env attempt.polls (s.openStream attempt) false
 generalize readStream env (s.openStream attempt) false attempt.polls=result at h hread ⊢
 obtain ⟨s',read⟩:=result
 cases read with
 | waiting=>exact (nomatch h)
 | closed=>exact (nomatch h)
 | returned=>exact (nomatch h)
 | failed error=>
  have hsame:Same { s with hasStream:=false } s' :=
   ⟨hread.hasStream,hread.retries,hread.fallbackRequest,hread.swaps⟩
  rcases streamFailed_again env s' attempt error h with hmoves | hlater
  · refine Or.inl ⟨hmoves.hasStream.trans hsame.hasStream,?_⟩
    have htaken:=hmoves.taken
    rw [hsame.swaps,hsame.retries,hsame.fallbackRequest] at htaken
    exact htaken
  · exact Or.inr (hsame.trans hlater)

theorem iterate_again (env:SandEnv) (s:Driver) (attempt:Attempt) :
  (s.iterate env attempt).2=.again →
   (s.hasStream=true ∨ attempt.opened=none) ∧ (Moves env { s with hasStream := false } (s.iterate env attempt).1 ∨
         Same { s with hasStream := false } (s.iterate env attempt).1) ∨
    s.hasStream=false ∧ Moves env s (s.iterate env attempt).1:=by
 unfold iterate
 split_ifs with hclosed hstream hexpired hopening
 · exact nofun
 · exact fun h=>Or.inl ⟨Or.inl hstream,drain_again h⟩
 · exact fun h=>absurd h (sendError_ends _ _ _ _)
 · exact nofun
 · cases hopened:attempt.opened with
   | none=>
    intro h
    refine Or.inl ⟨Or.inr rfl,?_⟩
    rcases drain_again h with hmoves | hsame
    · exact Or.inl ⟨hmoves.hasStream,hmoves.taken⟩
    · exact Or.inr ⟨hsame.hasStream,hsame.retries,hsame.fallbackRequest,hsame.swaps⟩
   | some error=>
    exact fun h=>Or.inr ⟨Bool.not_eq_true _ |>.mp hstream,openFailed_again env s attempt error h⟩

def units (env:SandEnv) (s:Driver) (spending:Spending) : ℕ :=
 spending.budget.total+(env.swapLimit-s.swaps)+s.fallbackRequest.toNat

/-- Each unit, account and bridge is good for a round of retries. -/
def resources (env:SandEnv) (s:Driver) (spending:Spending) : ℕ :=
 units env s spending*(env.maxRetries+1)+(env.maxRetries-s.retries)+s.hasStream.toNat

section measure
variable {env:SandEnv} {s s':Driver} {spending after:Spending}

theorem resources_lt_of_units (hunits:units env s' after<units env s spending)
  (hstream:s'.hasStream=false) : resources env s' after<resources env s spending:=by
 have hrounds:=Nat.mul_le_mul_right (env.maxRetries+1) (Nat.succ_le_of_lt hunits)
 rw [Nat.succ_mul] at hrounds
 unfold resources
 rw [hstream,Bool.toNat_false]
 omega

theorem resources_le_of_units (hunits:units env s' after ≤ units env s spending) :
  units env s' after*(env.maxRetries+1) ≤ units env s spending*(env.maxRetries+1) :=
 Nat.mul_le_mul_right _ hunits

theorem Moves.resources_lt (h:Moves env s s') (hstream:s.hasStream=false)
  (htotal:after.budget.total ≤ spending.budget.total) : resources env s' after<resources env s spending:=by
 have hnone:s'.hasStream=false:=h.hasStream.trans hstream
 rcases h.taken with ⟨hlimit,hswaps,hbridge⟩ | ⟨hbefore,hbridge,hswaps⟩ |
  ⟨hlimit,hretries,hbridge,hswaps⟩
 · refine resources_lt_of_units ?_ hnone
   unfold units
   rw [hswaps,hbridge]
   omega
 · refine resources_lt_of_units ?_ hnone
   unfold units
   rw [hswaps,hbridge,hbefore,Bool.toNat_true,Bool.toNat_false]
   omega
 · have hunits:units env s' after ≤ units env s spending:=by
    unfold units
    rw [hswaps,hbridge]
    omega
   have hrounds:=resources_le_of_units hunits
   unfold resources
   rw [hretries,hnone,hstream]
   omega

theorem closing_le : resources env { s with hasStream := false } spending ≤
  resources env s spending := Nat.le_add_right _ _

theorem closing_lt (h:s.hasStream=true) :
  resources env { s with hasStream := false } spending<resources env s spending:=by
 unfold resources
 rw [h]
 exact Nat.lt_succ_self _

variable (env) in
theorem Same.resources_le (h:Same s s') (htotal:after.budget.total ≤ spending.budget.total) :
  resources env s' after ≤ resources env s spending:=by
 have hunits:units env s' after ≤ units env s spending:=by
  unfold units
  rw [h.swaps,h.fallbackRequest]
  omega
 have hrounds:=resources_le_of_units hunits
 unfold resources
 rw [h.retries,h.hasStream]
 omega

variable (env) in
theorem Same.resources_lt (h:Same s s') (hstream:s.hasStream=false) (htotal:after.budget.total<spending.budget.total) :
  resources env s' after<resources env s spending:=by
 refine resources_lt_of_units ?_ (h.hasStream.trans hstream)
 unfold units
 rw [h.swaps,h.fallbackRequest]
 omega

end measure

theorem driveOne_spends (env:SandEnv) (openEnv:OpenEnv) (s:Driver) (spending:Spending)
  (next:TurnAttempt) : Spends spending (driveOne env openEnv s spending next).2:=by
 unfold driveOne
 by_cases hidle:(next.attempt.closed||s.hasStream||decide (next.left=0))=true
 · rw [if_pos hidle]
   exact .refl spending
 rw [if_neg hidle]
 have hspends:=(opening_opens openEnv s.nextOpenKind spending next.left next.opening).spends
 generalize openSandWithPolicyProbeUntil openEnv s.nextOpenKind spending next.left next.opening = result at hspends ⊢
 obtain ⟨answer,after,left⟩:=result
 cases answer <;> exact hspends

theorem driveOne_again {env:SandEnv} {openEnv:OpenEnv} {s:Driver} {spending:Spending}
  {next:TurnAttempt} (h:(driveOne env openEnv s spending next).1.2=.again) :
  resources env (driveOne env openEnv s spending next).1.1
   (driveOne env openEnv s spending next).2<resources env s spending:=by
 unfold driveOne at h ⊢
 by_cases hidle:(next.attempt.closed||s.hasStream||decide (next.left=0))=true
 · rw [if_pos hidle] at h ⊢
   by_cases hstream:s.hasStream=true
   · rcases iterate_again env s _ h with ⟨-,hmoves | hsame⟩ | ⟨hnone,-⟩
     · exact (hmoves.resources_lt rfl le_rfl).trans_le closing_le
     · exact (hsame.resources_le env le_rfl).trans_lt (closing_lt hstream)
     · exact absurd hnone (by rw [hstream]; exact nofun)
   · have hnone:=Bool.not_eq_true _ |>.mp hstream
     unfold iterate at h
     dsimp only at h
     rw [hnone,Bool.or_false,Bool.or_eq_true_iff] at hidle
     split_ifs at h with hclosed hleft
     · exact absurd h (sendError_ends _ _ _ _)
     · exact absurd (hidle.resolve_left hclosed) hleft
 · rw [if_neg hidle] at h ⊢
   simp only [Bool.or_eq_true,not_or] at hidle
   have hnone:=Bool.not_eq_true _ |>.mp hidle.1.2
   have hopens:=opening_opens openEnv s.nextOpenKind spending next.left next.opening
   generalize openSandWithPolicyProbeUntil openEnv s.nextOpenKind spending next.left
    next.opening=result at h hopens ⊢
   obtain ⟨answer,after,left⟩:=result
   have htotal:=hopens.spends.total_le
   cases answer with
   | pending=>
    dsimp only at h
    split_ifs at h
   | stream=>
    rcases iterate_again env s _ h with ⟨-,hmoves | hsame⟩ | ⟨-,hmoves⟩
    · exact (hmoves.resources_lt rfl htotal).trans_le closing_le
    · exact (hsame.resources_lt env rfl (hopens.paid rfl)).trans_le closing_le
    · exact hmoves.resources_lt hnone htotal
   | failed error=>
    rcases iterate_again env s _ h with ⟨hstream | hopened,-⟩ | ⟨-,hmoves⟩
    · exact absurd hstream hidle.1.2
    · exact (nomatch hopened)
    · exact hmoves.resources_lt hnone htotal

theorem driveTurn_spends (env:SandEnv) (openEnv:OpenEnv) (attempts:List TurnAttempt) :
  ∀ s spending,Spends spending (driveTurn env openEnv s spending attempts).2:=by
 induction attempts with
 | nil=>exact fun _ spending=>.refl spending
 | cons next attempts ih=>
  intro s spending
  unfold driveTurn
  have hspends:=driveOne_spends env openEnv s spending next
  generalize driveOne env openEnv s spending next=result at hspends ⊢
  obtain ⟨⟨s',status⟩,after⟩:=result
  cases status with
  | again=>exact hspends.trans (ih s' after)
  | waiting=>exact hspends
  | closed=>exact hspends
  | returned=>exact hspends

theorem driveTurn_ends (env:SandEnv) (openEnv:OpenEnv) (attempts:List TurnAttempt) :
  ∀ s spending,resources env s spending<attempts.length →
   (driveTurn env openEnv s spending attempts).1.2 ≠ .again:=by
 induction attempts with
 | nil=>exact fun _ _ hlength=>absurd hlength (Nat.not_lt_zero _)
 | cons next attempts ih=>
  intro s spending hlength
  unfold driveTurn
  have hagain:(driveOne env openEnv s spending next).1.2=.again →
    resources env (driveOne env openEnv s spending next).1.1
     (driveOne env openEnv s spending next).2<resources env s spending := driveOne_again
  generalize driveOne env openEnv s spending next=result at hagain ⊢
  obtain ⟨⟨s',status⟩,after⟩:=result
  cases status with
  | again=>
   have hless:=hagain rfl
   rw [List.length_cons] at hlength
   exact ih s' after (by dsimp only at hless; omega)
  | waiting=>exact nofun
  | closed=>exact nofun
  | returned=>exact nofun

theorem driveTurn_later (env:SandEnv) (openEnv:OpenEnv) (more attempts:List TurnAttempt) :
  ∀ s spending,Spends (driveTurn env openEnv s spending attempts).2
   (driveTurn env openEnv s spending (attempts++more)).2:=by
 induction attempts with
 | nil=>exact fun s spending=>driveTurn_spends env openEnv more s spending
 | cons next attempts ih=>
  intro s spending
  rw [List.cons_append]
  unfold driveTurn
  generalize driveOne env openEnv s spending next=result
  obtain ⟨⟨s',status⟩,after⟩:=result
  cases status with
  | again=>exact ih s' after
  | waiting=>exact .refl after
  | closed=>exact .refl after
  | returned=>exact .refl after

/-- What holds of the opens of one logical turn. -/
structure FanOut (env:SandEnv) (openEnv:OpenEnv) (budget:SandAttemptBudget) (turn:Turn) :
  Prop where
 /-- Each open is paid just before, and the budgets only lose what paid for opens. -/
 paid : Spends ⟨budget,[]⟩ (sandTurn env openEnv budget turn).2
 opens : openedOf (sandTurn env openEnv budget turn).2.acts ≤ budget.total
 later : ∀ more,Spends (sandTurn env openEnv budget turn).2
  (sandTurn env openEnv budget { turn with attempts := turn.attempts++more }).2
 /-- The open loop ends. -/
 opening : ∀ kind spending left opening,Opening.Answered openEnv left opening →
  (openSandWithPolicyProbeUntil openEnv kind spending left opening).1 ≠ .pending
 /-- The loop before the driver ends. -/
 first : (∀ next∈turn.firsts,next.opening.Answered openEnv turn.left) →
  env.swapLimit-turn.swaps+turn.fallbackRequest.toNat+turn.left<turn.firsts.length →
   (sandTurn env openEnv budget turn).1 ≠ .opening
 /-- The loop of the driver ends. -/
 driver : (budget.total+env.swapLimit+1)*(env.maxRetries+1)+env.maxRetries+1 <
  turn.attempts.length → (sandTurn env openEnv budget turn).1 ≠ .driven .again

theorem sandTurn_spends (env:SandEnv) (openEnv:OpenEnv) (budget:SandAttemptBudget)
  (turn:Turn) : Spends ⟨budget,[]⟩ (sandTurn env openEnv budget turn).2:=by
 unfold sandTurn
 have hspends:=openFirst_spends env openEnv turn.firsts turn.fallbackRequest turn.swaps
  .transport ⟨budget,[]⟩ turn.left
 generalize openFirst env openEnv turn.fallbackRequest turn.swaps .transport ⟨budget,[]⟩
  turn.left turn.firsts=result at hspends ⊢
 obtain ⟨first,after⟩:=result
 cases first with
 | pending=>exact hspends
 | failed=>exact hspends
 | opened fallbackRequest swaps=>exact hspends.trans (driveTurn_spends env openEnv _ _ _)

theorem start_resources {env:SandEnv} {budget:SandAttemptBudget} {after:Spending}
  (h:Spends ⟨budget,[]⟩ after) (fallbackRequest:Bool) (swaps:ℕ) :
  resources env (start fallbackRequest swaps) after ≤
   (budget.total+env.swapLimit+1)*(env.maxRetries+1)+env.maxRetries+1:=by
 have htotal:after.budget.total ≤ budget.total:=h.total_le
 have hbridge:=Bool.toNat_le fallbackRequest
 have hunits:units env (start fallbackRequest swaps) after ≤ budget.total+env.swapLimit+1:=by
  unfold units
  dsimp only [start]
  omega
 have hrounds:=Nat.mul_le_mul_right (env.maxRetries+1) hunits
 unfold resources
 have hstream:(start fallbackRequest swaps).hasStream.toNat=1:=rfl
 rw [hstream]
 omega

theorem fan_out_bounded (env:SandEnv) (openEnv:OpenEnv) (budget:SandAttemptBudget)
    (turn:Turn) : FanOut env openEnv budget turn where
  paid := sandTurn_spends env openEnv budget turn
  opens:=by
    obtain ⟨acts,hacts,htotal⟩:=(sandTurn_spends env openEnv budget turn).total_eq
    rw [hacts,List.nil_append]
    dsimp only at htotal
    omega
  later:=by
    intro more
    unfold sandTurn
    dsimp only
    generalize openFirst env openEnv turn.fallbackRequest turn.swaps .transport ⟨budget,[]⟩ turn.left turn.firsts=result
    obtain ⟨first,after⟩:=result
    cases first with
    | pending=>exact .refl after
    | failed=>exact .refl after
    | opened fallbackRequest swaps=>exact driveTurn_later env openEnv more turn.attempts _ _
  opening := fun kind spending _ _ hanswered=>opening_answers hanswered kind spending
  first:=by
    intro hanswered hlength
    have hends:=openFirst_ends env openEnv turn.firsts turn.fallbackRequest turn.swaps
      .transport ⟨budget,[]⟩ turn.left hanswered hlength
    unfold sandTurn
    generalize openFirst env openEnv turn.fallbackRequest turn.swaps .transport ⟨budget,[]⟩
      turn.left turn.firsts=result at hends ⊢
    obtain ⟨first,after⟩:=result
    cases first with
    | pending=>exact absurd rfl hends
    | failed=>exact nofun
    | opened fallbackRequest swaps=>exact nofun
  driver:=by
    intro hlength
    have hspends:=openFirst_spends env openEnv turn.firsts turn.fallbackRequest turn.swaps
      .transport ⟨budget,[]⟩ turn.left
    unfold sandTurn
    generalize openFirst env openEnv turn.fallbackRequest turn.swaps .transport ⟨budget,[]⟩
      turn.left turn.firsts=result at hspends ⊢
    obtain ⟨first,after⟩:=result
    cases first with
    | pending=>exact nofun
    | failed=>exact nofun
    | opened fallbackRequest swaps=>
      intro hdriven
      exact driveTurn_ends env openEnv turn.attempts _ _
        ((start_resources hspends fallbackRequest swaps).trans_lt hlength) (Outcome.driven.inj hdriven)

end CursorProxy.SandBudget
