import Mathlib

namespace CursorProxy.GenerationBudget

structure LiveGenerationBudget where
 hard : ℕ
 deadline : ℕ
 pausedAt : Option ℕ
 absoluteDeadline : ℕ
deriving DecidableEq

/-- `checked_add`, up to the last instant there is. Where it is a sum, nothing is a panic. -/
def checkedAdd (last instant duration:ℕ) : Option ℕ :=
 if instant+duration ≤ last then some (instant+duration) else none

namespace LiveGenerationBudget

def newAt (last now hard lifetime:ℕ) : Option LiveGenerationBudget := do
 let deadline ← checkedAdd last now hard
 let absoluteDeadline ← checkedAdd last now lifetime
 return ⟨hard,deadline,none,absoluteDeadline⟩

def observeWaitingAt (last:ℕ) (budget:LiveGenerationBudget) (now:ℕ)
  (waitingForTools:Bool) : Option LiveGenerationBudget :=
 match waitingForTools,budget.pausedAt with
 | true,none=>
  if now<budget.deadline ∧ now<budget.absoluteDeadline then
   some { budget with pausedAt := some now }
  else some budget
 | false,some pausedAt=>do
  let fallback ← checkedAdd last now budget.hard
  return { budget with
   deadline := (checkedAdd last budget.deadline (now-pausedAt)).getD fallback
   pausedAt := none }
 | _,_=>some budget

def beginNextSegmentAt (last:ℕ) (budget:LiveGenerationBudget) (now hard:ℕ) : Option LiveGenerationBudget := do
 let deadline ← checkedAdd last now hard
 return { budget with hard := hard,deadline := deadline,pausedAt := none }

def isExpiredAt (budget:LiveGenerationBudget) (now:ℕ) : Bool :=
 budget.absoluteDeadline ≤ now||(budget.pausedAt.isNone&&budget.deadline ≤ now)

def recoveryDeadline (budget:LiveGenerationBudget) : ℕ :=
 if budget.pausedAt.isSome then budget.absoluteDeadline
 else min budget.deadline budget.absoluteDeadline

end LiveGenerationBudget

inductive Call where
 | observeWaiting (waitingForTools:Bool)
 | beginNextSegment (hard:ℕ)
deriving DecidableEq

def Call.apply (last:ℕ) (budget:LiveGenerationBudget) (now:ℕ) : Call → Option LiveGenerationBudget
 | .observeWaiting waitingForTools=>budget.observeWaitingAt last now waitingForTools
 | .beginNextSegment hard=>budget.beginNextSegmentAt last now hard

def run (last:ℕ) : LiveGenerationBudget → List (ℕ×Call) → Option LiveGenerationBudget
 | budget,[]=>some budget
 | budget,(now,call)::turns=>do run last (← call.apply last budget now) turns

/-- The non-waiting time of the segment up to the last call, and what the call has left. -/
structure Account where
 hard : ℕ
 charged : ℕ
 seen : ℕ
 waiting : Bool

/-- The non-waiting time of the segment up to an instant behind the last call. -/
def Account.active (account:Account) (instant:ℕ) : ℕ :=
 account.charged+if account.waiting then 0 else instant-account.seen

def Account.after (account:Account) (now:ℕ) : Call → Account
 | .observeWaiting waitingForTools=>⟨account.hard,account.active now,now,waitingForTools⟩
 | .beginNextSegment hard=>⟨hard,0,now,false⟩

def accountOf (account:Account) (turns:List (ℕ×Call)) : Account :=
 turns.foldl (fun account turn=>account.after turn.1 turn.2) account

/-- The instants do not decrease. -/
def Timely : ℕ → List (ℕ×Call) → Prop
 | _,[]=>True
 | seen,(now,_)::turns=>seen ≤ now ∧ Timely now turns

/-- The deadline tells what is left of the segment, unless the segment or the run is over. -/
def Tracks (budget:LiveGenerationBudget) (account:Account) : Prop :=
 budget.hard=account.hard ∧
  match budget.pausedAt with
  | some pausedAt=>account.waiting=true ∧ pausedAt ≤ account.seen ∧
   budget.deadline+account.charged=pausedAt+account.hard ∧ account.charged<account.hard
  | none=>account.waiting=false ∧
    budget.deadline+account.charged=account.seen+account.hard ∨
   account.hard ≤ account.charged ∧ budget.deadline ≤ account.seen ∨
   budget.absoluteDeadline ≤ account.seen

theorem checkedAdd_some {last instant duration sum:ℕ} (h:checkedAdd last instant duration=some sum) :
  sum=instant+duration ∧ instant+duration ≤ last:=by
 unfold checkedAdd at h
 split_ifs at h with hfits
 exact ⟨(Option.some.inj h).symm,hfits⟩

section
variable {last now:ℕ} {budget next:LiveGenerationBudget} {account:Account}

theorem tracks_waiting (h:Tracks budget account) (hnow:account.seen ≤ now)
  (hcall:budget.observeWaitingAt last now true=some next) :
  Tracks next (account.after now (.observeWaiting true)) ∧ next.absoluteDeadline=budget.absoluteDeadline:=by
 obtain ⟨hhard,h⟩:=h
 unfold LiveGenerationBudget.observeWaitingAt at hcall
 cases hpaused:budget.pausedAt with
 | some pausedAt=>
  simp only [hpaused,Option.some.injEq] at hcall h
  subst hcall
  simp only [Tracks,hpaused,Account.after,Account.active,h.1,if_true,true_and]
  exact ⟨⟨hhard,by omega⟩,trivial⟩
 | none=>
  simp only [hpaused] at hcall h
  split_ifs at hcall with hopen
  · obtain rfl:=Option.some.inj hcall
    refine ⟨⟨hhard,rfl,le_rfl,?_⟩,rfl⟩
    simp only [Account.after,Account.active]
    obtain ⟨hwaiting,hleft⟩ | hover | hover:=h
    · simp only [hwaiting,Bool.false_eq_true,if_false]
      omega
    · omega
    · omega
  · obtain rfl:=Option.some.inj hcall
    refine ⟨⟨hhard,?_⟩,rfl⟩
    simp only [hpaused,Account.after,Account.active]
    refine .inr ?_
    obtain ⟨hwaiting,hleft⟩ | hover | hover:=h
    · simp only [hwaiting,Bool.false_eq_true,if_false]
      omega
    · omega
    · omega

theorem tracks_working (h:Tracks budget account) (hnow:account.seen ≤ now)
  (hcall:budget.observeWaitingAt last now false=some next) :
  Tracks next (account.after now (.observeWaiting false)) ∧ next.absoluteDeadline=budget.absoluteDeadline:=by
 obtain ⟨hhard,h⟩:=h
 unfold LiveGenerationBudget.observeWaitingAt at hcall
 cases hpaused:budget.pausedAt with
 | some pausedAt=>
  simp only [hpaused] at hcall h
  obtain ⟨fallback,hfallback,hnext⟩:=Option.bind_eq_some_iff.mp hcall
  obtain rfl:=Option.some.inj hnext
  -- what is left is at most the whole limit, so that the shifted deadline is no later
  have hfits:=(checkedAdd_some hfallback).2
  have hsum:checkedAdd last budget.deadline (now-pausedAt) =
    some (budget.deadline+(now-pausedAt)) := if_pos (by omega)
  refine ⟨⟨hhard,.inl ⟨rfl,?_⟩⟩,rfl⟩
  simp only [hsum,Option.getD_some,Account.after,Account.active,h.1,if_true]
  omega
 | none=>
  simp only [hpaused,Option.some.injEq] at hcall h
  subst hcall
  refine ⟨⟨hhard,?_⟩,rfl⟩
  simp only [hpaused,Account.after,Account.active,true_and]
  obtain ⟨hwaiting,hleft⟩ | hover | hover:=h
  · simp only [hwaiting,Bool.false_eq_true,if_false]
    omega
  · omega
  · omega

theorem tracks_step {call:Call} (h:Tracks budget account) (hnow:account.seen ≤ now)
  (hcall:call.apply last budget now=some next) :
  Tracks next (account.after now call) ∧ next.absoluteDeadline=budget.absoluteDeadline:=by
 cases call with
 | observeWaiting waiting=>
  cases waiting with
  | true=>exact tracks_waiting h hnow hcall
  | false=>exact tracks_working h hnow hcall
 | beginNextSegment hard=>
  obtain ⟨deadline,hdeadline,hnext⟩:=Option.bind_eq_some_iff.mp hcall
  obtain rfl:=Option.some.inj hnext
  obtain ⟨rfl,-⟩:=checkedAdd_some hdeadline
  exact ⟨⟨rfl,.inl ⟨rfl,rfl⟩⟩,rfl⟩

theorem tracks_run {turns:List (ℕ×Call)} {final:LiveGenerationBudget}
  (h:Tracks budget account) (htimes:Timely account.seen turns) (hrun:run last budget turns=some final) :
  Tracks final (accountOf account turns) ∧ final.absoluteDeadline=budget.absoluteDeadline:=by
 induction turns generalizing budget account with
 | nil=>
  obtain rfl:=Option.some.inj hrun
  exact ⟨h,rfl⟩
 | cons turn turns ih=>
  obtain ⟨now,call⟩:=turn
  obtain ⟨hnow,hrest⟩:=htimes
  obtain ⟨next,hcall,hrun⟩:=Option.bind_eq_some_iff.mp hrun
  obtain ⟨hnext,habsolute⟩:=tracks_step h hnow hcall
  have hseen:(account.after now call).seen=now:=by cases call <;> rfl
  rw [← hseen] at hrest
  obtain ⟨hfinal,hsame⟩:=ih hnext hrest hrun
  exact ⟨hfinal,hsame.trans habsolute⟩

theorem tracks_expired (h:Tracks budget account) {instant:ℕ} (hinstant:account.seen ≤ instant) :
  budget.isExpiredAt instant=true ↔ budget.absoluteDeadline ≤ instant ∨ account.hard ≤ account.active instant:=by
 obtain ⟨hhard,h⟩:=h
 unfold LiveGenerationBudget.isExpiredAt Account.active
 cases hpaused:budget.pausedAt with
 | some pausedAt=>
  simp only [hpaused] at h
  simp [h.1]
  omega
 | none=>
  simp only [hpaused] at h
  simp only [Option.isNone_none,Bool.true_and,Bool.or_eq_true,decide_eq_true_eq]
  obtain ⟨hwaiting,hleft⟩ | hover | hover:=h
  · simp only [hwaiting,Bool.false_eq_true,if_false]
    omega
  · omega
  · omega

theorem tracks_recovery (h:Tracks budget account) (hlive:budget.isExpiredAt account.seen=false) :
  budget.recoveryDeadline=if account.waiting then budget.absoluteDeadline
   else min budget.absoluteDeadline (account.seen+(account.hard-account.charged)):=by
 obtain ⟨hhard,h⟩:=h
 unfold LiveGenerationBudget.isExpiredAt at hlive
 unfold LiveGenerationBudget.recoveryDeadline
 cases hpaused:budget.pausedAt with
 | some pausedAt=>
  simp only [hpaused] at h
  simp [h.1]
 | none=>
  simp [hpaused] at h hlive
  obtain ⟨hwaiting,hleft⟩ | hover | hover:=h
  · simp [hwaiting]
    omega
  · omega
  · omega

end

/-- The budget is used up by the time the run has not waited in the segment, or by the life of the
run, whichever comes first. While the run waits, only its life can end it. -/
theorem budget_accounts (last start hard lifetime:ℕ) (turns:List (ℕ×Call)) (initial budget:LiveGenerationBudget)
    (hnew:LiveGenerationBudget.newAt last start hard lifetime=some initial)
    (htimes:Timely start turns) (hrun:run last initial turns=some budget) :
    let account:=accountOf ⟨hard,0,start,false⟩ turns
    (∀ instant,account.seen ≤ instant → (budget.isExpiredAt instant=true ↔
        start+lifetime ≤ instant ∨ account.hard ≤ account.active instant)) ∧
      (budget.isExpiredAt account.seen=false →
        budget.recoveryDeadline=if account.waiting then start+lifetime
          else min (start+lifetime) (account.seen+(account.hard-account.charged))):=by
  obtain ⟨deadline,hdeadline,hnew⟩:=Option.bind_eq_some_iff.mp hnew
  obtain ⟨absolute,habsolute,hnew⟩:=Option.bind_eq_some_iff.mp hnew
  obtain rfl:=Option.some.inj hnew
  obtain ⟨rfl,-⟩:=checkedAdd_some hdeadline
  obtain ⟨rfl,-⟩:=checkedAdd_some habsolute
  have hstart:Tracks ⟨hard,start+hard,none,start+lifetime⟩ ⟨hard,0,start,false⟩ :=
    ⟨rfl,.inl ⟨rfl,rfl⟩⟩
  obtain ⟨htracks,hsame⟩:=tracks_run hstart htimes hrun
  rw [← show budget.absoluteDeadline=start+lifetime from hsame]
  exact ⟨fun _=>tracks_expired htracks,tracks_recovery htracks⟩

/-- The run waits for a while and begins its next segment. -/
def sampleTurns : List (ℕ×Call) :=
 [(40,.observeWaiting true),(140,.observeWaiting false),(150,.beginNextSegment 100)]

theorem budget_accounts_sample : LiveGenerationBudget.recoveryDeadline ⟨100,250,none,300⟩=250 :=
  ((budget_accounts 1000 0 100 300 sampleTurns ⟨100,100,none,300⟩ ⟨100,250,none,300⟩ rfl
    (by simp [Timely,sampleTurns]) rfl).2 (by decide)).trans (by decide)

theorem lifetime_ends_first : ∃ budget,LiveGenerationBudget.newAt 1000 0 100 50=some budget ∧
    budget.isExpiredAt 60=true ∧ (accountOf ⟨100,0,0,false⟩ []).active 60<100 :=
  ⟨⟨100,100,none,50⟩,rfl,by decide⟩

end CursorProxy.GenerationBudget
