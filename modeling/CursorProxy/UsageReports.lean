import CursorProxy.UsageCounters

namespace CursorProxy.UsageReports
open SandModel XmlElements SseFramer CursorSseFramer SseContent SseWellFormed MessageAcc
open AnthropicJsonAcc UsageCounters

structure Snapshot where
 input : ℕ
 output : ℕ
 cacheRead : ℕ
 cacheWrite : ℕ

def Snapshot.unreported : Snapshot := ⟨0,0,0,0⟩

/-- A snapshot of output alone adds to what was reported before in a stream. -/
def Snapshot.authoritative (snapshot:Snapshot) : Bool :=
 !decide (outputOnly snapshot.input snapshot.output snapshot.cacheRead snapshot.cacheWrite)

/-- The snapshot that counts, and the tokens reported since. -/
structure Report where
 last : Option Snapshot
 since : ℕ

def hear (counts:Snapshot → Bool) (report:Report) : CursorStreamEvent → Report
 | .usage inputTokens outputTokens cacheReadTokens cacheWriteTokens=>
  let snapshot:=⟨inputTokens.toNat,outputTokens.toNat,cacheReadTokens.toNat,
   cacheWriteTokens.toNat⟩
  if counts snapshot then ⟨some snapshot,0⟩
  else { report with since := report.since+outputTokens.toNat }
 | .outputTokenDelta tokens=>{ report with since := report.since+tokens.toNat }
 | _=>report

def lastReport (counts:Snapshot → Bool) (events:List CursorStreamEvent) : Report :=
 events.foldl (hear counts) ⟨none,0⟩

/-- What a stream goes by: the last authoritative snapshot before it ends. -/
def streamReport (events:List CursorStreamEvent) : Report :=
 lastReport Snapshot.authoritative (live events)

/-- What a collected answer goes by: the last snapshot of all. -/
def messageReport (events:List CursorStreamEvent) : Report := lastReport (fun _=>true) events

def Report.snapshot (report:Report) : Snapshot := report.last.getD .unreported

def Report.output (report:Report) : ℕ := min (report.snapshot.output+report.since) usizeMax

def Report.counted (report:Report) (estimate:ℕ) : Counters where
 input := report.last.elim estimate fun snapshot=>
  uncached snapshot.input snapshot.cacheRead snapshot.cacheWrite
 output := report.output
 cacheRead := report.snapshot.cacheRead
 cacheWrite := report.snapshot.cacheWrite
 finalized := false

theorem counted_more (report:Report) (estimate tokens:ℕ) :
  addTokens (report.counted estimate) tokens =
   ({ report with since := report.since+tokens } : Report).counted estimate:=by
 have hadd:saturatingAdd report.output tokens = ({ report with since := report.since+tokens } : Report).output:=by
  unfold saturatingAdd Report.output Report.snapshot
  dsimp only
  omega
 unfold addTokens Report.counted
 rw [← hadd]
 rfl

theorem count_hear (report:Report) (estimate:ℕ) (event:CursorStreamEvent) :
  count (report.counted estimate) event = (hear Snapshot.authoritative report event).counted estimate:=by
 cases event with
 | usage inputTokens outputTokens cacheReadTokens cacheWriteTokens=>
  dsimp only [count,hear]
  by_cases honly:outputOnly inputTokens.toNat outputTokens.toNat cacheReadTokens.toNat cacheWriteTokens.toNat
  · rw [if_pos honly,if_neg (by simp [Snapshot.authoritative,honly])]
    exact counted_more report estimate _
  · have hbound:=toNat_le outputTokens
    rw [if_neg honly,if_pos (by simp [Snapshot.authoritative,honly])]
    unfold Report.counted Report.output
    simp only [Option.elim_some,Report.snapshot,Option.getD_some,Nat.add_zero,Nat.min_eq_left hbound]
 | outputTokenDelta tokens=>exact counted_more report estimate _
 | _=>rfl

theorem foldl_count (estimate:ℕ) (report:Report) (events:List CursorStreamEvent) :
  events.foldl count (report.counted estimate) =
   (events.foldl (hear Snapshot.authoritative) report).counted estimate:=by
 induction events generalizing report with
 | nil=>rfl
 | cons event events ih=>
  rw [List.foldl_cons,List.foldl_cons,count_hear]
  exact ih _

structure Holds (acc:AnthropicJsonAcc) (report:Report) (estimate:ℕ) : Prop where
 input : acc.inputTokens=report.snapshot.input
 output : acc.outputTokens=report.output
 cacheRead : acc.cacheRead=report.snapshot.cacheRead
 cacheWrite : acc.cacheWrite=report.snapshot.cacheWrite
 estimate : acc.estimatedInput=estimate
 bound : acc.cacheRead ≤ usizeMax

def counts (acc:AnthropicJsonAcc) : ℕ×ℕ×ℕ×ℕ×ℕ :=
 (acc.inputTokens,acc.outputTokens,acc.cacheRead,acc.cacheWrite,acc.estimatedInput)

theorem Holds.of_counts {acc next:AnthropicJsonAcc} {report:Report} {estimate:ℕ}
  (h:Holds acc report estimate) (heq:counts next=counts acc) : Holds next report estimate:=by
 unfold counts at heq
 simp only [Prod.mk.injEq] at heq
 obtain ⟨hinput,houtput,hread,hwrite,hestimate⟩:=heq
 exact ⟨hinput.trans h.input,houtput.trans h.output,hread.trans h.cacheRead,
  hwrite.trans h.cacheWrite,hestimate.trans h.estimate,hread.trans_le h.bound⟩

theorem counts_flushThinking (acc:AnthropicJsonAcc) : counts acc.flushThinking=counts acc:=by
 unfold flushThinking
 split <;> rfl

theorem counts_flushText (acc:AnthropicJsonAcc) : counts acc.flushText=counts acc:=by
 unfold flushText
 split <;> rfl

theorem counts_pushText (acc:AnthropicJsonAcc) (text:Text) : counts (acc.pushText text)=counts acc:=by
 refine Eq.trans ?_ (counts_flushThinking acc)
 unfold pushText
 dsimp only
 split <;> rfl

theorem counts_pushThinking (acc:AnthropicJsonAcc) (text:Text) : counts (acc.pushThinking text)=counts acc:=by
 unfold pushThinking
 split
 · split <;> rfl
 · exact counts_flushText acc

theorem counts_pushSignature (acc:AnthropicJsonAcc) (signature:Text) :
  counts (acc.pushSignature signature)=counts acc:=by
 unfold pushSignature
 split
 · rfl
 · exact counts_flushText acc

theorem Holds.push {acc:AnthropicJsonAcc} {report:Report} {estimate:ℕ}
  (h:Holds acc report estimate) (event:CursorStreamEvent) :
  Holds (acc.push event) (hear (fun _=>true) report event) estimate:=by
 cases event with
 | session=>exact h
 | thinkingDelta text=>exact h.of_counts (counts_pushThinking acc _)
 | thinkingSignature signature=>exact h.of_counts (counts_pushSignature acc _)
 | thinkingCompleted | «end» => exact h.of_counts (counts_flushThinking acc)
 | textDelta text=>exact h.of_counts (counts_pushText acc _)
 | nativeTool=>exact h.of_counts (counts_flushThinking acc)
 | usage inputTokens outputTokens cacheReadTokens cacheWriteTokens=>
  have hbound:=toNat_le outputTokens
  refine ⟨rfl,?_,rfl,rfl,h.estimate,toNat_le cacheReadTokens⟩
  change outputTokens.toNat=min (outputTokens.toNat+0) usizeMax
  omega
 | outputTokenDelta tokens=>
  refine ⟨h.input,?_,h.cacheRead,h.cacheWrite,h.estimate,h.bound⟩
  change saturatingAdd acc.outputTokens tokens.toNat=_
  rw [h.output]
  unfold saturatingAdd Report.output Report.snapshot hear
  dsimp only
  omega

theorem Holds.pushAll {acc:AnthropicJsonAcc} {report:Report} {estimate:ℕ}
  (h:Holds acc report estimate) (events:List CursorStreamEvent) :
  Holds (acc.pushAll events) (events.foldl (hear fun _=>true) report) estimate:=by
 induction events generalizing acc report with
 | nil=>exact h
 | cons event events ih=>exact ih (h.push event)

/-- The input shown without the cache, with at least one token, is what is left of the
greater of the other input and the estimate. -/
def SameInput (estimate:ℕ) (shown other:Snapshot) : Prop :=
 let cached:=saturatingAdd shown.cacheRead shown.cacheWrite
 let fresh:=max (uncached shown.input shown.cacheRead shown.cacheWrite) 1
 let most:=max other.input (max estimate 1)
 most=if 0<cached ∧ cached ≤ most then cached+fresh else fresh

/-- Stream and message go by snapshots that report the same. A snapshot of output alone
does no harm as long as nothing was reported before it. -/
def SameReports (estimate:ℕ) (events:List CursorStreamEvent) : Prop :=
 let other:=(messageReport events).snapshot
 (streamReport events).output=(messageReport events).output ∧
  match (streamReport events).last with
  | none=>other.input ≤ max estimate 1 ∧ other.cacheRead=0 ∧ other.cacheWrite=0
  | some shown=>
   SameInput estimate shown other ∧ shown.cacheRead=other.cacheRead ∧ shown.cacheWrite=other.cacheWrite

def Unmoved (estimate:ℕ) (snapshot:Snapshot) : Prop :=
 let cached:=saturatingAdd snapshot.cacheRead snapshot.cacheWrite
 let input:=max snapshot.input 1
 max estimate 1 ≤ input ∨ input<cached ∧ max estimate 1=cached+input

theorem sameInput_iff {estimate:ℕ} {shown other:Snapshot}
  (hread:shown.cacheRead=other.cacheRead) (hwrite:shown.cacheWrite=other.cacheWrite) :
  max (uncached shown.input shown.cacheRead shown.cacheWrite) 1 =
    uncached (max other.input (max estimate 1)) other.cacheRead other.cacheWrite ↔
   SameInput estimate shown other:=by
 unfold SameInput
 dsimp only
 rw [← hread,← hwrite]
 generalize max (uncached shown.input shown.cacheRead shown.cacheWrite) 1=fresh
 unfold uncached
 dsimp only
 generalize saturatingAdd shown.cacheRead shown.cacheWrite=cached
 split <;> split <;> omega

theorem uncached_zero (input:ℕ) : uncached input 0 0=input:=by
 unfold uncached saturatingAdd
 dsimp only
 rw [if_neg (by omega)]

def streamed (env:SseEnv) (compaction:Bool) (messageId model:String) (estimate:ℕ)
  (events:List CursorStreamEvent) : CursorSseFramer :=
 (pushEvents env ((create compaction messageId model).seedEstimatedInputTokens estimate) events).finalize env

def answered (compaction:Bool) (messageId model:String) (estimate:ℕ) (events:List CursorStreamEvent) : Message :=
 ((newMode estimate compaction).pushAll events).intoMessageJson messageId model

/-- What was written is estimated at no more than the tokens reported. -/
def Short (finished:CursorSseFramer) : Prop :=
 finished.state.usageOutputEstimate ≤ finished.state.usageOutputTokens

variable {env:SseEnv} {compaction:Bool} {messageId model:String} {estimate:ℕ} {events:List CursorStreamEvent}

theorem seeded_counters (compaction:Bool) (messageId model:String) (estimate:ℕ) :
  counters ((create compaction messageId model).seedEstimatedInputTokens estimate) =
   (⟨none,0⟩ : Report).counted estimate:=by
 cases compaction <;> cases estimate <;> rfl

theorem streamed_usage (h:Short (streamed env compaction messageId model estimate events)) :
  finalUsage (streamed env compaction messageId model estimate events).output =
   some ⟨max ((streamReport events).counted estimate).input 1,(streamReport events).output,
    ((streamReport events).counted estimate).cacheWrite,((streamReport events).counted estimate).cacheRead⟩:=by
 have hseeded:=seeded_counters compaction messageId model estimate
 have hlive:=congrArg Counters.finalized hseeded
 have hnone:=congrArg Counters.output hseeded
 obtain ⟨_,houtput,hfinal⟩:=stream_reports env hlive (hnone.trans_le (Nat.min_le_right _ _)) events
 rw [hseeded,foldl_count] at houtput hfinal
 unfold Short streamed at h
 rw [houtput] at h
 unfold streamed
 rw [hfinal,Nat.max_eq_left h]
 rfl

theorem answered_usage (compaction:Bool) (messageId model:String) (estimate:ℕ) (events:List CursorStreamEvent) :
  (answered compaction messageId model estimate events).usage = let last:=(messageReport events).snapshot
   ⟨uncached (max last.input (max estimate 1)) last.cacheRead last.cacheWrite,
    (messageReport events).output,last.cacheWrite,last.cacheRead⟩:=by
 have hstart:Holds (newMode estimate compaction) ⟨none,0⟩ estimate :=
  ⟨rfl,rfl,rfl,rfl,rfl,Nat.zero_le _⟩
 have hholds:=(hstart.pushAll events).of_counts (counts_flushThinking _)
 unfold answered intoMessageJson normalizedUsage
 dsimp only
 rw [normalize_eq _ _ hholds.bound,hholds.input,hholds.output,hholds.cacheRead,hholds.cacheWrite,hholds.estimate]
 rfl

/-- The two report the same usage exactly if they go by the same reports. Once there is
a snapshot to go by the estimate changes nothing in the stream, and nothing in the
message exactly if it is no greater than the input. -/
theorem same_usage_iff (env:SseEnv) (compaction:Bool) (messageId model:String)
    (estimate:ℕ) (events:List CursorStreamEvent) (h:Short (streamed env compaction messageId model estimate events)) :
    (finalUsage (streamed env compaction messageId model estimate events).output =
        some (answered compaction messageId model estimate events).usage ↔ SameReports estimate events) ∧
    (∀ other,Short (streamed env compaction messageId model other events) → (streamReport events).last.isSome →
      finalUsage (streamed env compaction messageId model other events).output =
        finalUsage (streamed env compaction messageId model estimate events).output) ∧
    ∀ snapshot,(messageReport events).last=some snapshot →
      ((answered compaction messageId model estimate events).usage =
          (answered compaction messageId model 0 events).usage ↔ Unmoved estimate snapshot):=by
  refine ⟨?_,fun other hother hlast=>?_,fun snapshot hlast=>?_⟩
  · rw [streamed_usage h,answered_usage,Option.some_inj,SseUsage.mk.injEq]
    unfold SameReports Report.counted
    dsimp only
    generalize (messageReport events).snapshot=other
    unfold Report.snapshot
    cases (streamReport events).last with
    | none=>
      simp only [Option.elim_none,Option.getD_none,Snapshot.unreported]
      constructor
      · rintro ⟨hinput,houtput,hwrite,hread⟩
        rw [← hread,← hwrite,uncached_zero] at hinput
        omega
      · rintro ⟨houtput,hinput,hread,hwrite⟩
        rw [hread,hwrite,uncached_zero]
        omega
    | some shown=>
      simp only [Option.elim_some,Option.getD_some]
      constructor
      · rintro ⟨hinput,houtput,hwrite,hread⟩
        exact ⟨houtput,(sameInput_iff hread hwrite).mp hinput,hread,hwrite⟩
      · rintro ⟨houtput,hinput,hread,hwrite⟩
        exact ⟨(sameInput_iff hread hwrite).mpr hinput,houtput,hwrite,hread⟩
  · obtain ⟨shown,hshown⟩:=Option.isSome_iff_exists.mp hlast
    rw [streamed_usage h,streamed_usage hother]
    unfold Report.counted
    rw [hshown,Option.elim_some,Option.elim_some]
  · have hsnapshot:(messageReport events).snapshot=snapshot:=by
      unfold Report.snapshot
      rw [hlast]
      rfl
    rw [answered_usage,answered_usage,SseUsage.mk.injEq,hsnapshot]
    unfold Unmoved
    simp only [and_true]
    unfold uncached
    dsimp only
    generalize saturatingAdd snapshot.cacheRead snapshot.cacheWrite=cached
    split <;> split <;> omega

def usages (estimate:ℕ) (events:List CursorStreamEvent) : Option SseUsage×SseUsage :=
 (finalUsage (streamed MessageContent.stillEnv false "msg_1" "auto" estimate events).output,
  (answered false "msg_1" "auto" estimate events).usage)

def reported : List CursorStreamEvent := [.usage 50 8 40 0,.outputTokenDelta 2,.end]

theorem same_usage_iff_reported :
    (usages 7 reported).1=some (usages 7 reported).2 ∧ (usages 9 reported).1=(usages 7 reported).1 ∧
      (answered false "msg_1" "auto" 7 reported).usage = (answered false "msg_1" "auto" 0 reported).usage:=by
  have hshort:∀ estimate∈[7,9],Short (streamed MessageContent.stillEnv false "msg_1" "auto" estimate reported):=by
    unfold Short
    decide +kernel
  obtain ⟨hsame,hstream,hmessage⟩:=same_usage_iff MessageContent.stillEnv false "msg_1" "auto" 7
    reported (hshort 7 (by simp))
  refine ⟨hsame.mpr ⟨rfl,?_⟩,hstream 9 (hshort 9 (by simp)) rfl,(hmessage _ rfl).mpr (.inl ?_)⟩
  · exact ⟨by unfold SameInput uncached; decide,rfl,rfl⟩
  · decide

/-- The message reports an estimate greater than the input, no token where the cache uses
the input up, and forgets what was reported before a snapshot of output alone. -/
theorem estimate_overrides_snapshot :
    usages 1000 [.usage 10 5 0 0,.end]=(some ⟨10,5,0,0⟩,⟨1000,5,0,0⟩) ∧
      usages 1 [.usage 10 5 10 0,.end]=(some ⟨1,5,0,10⟩,⟨0,5,0,10⟩) ∧
      usages 1 [.usage 10 5 0 0,.usage 0 3 0 0,.end]=(some ⟨10,8,0,0⟩,⟨1,3,0,0⟩):=by
  decide +kernel

end CursorProxy.UsageReports
