import CursorProxy.LiveRunKeys

/-! The calls that Cursor waits for, as they are collected, exposed to the client and completed.
Instants are in nanoseconds since the origin of the process. -/
namespace CursorProxy.PendingExecs
open XmlElements LiveRunKeys

structure PiEditReplacement where
 oldText : Text
 newText : Text
deriving DecidableEq

inductive CursorExecKind where
 | read
 | write
 | piWrite
 | piEdit (path:Text) (edits:List PiEditReplacement)
 | piEditContinuation (parentId:UInt32)
 | delete
 | grep
 | ls
 | shell
 | clientOnly
deriving DecidableEq

structure PendingCursorExec where
 id : UInt32
 execId : Option Text
 toolUseId : Text
 kind : CursorExecKind
deriving DecidableEq

def isClientOnly (exec:PendingCursorExec) : Bool := exec.kind == .clientOnly

def isNative (exec:PendingCursorExec) : Bool := !isClientOnly exec

inductive ResumeAdmissionState where
 | idle
 | inFlight
 | expired

structure ResumeAdmission where
 deadlineTicks : ℕ
 state : ResumeAdmissionState

def ticksAt (instant:ℕ) : ℕ := min instant ((2 ^ 64-1) / 4)

def ResumeAdmission.setDeadline (deadline:ℕ) : ResumeAdmission := ⟨ticksAt deadline,.idle⟩

structure PendingExecState where
 awaiting : List PendingCursorExec
 collecting : List PendingCursorExec
 seenExecs : Finset (UInt32×Text)
 emittedToolUseIds : Finset Text
 runGeneration : Option Text
 awaitingSince : Option ℕ
 collectingSince : Option ℕ
 collectDeadline : Option ℕ
 resumeAdmission : Option ResumeAdmission
 toolTtl : Option ℕ

def discriminator (exec:PendingCursorExec) : Text :=
 match exec.execId.filter fun value=>!value.isEmpty with
 | some value => "exec:".toList++value
 | none => "tool:".toList++exec.toolUseId

def bindGeneration (generation:Option Text) (toolUseId:Text) : Text :=
 let single:=toolUseId.map fun char=>if char == '\n' || char == '\r' then '_' else char
 match generation with
 | some generation=>single ++ "__cursor_run_".toList++generation
 | none=>single

/-- What is tried for an id that has been given out: first the exec's number, then ordinals from
two on behind it. -/
def candidate (base:Text) (id:UInt32) : ℕ → Text
 | 0=>base ++ "__cursor_".toList++decimal id.toNat
 | n+1=>base ++ "__cursor_".toList++decimal id.toNat ++ '_' :: decimal (n+2)

theorem candidate_injective (base:Text) (id:UInt32) : Function.Injective (candidate base id):=by
 intro m n h
 cases m with
 | zero=>
  cases n with
  | zero=>rfl
  | succ n=>
   have hlength:=congrArg List.length h
   simp only [candidate,List.length_append,List.length_cons] at hlength
   omega
 | succ m=>
  cases n with
  | zero=>
   have hlength:=congrArg List.length h
   simp only [candidate,List.length_append,List.length_cons] at hlength
   omega
  | succ n=>
   have htail:=(List.cons.inj (List.append_cancel_left h)).2
   have hordinal:=decimal_injective htail
   omega

/-- The first candidate from `n` on that is free; as many are tried as ids are taken. -/
def firstFree (taken:Finset Text) (base:Text) (id:UInt32) : ℕ → ℕ → Text
 | 0,n=>candidate base id n
 | tries+1,n=>
  if candidate base id n∈taken then firstFree taken base id tries (n+1)
  else candidate base id n

def disambiguate (taken:Finset Text) (id:UInt32) (base:Text) : Text :=
 if base∈taken then firstFree taken base id taken.card 0 else base

theorem firstFree_taken {taken:Finset Text} {base:Text} {id:UInt32} {tries n:ℕ}
 (h:firstFree taken base id tries n∈taken) : ∀ i,i ≤ tries → candidate base id (n+i)∈taken:=by
 induction tries generalizing n with
 | zero=>
  intro i hi
  rw [Nat.le_zero.mp hi]
  exact h
 | succ tries ih=>
  unfold firstFree at h
  split_ifs at h with htaken
  · intro i hi
    cases i with
    | zero=>exact htaken
    | succ i=>
     have hnext:=ih h i (Nat.le_of_succ_le_succ hi)
     rwa [Nat.add_assoc,Nat.add_comm 1 i] at hnext
  · exact absurd h htaken

theorem disambiguate_fresh (taken:Finset Text) (id:UInt32) (base:Text) : disambiguate taken id base ∉ taken:=by
 unfold disambiguate
 split_ifs with hbase
 · intro hfree
   have hall:=firstFree_taken hfree
   have hcard:((Finset.range (taken.card+1)).image (candidate base id)).card = taken.card+1:=by
    rw [Finset.card_image_of_injective _ (candidate_injective base id),Finset.card_range]
   have hsubset:(Finset.range (taken.card+1)).image (candidate base id) ⊆ taken:=by
    intro text htext
    obtain ⟨i,hi,rfl⟩:=Finset.mem_image.mp htext
    have hmem:=hall i (Nat.le_of_lt_succ (Finset.mem_range.mp hi))
    rwa [Nat.zero_add] at hmem
   have hle:=Finset.card_le_card hsubset
   omega
 · exact hbase

namespace PendingExecState

def forRun (runId:Text) : PendingExecState :=
 { awaiting := [],collecting := [],seenExecs := ∅,emittedToolUseIds := ∅
   runGeneration := some runId,awaitingSince := none,collectingSince := none
   collectDeadline := none,resumeAdmission := none,toolTtl := none }

def admitted (state:PendingExecState) (exec:PendingCursorExec) : PendingCursorExec :=
 { exec with
   toolUseId := disambiguate state.emittedToolUseIds exec.id (bindGeneration state.runGeneration exec.toolUseId) }

def queue (state:PendingExecState) (exec:PendingCursorExec) (now quiet:ℕ) : PendingExecState×Bool :=
 if (exec.id,discriminator exec)∈state.seenExecs then (state,false)
 else
  ({ state with
   seenExecs := insert (exec.id,discriminator exec) state.seenExecs
   emittedToolUseIds := insert (state.admitted exec).toolUseId state.emittedToolUseIds
   collectingSince := if state.collecting.isEmpty then some now else state.collectingSince
   collecting := state.collecting++[state.admitted exec]
   collectDeadline := some (now+quiet) },true)

def canExpose (state:PendingExecState) : Bool :=
 state.awaiting.isEmpty&&!state.collecting.isEmpty

def nativeCollectDeadline (state:PendingExecState) : Option ℕ :=
 if state.canExpose&&state.collecting.any isNative then state.collectDeadline else none

def expose (state:PendingExecState) : PendingExecState×List PendingCursorExec :=
 if !state.canExpose then (state,[])
 else if state.collecting.any isClientOnly&&state.collecting.any isNative then
  ({ state with
   collecting := state.collecting.filter isNative
   awaiting := state.collecting.filter isClientOnly },state.collecting.filter isClientOnly)
 else
  ({ state with
   awaiting := state.collecting,collecting := []
   collectingSince := none,collectDeadline := none },state.collecting)

def exposeNative (state:PendingExecState) (now:ℕ) : PendingExecState×List PendingCursorExec :=
 if !state.canExpose then (state,[])
 else
  let native:=state.collecting.filter isNative
  let clientOnly:=state.collecting.filter isClientOnly
  if native.isEmpty then ({ state with collecting := clientOnly,collectDeadline := none },[])
  else
   ({ state with
    collecting := clientOnly,awaiting := native
    collectingSince := if clientOnly.isEmpty then none else some now
    collectDeadline := none },native)

def markExposedAt (state:PendingExecState) (now:ℕ) : PendingExecState :=
 if state.awaiting.isEmpty then state
 else
  { state with
    awaitingSince := some now
    resumeAdmission := match state.resumeAdmission,state.toolTtl with
     | some _,some toolTtl=>some (.setDeadline (now+toolTtl))
     | admission,_=>admission }

def configureResumeAdmission (state:PendingExecState) (admission:ResumeAdmission) (toolTtl:ℕ) : PendingExecState :=
 { state with resumeAdmission := some admission,toolTtl := some toolTtl }

def completeAwaiting (state:PendingExecState) (now:ℕ) : PendingExecState :=
 { state with
   awaiting := [],awaitingSince := none
   collectDeadline := if !state.collecting.isEmpty&&state.collectDeadline.isNone then some now
    else state.collectDeadline }

/-- An abort names the server message of the exec, or that of its parent. -/
def abortMatches (id:UInt32) (exec:PendingCursorExec) : Bool :=
 isNative exec&&(exec.id==id||match exec.kind with
  | .piEditContinuation parentId=>parentId==id
  | _=>false)

def abortNativeById (state:PendingExecState) (id:UInt32) (now:ℕ) : PendingExecState×Option PendingCursorExec :=
 let removed:=(state.awaiting.find? (abortMatches id)).or
  (state.collecting.find? (abortMatches id))
 let awaiting:=state.awaiting.filter fun exec=>!abortMatches id exec
 let collecting:=state.collecting.filter fun exec=>!abortMatches id exec
 ({ state with
  awaiting := awaiting,collecting := collecting
  awaitingSince := if awaiting.isEmpty&&removed.isSome then none else state.awaitingSince
  collectingSince := if collecting.isEmpty then none else state.collectingSince
  collectDeadline := if collecting.isEmpty then none
   else if state.collectDeadline.isNone then some now else state.collectDeadline },removed)

def keepClientCollecting (state:PendingExecState) : PendingExecState :=
 let keep:=state.collecting.filter isClientOnly
 { state with
   collecting := keep
   collectingSince := if keep.isEmpty then none else state.collectingSince
   collectDeadline := if keep.isEmpty then none else state.collectDeadline }

def drainNatives (state:PendingExecState) : PendingExecState×List PendingCursorExec :=
 let awaiting:=state.awaiting.filter isClientOnly
 ({ state.keepClientCollecting with
  awaiting := awaiting
  awaitingSince := if awaiting.isEmpty then none else state.awaitingSince },
  state.collecting.filter isNative++state.awaiting.filter isNative)

def drainCollectingNatives (state:PendingExecState) : PendingExecState×List PendingCursorExec :=
 (state.keepClientCollecting,state.collecting.filter isNative)

def restoreCollectingNatives (state:PendingExecState) (natives:List PendingCursorExec) (now:ℕ) : PendingExecState :=
 if natives.isEmpty then state
 else
  { state with
    collectingSince := if state.collecting.isEmpty then some now else state.collectingSince
    collecting := state.collecting++natives }

end PendingExecState
end CursorProxy.PendingExecs
