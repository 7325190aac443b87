import CursorProxy.CodexReducer

namespace CursorProxy.CodexSeen
open CodexReducer

inductive Seen where
 | text (text:String)
 | tool (id name args:String)
deriving DecidableEq

def textOf (out:List ReducerEvent) (index:ℕ) : String :=
 String.join (out.filterMap fun
  | .textDelta i text=>if i=index then some text else none
  | _=>none)

def argsOf (out:List ReducerEvent) (index:ℕ) : String :=
 String.join (out.filterMap fun
  | .toolDelta i partialJson=>if i=index then some partialJson else none
  | _=>none)

def blockOf (out:List ReducerEvent) : ReducerEvent → Option (ℕ×Seen)
 | .textStart index=>some (index,.text (textOf out index))
 | .toolStart index id name=>some (index,.tool id name (argsOf out index))
 | _=>none

def shown (out:List ReducerEvent) : List (ℕ×Seen) := out.filterMap (blockOf out)

def recordOf : ResponsesInputItem → Option Seen
 | .functionCall callId name arguments=>some (.tool callId name arguments)
 | .message _ [.outputText text]=>some (.text text)
 | _=>none

def outputItems (out:List ReducerEvent) : List ResponsesInputItem :=
 (out.reverse.findSome? fun
  | .finish _ _ _ _ _ _ items=>some items
  | _=>none).getD []

def Seen.counts : Seen → Bool
 | .text said=>!said.isEmpty
 | .tool _ _ _=>true

/-- The blocks that the client has seen are the recorded ones, each with its text or its call. -/
def SeenIsRecorded (out:List ReducerEvent) : Prop :=
 (((shown out).map Prod.snd).filter Seen.counts).Perm ((outputItems out).filterMap recordOf)

def hear (event:ReducerEvent) (entry:ℕ×Seen) : ℕ×Seen :=
 match event,entry.2 with
 | .textDelta index text, .text said=>
  if index=entry.1 then (entry.1,.text (said++text)) else entry
 | .toolDelta index partialJson, .tool id name args=>
  if index=entry.1 then (entry.1,.tool id name (args++partialJson)) else entry
 | _,_=>entry

/-- No block is started, and no delta is for another block. -/
def Within (index:ℕ) : ReducerEvent → Prop
 | .textStart _=>False
 | .toolStart _ _ _=>False
 | .textDelta i _=>i=index
 | .toolDelta i _=>i=index
 | _=>True

theorem textOf_append (out:List ReducerEvent) (event:ReducerEvent) (index:ℕ) :
 textOf (out++[event]) index=textOf out index++textOf [event] index:=by
 unfold textOf
 rw [List.filterMap_append,String.join_append]

theorem argsOf_append (out:List ReducerEvent) (event:ReducerEvent) (index:ℕ) :
 argsOf (out++[event]) index=argsOf out index++argsOf [event] index:=by
 unfold argsOf
 rw [List.filterMap_append,String.join_append]

theorem textOf_within {event:ReducerEvent} {index other:ℕ} (h:Within index event)
 (hne:other≠index) : textOf [event] other = "" := by
 cases event with
 | textDelta i text=>
  have hother:i≠other:=fun heq=>hne (heq.symm.trans h)
  simp [textOf,hother,String.join]
 | _=>rfl

theorem argsOf_within {event:ReducerEvent} {index other:ℕ} (h:Within index event)
 (hne:other≠index) : argsOf [event] other = "" := by
 cases event with
 | toolDelta i partialJson=>
  have hother:i≠other:=fun heq=>hne (heq.symm.trans h)
  simp [argsOf,hother,String.join]
 | _=>rfl

theorem hear_ne {event:ReducerEvent} {entry:ℕ×Seen} {index:ℕ} (h:Within index event)
 (hne:entry.1≠index) : hear event entry=entry:=by
 obtain ⟨i,seen⟩:=entry
 cases event with
 | textDelta j text=>
  have hother:¬j=i:=fun heq=>hne (heq.symm.trans h)
  cases seen <;> simp [hear,hother]
 | toolDelta j partialJson=>
  have hother:¬j=i:=fun heq=>hne (heq.symm.trans h)
  cases seen <;> simp [hear,hother]
 | _=>cases seen <;> rfl

theorem hear_fst (event:ReducerEvent) (entry:ℕ×Seen) : (hear event entry).1=entry.1:=by
 unfold hear
 split <;> try split
 all_goals rfl

theorem blockOf_append (out:List ReducerEvent) (event start:ReducerEvent) :
 blockOf (out++[event]) start=(blockOf out start).map (hear event):=by
 cases start with
 | textStart index=>
  simp only [blockOf,textOf_append,Option.map_some,Option.some.injEq]
  cases event with
  | textDelta i text=>by_cases hi:i=index <;> simp [hear,textOf,String.join,hi]
  | _=>simp [hear,textOf,String.join]
 | toolStart index id name=>
  simp only [blockOf,argsOf_append,Option.map_some,Option.some.injEq]
  cases event with
  | toolDelta i partialJson=>by_cases hi:i=index <;> simp [hear,argsOf,String.join,hi]
  | _=>simp [hear,argsOf,String.join]
 | _=>rfl

theorem shown_append (out:List ReducerEvent) (event:ReducerEvent) :
 shown (out++[event]) = (shown out).map (hear event)++(blockOf (out++[event]) event).toList:=by
 unfold shown
 rw [List.filterMap_append,List.map_filterMap]
 have hsame:blockOf (out++[event])=fun start=>(blockOf out start).map (hear event) :=
  funext (blockOf_append out event)
 rw [hsame]
 cases hevent:(blockOf out event).map (hear event) <;> simp [hevent]

theorem shown_within (out:List ReducerEvent) {event:ReducerEvent} {index:ℕ}
 (h:Within index event) : shown (out++[event])=(shown out).map (hear event):=by
 rw [shown_append]
 cases event with
 | textStart i=>exact absurd h id
 | toolStart i id name=>exact absurd h not_false
 | _=>exact List.append_nil _

end CursorProxy.CodexSeen
