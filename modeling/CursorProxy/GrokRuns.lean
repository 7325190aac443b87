import CursorProxy.GrokBrackets

namespace CursorProxy.GrokRuns
open BlockBrackets GrokBrackets GrokMoves GrokReducer JsonValues

/-- The block that an argument delta is for, and its text. -/
def additionOf (r:Reducer) (value:JsonValue) : Option (ℕ×String) :=
 if (stringField "type" value).map eventType=some .argumentsDelta then
  (r.callId value).bind fun id=>(r.calls.lookup id).bind fun call=>
   (stringField "delta" value).map fun text=>(call.1,text)
 else none

/-- The block that a completion is for, and the arguments it carries. -/
def completionOf (r:Reducer) (value:JsonValue) : Option (ℕ×String) :=
 if (stringField "type" value).map eventType=some .argumentsDone then
  (r.callId value).bind fun id=>(r.calls.lookup id).bind fun call=>
   (stringField "arguments" value).map fun args=>(call.1,args)
 else none

structure Observed where
 reducer : Reducer
 out : List ReducerEvent
 completions : List (ℕ×String)

namespace Observed

def new : Observed := ⟨.new,[],[]⟩

def read (env:GrokEnv) (s:Observed) (value:JsonValue) : Option Observed :=
 match s.reducer.push env value with
 | .error _=>none
 | .ok (out,reducer)=>some ⟨reducer,s.out++out,
   s.completions++(completionOf s.reducer value).toList⟩

/-- The first error ends the run; after the completion every event is one. -/
def run (env:GrokEnv) (s:Observed) : List JsonValue → Observed
 | []=>s
 | value::values=>match s.read env value with
  | none=>s
  | some s=>s.run env values

end Observed

/-- After a completion that carried arguments no other text comes for its block. -/
structure Settled (s:Observed) (value:JsonValue) : Prop where
 additions : ∀ index text args,additionOf s.reducer value=some (index,text) → (index,args)∈s.completions → text = ""
 completions : ∀ index args args',completionOf s.reducer value=some (index,args) →
  (index,args')∈s.completions → args'=args

def SettledRun (env:GrokEnv) (s:Observed) : List JsonValue → Prop
 | []=>True
 | value::values=>Settled s value ∧ ∀ s',s.read env value=some s' →
  SettledRun env s' values

structure OneMessage (env:GrokEnv) (out:List ReducerEvent) : Prop where
 /-- Deltas and citations are for blocks that are open and of their kind. -/
 bracketed : ∃ b,Blocks.none.readAll (bracketsAll out)=some b
 numbered : ∃ count,starts (bracketsAll out)=List.range count
 alone : Alone GrokKind.solo (bracketsAll out)
 searches : ∀ index resultIndex id name query,
  .hostedSearch index resultIndex id name query∈out → resultIndex=index+1
 finished : ∀ body event rest,out=body++event::rest → isFinish event=true →
  rest=[] ∧ (∀ event∈body,isFinish event=false) ∧ Balanced (bracketsAll body)
 valid : ∀ index, .toolStop index∈out → (env.readValue (argumentsOf index out)).isSome=true

/-- Arguments that a completion carried are those of its block. -/
def CompletionsKept (s:Observed) : Prop :=
 ∀ index args,(index,args)∈s.completions → argumentsOf index s.out=args

theorem searches_of_reads {out:List ReducerEvent} {b:Blocks GrokKind}
  (h:Blocks.none.readAll (bracketsAll out)=some b) {index resultIndex:ℕ}
  {id name query:String} (hmem:.hostedSearch index resultIndex id name query∈out) : resultIndex=index+1:=by
 obtain ⟨before,after,rfl⟩:=List.append_of_mem hmem
 rw [bracketsAll_append,Blocks.readAll_append] at h
 obtain ⟨c,-,hafter⟩:=Option.bind_eq_some_iff.mp h
 have hcons:bracketsAll (.hostedSearch index resultIndex id name query::after) =
   .start index .search :: .delta index .search :: .stop index .search ::
    .start resultIndex .result :: .stop resultIndex .result::bracketsAll after := rfl
 rw [hcons] at hafter
 unfold Blocks.readAll at hafter
 rw [List.foldlM_cons] at hafter
 obtain ⟨d,hstart,hafter⟩:=Option.bind_eq_some_iff.mp hafter
 obtain ⟨hindex,rfl⟩:=Blocks.of_read_start hstart
 rw [List.foldlM_cons] at hafter
 obtain ⟨d,hdelta,hafter⟩:=Option.bind_eq_some_iff.mp hafter
 obtain ⟨-,rfl⟩:=Blocks.of_read_delta hdelta
 rw [List.foldlM_cons] at hafter
 obtain ⟨d,hstop,hafter⟩:=Option.bind_eq_some_iff.mp hafter
 obtain ⟨-,rfl⟩:=Blocks.of_read_stop hstop
 rw [List.foldlM_cons] at hafter
 obtain ⟨d,hresult,-⟩:=Option.bind_eq_some_iff.mp hafter
 obtain ⟨hresult,-⟩:=Blocks.of_read_start hresult
 rw [hresult,hindex]

theorem finished_last {c:Core} {out body rest:List ReducerEvent} {event:ReducerEvent}
  (h:Ended c out) (hout:out=body++event::rest) (hfinish:isFinish event=true) :
  rest=[] ∧ (∀ event∈body,isFinish event=false) ∧ Balanced (bracketsAll body):=by
 have hmem:event∈out:=hout ▸ List.mem_append_right body List.mem_cons_self
 cases hcompleted:c.completed with
 | false=>exact absurd ((h.going hcompleted event hmem).symm.trans hfinish) Bool.false_ne_true
 | true=>
  obtain ⟨whole,last,hlast,-,hwhole,hbalanced⟩:=h.finished hcompleted
  rcases List.eq_nil_or_concat rest with rfl | ⟨more,final,rfl⟩
  · have hparts:=hout.symm.trans hlast
    obtain ⟨rfl,-⟩:=List.append_inj' hparts rfl
    exact ⟨rfl,hwhole,hbalanced⟩
  · rw [List.concat_eq_append,← List.cons_append,← List.append_assoc] at hout
    obtain ⟨rfl,-⟩:=List.append_inj' (hlast.symm.trans hout) rfl
    have hnone:=hwhole event (List.mem_append_right body List.mem_cons_self)
    exact absurd (hnone.symm.trans hfinish) Bool.false_ne_true

theorem Held.oneMessage {env:GrokEnv} {c:Core} {out:List ReducerEvent} (h:Held env c out) : OneMessage env out:=by
 obtain ⟨b,hread,-⟩:=h.bracketed.reads
 refine ⟨⟨b,hread⟩,⟨b.next,?_⟩,?_,fun _ _ _ _ _ hmem=>searches_of_reads hread hmem,
  fun _ _ _ hout hfinish=>finished_last h.ended hout hfinish,
  fun index hmem=>(h.argued.stopped index hmem).2.1⟩
 · rw [(starts_of_read _ hread).2,List.range_eq_range']
   rfl
 · unfold Alone
   rw [h.bracketed.solo]
   rfl

theorem argumentsOf_moves {env:GrokEnv} {c d:Core} {more:List ReducerEvent}
  (hmoves:Moves env false c more d) (index:ℕ) : ∀ out:List ReducerEvent,
   argumentsOf index (out++more)=argumentsOf index out:=by
 induction hmoves with
 | refl c=>
  intro out
  rw [List.append_nil]
 | step hgoing hmove hrest ih=>
  intro out
  rw [← List.append_assoc,ih]
  cases hmove with
  | close kind number hactive=>
   exact argumentsOf_quiet (fun index=>(quiet_stop kind number index).1) index out
  | start kind hactive=>
   exact argumentsOf_quiet (fun index=>(quiet_start kind _ index).1) index out
  | delta kind number text hactive=>
   exact argumentsOf_quiet (fun index=>(quiet_delta kind number index text).1) index out
  | argue hmay=>exact (nomatch hmay)
  | _=>exact argumentsOf_quiet (fun _=>rfl) index out

theorem CompletionsKept.read {env:GrokEnv} {s s':Observed} {value:JsonValue}
  (hheld:Held env (coreOf s.reducer) s.out) (h:CompletionsKept s)
  (hsettled:Settled s value) (hread:s.read env value=some s') : CompletionsKept s':=by
 unfold Observed.read at hread
 cases hpush:s.reducer.push env value with
 | error error=>
  rw [hpush] at hread
  exact (nomatch hread)
 | ok pushed=>
  obtain ⟨out,reducer⟩:=pushed
  rw [hpush] at hread
  obtain rfl:=Option.some.inj hread
  obtain ⟨hgoing,typ,htype,htyped,hmoves⟩:=push_moves hpush
  have hkind:(stringField "type" value).map eventType=some (eventType typ):=by
   rw [htype]
   rfl
  by_cases hdelta:eventType typ=.argumentsDelta
  · rw [hdelta] at htyped hkind
    obtain ⟨id,index,name,args,delta,hid,hcall,-,hsent,rfl,-⟩ :=
     argumentsDelta_cases htyped
    have haddition:additionOf s.reducer value=some (index,delta):=by
     unfold additionOf
     rw [if_pos hkind,hid,Option.bind_some,hcall,Option.bind_some,hsent]
     rfl
    have hcompletion:completionOf s.reducer value=none:=by
     unfold completionOf
     rw [if_neg (by rw [hkind]; exact nofun)]
    intro other otherArgs hmem
    rw [hcompletion,Option.toList_none,List.append_nil] at hmem
    change argumentsOf other (s.out++[.toolDelta index delta])=otherArgs
    rw [argumentsOf_delta]
    by_cases hindex:index=other
    · subst hindex
      rw [if_pos rfl,hsettled.additions index delta otherArgs haddition hmem,String.append_empty]
      exact h index otherArgs hmem
    · rw [if_neg hindex]
      exact h other otherArgs hmem
  · by_cases hdone:eventType typ=.argumentsDone
    · rw [hdone] at htyped hkind
      obtain ⟨id,index,name,accumulated,hid,hcall,hargs,hcases⟩ :=
       argumentsDone_cases htyped
      have hown:accumulated=argumentsOf index s.out :=
       Option.some.inj (hargs.symm.trans (hheld.argued.args id index name hcall))
      have hcompletion:completionOf s.reducer value = (stringField "arguments" value).map fun args=>(index,args):=by
       unfold completionOf
       rw [if_pos hkind,hid,Option.bind_some,hcall,Option.bind_some]
      intro other otherArgs hmem
      rcases hcases with ⟨rfl,-,hsame⟩ | ⟨args,hsent,hempty,rfl,-⟩
      · change argumentsOf other (s.out++[])=otherArgs
        rw [List.append_nil]
        rcases List.mem_append.mp hmem with hmem | hmem
        · exact h other otherArgs hmem
        · rw [hcompletion,Option.mem_toList,Option.map_eq_some_iff] at hmem
          obtain ⟨args,hsent,hpair⟩:=hmem
          obtain ⟨rfl,rfl⟩:=Prod.mk.inj hpair
          rw [← hown]
          exact (hsame args hsent).symm
      · rw [hsent] at hcompletion
        change argumentsOf other (s.out++[.toolDelta index args])=otherArgs
        have hnew:argumentsOf index s.out++args=args:=by
         rw [← hown,hempty,String.empty_append]
        rw [argumentsOf_delta]
        by_cases hindex:index=other
        · subst hindex
          rw [if_pos rfl,hnew]
          rcases List.mem_append.mp hmem with hmem | hmem
          · exact (hsettled.completions index args otherArgs hcompletion hmem).symm
          · rw [hcompletion,Option.mem_toList] at hmem
            exact (Prod.mk.inj (Option.some.inj hmem)).2
        · rw [if_neg hindex]
          rcases List.mem_append.mp hmem with hmem | hmem
          · exact h other otherArgs hmem
          · rw [hcompletion,Option.mem_toList] at hmem
            exact absurd (Prod.mk.inj (Option.some.inj hmem)).1 hindex
    · have hquiet:argues (eventType typ)=false:=by
       revert hdelta hdone
       cases eventType typ with
       | argumentsDelta=>exact fun h=>absurd rfl h
       | argumentsDone=>exact fun _ h=>absurd rfl h
       | _=>exact fun _ _=>rfl
      rw [hquiet] at hmoves
      have hcompletion:completionOf s.reducer value=none:=by
       unfold completionOf
       rw [if_neg fun hsame=>hdone (Option.some.inj (hkind.symm.trans hsame))]
      intro other otherArgs hmem
      rw [hcompletion,Option.toList_none,List.append_nil] at hmem
      exact (argumentsOf_moves hmoves other s.out).trans (h other otherArgs hmem)

theorem Held.read {env:GrokEnv} {s s':Observed} {value:JsonValue}
  (h:Held env (coreOf s.reducer) s.out) (hread:s.read env value=some s') : Held env (coreOf s'.reducer) s'.out:=by
 unfold Observed.read at hread
 cases hpush:s.reducer.push env value with
 | error error=>
  rw [hpush] at hread
  exact (nomatch hread)
 | ok pushed=>
  obtain ⟨out,reducer⟩:=pushed
  rw [hpush] at hread
  obtain rfl:=Option.some.inj hread
  obtain ⟨-,typ,-,-,hmoves⟩:=push_moves hpush
  exact Held.moves hmoves h

theorem held_run {env:GrokEnv} (values:List JsonValue) : ∀ {s:Observed},
  Held env (coreOf s.reducer) s.out → Held env (coreOf (s.run env values).reducer) (s.run env values).out:=by
 induction values with
 | nil=>exact fun h=>h
 | cons value values ih=>
  intro s h
  unfold Observed.run
  cases hread:s.read env value with
  | none=>exact h
  | some s'=>exact ih (Held.read h hread)

theorem completions_run {env:GrokEnv} (values:List JsonValue) : ∀ {s:Observed},
  Held env (coreOf s.reducer) s.out → CompletionsKept s → SettledRun env s values →
   CompletionsKept (s.run env values):=by
 induction values with
 | nil=>exact fun _ h _=>h
 | cons value values ih=>
  intro s hheld h hsettled
  unfold Observed.run
  cases hread:s.read env value with
  | none=>exact h
  | some s'=>
   exact ih (Held.read hheld hread) (h.read hheld hsettled.1 hread) (hsettled.2 s' hread)

/-- Every run emits one well-formed message, and a run without late arguments keeps what the
completions carried. -/
theorem reducer_emits_one_message (env:GrokEnv) (values:List JsonValue) :
    OneMessage env (Observed.run env .new values).out ∧
      (SettledRun env .new values → CompletionsKept (Observed.run env .new values)) :=
  ⟨Held.oneMessage (held_run values (held_new env)),completions_run values (held_new env) nofun⟩

def callEvent : JsonValue := .object [("item",.object [("call_id",.string "c"),
 ("name",.string "f"),("type",.string "function_call")]),("type",.string "response.output_item.added")]

def doneEvent : JsonValue := .object [("arguments",.string "1"),("call_id",.string "c"),
 ("type",.string "response.function_call_arguments.done")]

def lateEvent : JsonValue := .object [("call_id",.string "c"),("delta",.string "2"),
 ("type",.string "response.function_call_arguments.delta")]

def stopEvent : JsonValue := .object [("item",.object [("call_id",.string "c"),
 ("type",.string "function_call")]),("type",.string "response.output_item.done")]

def numbersEnv : GrokEnv where
 readValue text := if text = "1" ∨ text = "12" then some (.number text) else none

theorem settled_of_no_completions {s:Observed} (h:s.completions=[]) (value:JsonValue) : Settled s value:=by
 constructor
 · intro index text args _ hmem
   rw [h] at hmem
   exact (nomatch hmem)
 · intro index args args' _ hmem
   rw [h] at hmem
   exact (nomatch hmem)

/-- A call whose arguments come with its completion. -/
theorem reducer_emits_one_message_call :
    CompletionsKept (Observed.run numbersEnv .new [callEvent,doneEvent,stopEvent]):=by
  refine (reducer_emits_one_message numbersEnv [callEvent,doneEvent,stopEvent]).2 ?_
  refine ⟨settled_of_no_completions rfl _,fun s' hread=>?_⟩
  obtain rfl:=Option.some.inj hread
  refine ⟨settled_of_no_completions rfl _,fun s'' _=>?_⟩
  have haddition:∀ r,additionOf r stopEvent=none:=fun r=>rfl
  have hcompletion:∀ r,completionOf r stopEvent=none:=fun r=>rfl
  refine ⟨⟨?_,?_⟩,fun _ _=>trivial⟩
  · intro index text args hsome
    exact (nomatch (haddition _).symm.trans hsome)
  · intro index args args' hsome
    exact (nomatch (hcompletion _).symm.trans hsome)

/-- A delta behind the completion is accepted. -/
theorem late_delta_changes_arguments :
    ¬ ∀ (env:GrokEnv) (values:List JsonValue),
      OneMessage env (Observed.run env .new values).out ∧
        ∀ index args,(index,args)∈(Observed.run env .new values).completions →
          .toolStop index∈(Observed.run env .new values).out →
            argumentsOf index (Observed.run env .new values).out=args:=by
  intro h
  have hrun:Observed.run numbersEnv .new [callEvent,doneEvent,lateEvent,stopEvent] =
      ⟨(Observed.run numbersEnv .new [callEvent,doneEvent,lateEvent,stopEvent]).reducer,
        [.toolStart 0 "c" "f",.toolDelta 0 "1",.toolDelta 0 "2",.toolStop 0],[(0,"1")]⟩:=by
    rfl
  have hkept:=(h numbersEnv [callEvent,doneEvent,lateEvent,stopEvent]).2 0 "1"
  rw [hrun] at hkept
  have hsame:argumentsOf 0 [.toolStart 0 "c" "f",.toolDelta 0 "1",.toolDelta 0 "2",
      .toolStop 0] = "1" := hkept List.mem_cons_self (by simp)
  exact absurd hsame (by decide)

end CursorProxy.GrokRuns
