import CursorProxy.GrokReducer

namespace CursorProxy.GrokMoves
open GrokReducer JsonValues

/-- The part of the reducer that decides what is open. -/
structure Core where
 nextIndex : ℕ
 active : Option (ActiveKind×ℕ)
 calls : AList fun _ : String=>ℕ×String
 toolArgs : AList fun _ : String=>String
 completed : Bool

def coreOf (r:Reducer) : Core := ⟨r.nextIndex,r.active,r.calls,r.toolArgs,r.completed⟩

/-- Arguments come only with an event that may bring them. -/
inductive Move (env:GrokEnv) (may:Bool) : Core → List ReducerEvent → Core → Prop
 | close {c:Core} (kind:ActiveKind) (index:ℕ) (h:c.active=some (kind,index)) :
  Move env may c [kind.stop index] { c with active := none }
 | start {c:Core} (kind:ActiveKind) (h:c.active=none) :
  Move env may c [kind.start c.nextIndex]
   { c with active := some (kind,c.nextIndex),nextIndex := c.nextIndex+1 }
 | delta {c:Core} (kind:ActiveKind) (index:ℕ) (text:String)
  (h:c.active=some (kind,index)) : Move env may c [kind.delta index text] c
 | cite {c:Core} (index:ℕ) ( annotation : JsonValue) (h:c.active=some (.text,index)) :
  Move env may c [.citation index annotation] c
 | search {c:Core} (id name query:String) (h:c.active=none) :
  Move env may c [.hostedSearch c.nextIndex (c.nextIndex+1) id name query]
   { c with nextIndex := c.nextIndex+2 }
 | call {c:Core} (id name:String) (h:c.active=none) (hnew:c.calls.lookup id=none) :
  Move env may c [.toolStart c.nextIndex id name]
   { c with
     nextIndex := c.nextIndex+1
     calls := c.calls.insert id (c.nextIndex,name)
     toolArgs := c.toolArgs.insert id "" }
 | argue {c:Core} (hmay:may=true) (id:String) (index:ℕ) (name args text:String)
  (hcall:c.calls.lookup id=some (index,name)) (hargs:c.toolArgs.lookup id=some args) :
  Move env may c [.toolDelta index text] { c with toolArgs := c.toolArgs.insert id (args++text) }
 | stop {c:Core} (id:String) (index:ℕ) (name:String)
  (hcall:c.calls.lookup id=some (index,name))
  (hvalid:(env.readValue ((c.toolArgs.lookup id).getD "")).isSome=true) :
  Move env may c [.toolStop index]
   { c with calls := c.calls.erase id,toolArgs := c.toolArgs.erase id }
 | finish {c:Core} (reason:String) (input output web x:ℕ) (h:c.active=none)
  (hcalls:∀ id,c.calls.lookup id=none) :
  Move env may c [.finish reason input output web x] { c with completed := true }

inductive Moves (env:GrokEnv) (may:Bool) : Core → List ReducerEvent → Core → Prop
 | refl (c:Core) : Moves env may c [] c
 | step {c d e:Core} {out more:List ReducerEvent} (hgoing:c.completed=false)
  (h:Move env may c out d) (hrest:Moves env may d more e) : Moves env may c (out++more) e

section moves
variable {env:GrokEnv} {may:Bool} {c d:Core} {r:Reducer}

theorem Moves.one {out:List ReducerEvent} (hgoing:c.completed=false)
 (h:Move env may c out d) : Moves env may c out d:=by
 have hone:=Moves.step hgoing h (Moves.refl d)
 rw [List.append_nil] at hone
 exact hone

theorem closing_moves (hgoing:r.completed=false) {more:List ReducerEvent}
 (h:Moves env may { coreOf r with active := none } more d) :
 Moves env may (coreOf r) (r.closing++more) d:=by
 unfold Reducer.closing
 cases hactive:r.active with
 | none=>
  have hsame:({ coreOf r with active:=none } : Core)=coreOf r:=by
   unfold coreOf
   rw [hactive]
  rw [hsame] at h
  exact h
 | some active=>
  obtain ⟨kind,index⟩:=active
  exact Moves.step hgoing (Move.close kind index hactive) h

theorem closeKind_moves (hgoing:r.completed=false) (kind:ActiveKind) :
 Moves env may (coreOf r) (r.closeKind kind).1 (coreOf (r.closeKind kind).2):=by
 unfold Reducer.closeKind
 split_ifs
 · have hclosed:=@closing_moves env may _ r hgoing _ (Moves.refl { coreOf r with active := none })
   rw [List.append_nil] at hclosed
   exact hclosed
 · exact Moves.refl _

theorem opened_moves (hgoing:c.completed=false) (hactive:c.active=none) (kind:ActiveKind) (texts:List String) :
 Moves env may c (kind.start c.nextIndex::texts.map (kind.delta c.nextIndex))
  { c with active := some (kind,c.nextIndex),nextIndex := c.nextIndex+1 }:=by
 refine Moves.step hgoing (Move.start kind hactive) ?_
 induction texts with
 | nil=>exact Moves.refl _
 | cons text texts ih=>
  have hone:Move env may { c with active:=some (kind,c.nextIndex),nextIndex := c.nextIndex+1 }
   [kind.delta c.nextIndex text] _ := Move.delta kind c.nextIndex text rfl
  have hopen:({ c with
   active := some (kind,c.nextIndex),nextIndex := c.nextIndex+1 } : Core).completed = false := hgoing
  exact Moves.step hopen hone ih

theorem delta_moves (hgoing:r.completed=false) (kind:ActiveKind) (text:String) :
 Moves env may (coreOf r) (r.delta kind text).1 (coreOf (r.delta kind text).2):=by
 have hopened:Moves env may (coreOf r) (r.closing++[kind.start r.nextIndex,kind.delta r.nextIndex text])
  (coreOf { r with active := some (kind,r.nextIndex),nextIndex := r.nextIndex+1 }) :=
  closing_moves hgoing (opened_moves hgoing rfl kind [text])
 unfold Reducer.delta
 cases hactive:r.active with
 | none=>
  have hclosing:r.closing=[]:=by
   unfold Reducer.closing
   rw [hactive]
  rw [hclosing] at hopened
  exact hopened
 | some active=>
  obtain ⟨active,index⟩:=active
  dsimp only
  split_ifs with hkind
  · exact Moves.one hgoing (Move.delta kind index text (hkind ▸ hactive))
  · exact hopened

theorem hosted_moves (hgoing:r.completed=false) (id name query:String) :
 Moves env may (coreOf r) (r.hosted id name query).1 (coreOf (r.hosted id name query).2) :=
 closing_moves hgoing (Moves.one hgoing (Move.search ("srvtoolu_" ++ id) name query rfl))

variable {value item:JsonValue} {out:List ReducerEvent} {r':Reducer}

theorem customToolDelta_moves (h:r.customToolDelta value=.ok (out,r')) : Moves env may (coreOf r) out (coreOf r'):=by
 unfold Reducer.customToolDelta at h
 cases hid:stringField "item_id" value with
 | none=>
  rw [hid] at h
  exact (nomatch h)
 | some id=>
  rw [hid] at h
  dsimp only at h
  cases hsent:stringField "delta" value with
  | none=>
   rw [hsent] at h
   exact (nomatch h)
  | some delta=>
   rw [hsent] at h
   dsimp only at h
   cases hkept:r.hostedCalls.lookup id with
   | none=>
    rw [hkept] at h
    exact (nomatch h)
   | some kept=>
    rw [hkept] at h
    dsimp only at h
    by_cases hlong:maxToolArgumentBytes<kept.2.utf8ByteSize+delta.utf8ByteSize
    · rw [if_pos hlong] at h
      exact (nomatch h)
    · rw [if_neg hlong] at h
      obtain ⟨rfl,rfl⟩:=Prod.mk.inj (Except.ok.inj h)
      exact Moves.refl _

theorem annotation_moves (hgoing:r.completed=false)
 (h:r.annotationAdded value=.ok (out,r')) : Moves env may (coreOf r) out (coreOf r'):=by
 unfold Reducer.annotationAdded at h
 cases hactive:r.active with
 | none=>
  rw [hactive] at h
  obtain ⟨rfl,rfl⟩:=Prod.mk.inj (Except.ok.inj h)
  exact Moves.refl _
 | some active=>
  obtain ⟨kind,index⟩:=active
  rw [hactive] at h
  cases hcited:value.get "annotation" with
  | none=>
   rw [hcited] at h
   obtain ⟨rfl,rfl⟩:=Prod.mk.inj (Except.ok.inj h)
   exact Moves.refl _
  | some annotation=>
   rw [hcited] at h
   dsimp only at h
   by_cases hcite:kind=.text ∧ stringField "type" annotation=some "url_citation"
   · rw [if_pos hcite] at h
     obtain ⟨rfl,rfl⟩:=Prod.mk.inj (Except.ok.inj h)
     exact Moves.one hgoing (Move.cite index annotation (hcite.1 ▸ hactive))
   · rw [if_neg hcite] at h
     obtain ⟨rfl,rfl⟩:=Prod.mk.inj (Except.ok.inj h)
     exact Moves.refl _

theorem compactionAdded_moves (hgoing:r.completed=false) :
 Moves env may (coreOf r) (r.compactionAdded item).1 (coreOf (r.compactionAdded item).2):=by
 unfold Reducer.compactionAdded
 refine closing_moves hgoing ?_
 cases nonempty (stringField "content" item) with
 | none=>exact opened_moves hgoing rfl .compaction []
 | some content=>exact opened_moves hgoing rfl .compaction [content]

theorem customToolAdded_moves (h:r.customToolAdded item=.ok (out,r')) : Moves env may (coreOf r) out (coreOf r'):=by
 unfold Reducer.customToolAdded at h
 cases hid:nonempty (stringField "id" item) with
 | none=>
  rw [hid] at h
  exact (nomatch h)
 | some id=>
  rw [hid] at h
  obtain ⟨rfl,rfl⟩:=Prod.mk.inj (Except.ok.inj h)
  exact Moves.refl _

theorem functionCallAdded_moves (hgoing:r.completed=false)
 (h:r.functionCallAdded item=.ok (out,r')) : Moves env may (coreOf r) out (coreOf r'):=by
 unfold Reducer.functionCallAdded at h
 cases hid:nonempty (stringField "call_id" item) with
 | none=>
  rw [hid] at h
  exact (nomatch h)
 | some id=>
  rw [hid] at h
  dsimp only at h
  cases hname:nonempty (stringField "name" item) with
  | none=>
   rw [hname] at h
   exact (nomatch h)
  | some name=>
   rw [hname] at h
   dsimp only at h
   cases hnew:r.calls.lookup id with
   | some call=>
    rw [hnew,if_pos Option.isSome_some] at h
    exact (nomatch h)
   | none=>
    rw [hnew,if_neg (nofun:¬ (none:Option (ℕ×String)).isSome=true)] at h
    by_cases hmany:maxIncompleteToolCalls ≤ r.calls.keys.length
    · rw [if_pos hmany] at h
      exact (nomatch h)
    · rw [if_neg hmany] at h
      obtain ⟨rfl,rfl⟩:=Prod.mk.inj (Except.ok.inj h)
      exact closing_moves hgoing (Moves.one hgoing (Move.call id name rfl hnew))

theorem itemAdded_moves (hgoing:r.completed=false) (h:r.itemAdded value=.ok (out,r')) :
 Moves env may (coreOf r) out (coreOf r'):=by
 unfold Reducer.itemAdded at h
 cases hitem:(value.get "item").filter fun item=>item.asObject.isSome with
 | none=>
  rw [hitem] at h
  exact (nomatch h)
 | some item=>
  rw [hitem] at h
  dsimp only at h
  split at h
  · obtain ⟨rfl,rfl⟩:=Prod.mk.inj (Except.ok.inj h)
    exact compactionAdded_moves hgoing
  · exact customToolAdded_moves h
  · exact functionCallAdded_moves hgoing h
  · obtain ⟨rfl,rfl⟩:=Prod.mk.inj (Except.ok.inj h)
    exact Moves.refl _

theorem argumentsDelta_cases (h:r.argumentsDelta value=.ok (out,r')) :
 ∃ id index name args delta,r.callId value=some id ∧
  r.calls.lookup id=some (index,name) ∧ r.toolArgs.lookup id=some args ∧
   stringField "delta" value=some delta ∧ out=[.toolDelta index delta] ∧
    coreOf r'={ coreOf r with toolArgs := r.toolArgs.insert id (args++delta) }:=by
 unfold Reducer.argumentsDelta at h
 cases hid:r.callId value with
 | none=>
  rw [hid] at h
  exact (nomatch h)
 | some id=>
  rw [hid] at h
  dsimp only at h
  cases hsent:stringField "delta" value with
  | none=>
   rw [hsent] at h
   exact (nomatch h)
  | some delta=>
   rw [hsent] at h
   dsimp only at h
   cases hcall:r.calls.lookup id with
   | none=>
    rw [hcall] at h
    exact (nomatch h)
   | some call=>
    obtain ⟨index,name⟩:=call
    cases hargs:r.toolArgs.lookup id with
    | none=>
     rw [hcall,hargs] at h
     exact (nomatch h)
    | some args=>
     rw [hcall,hargs] at h
     dsimp only at h
     by_cases hlong:maxToolArgumentBytes<args.utf8ByteSize+delta.utf8ByteSize
     · rw [if_pos hlong] at h
       exact (nomatch h)
     · rw [if_neg hlong] at h
       obtain ⟨rfl,rfl⟩:=Prod.mk.inj (Except.ok.inj h)
       exact ⟨id,index,name,args,delta,rfl,hcall,hargs,rfl,rfl,rfl⟩

theorem argumentsDelta_moves (hgoing:r.completed=false)
 (h:r.argumentsDelta value=.ok (out,r')) : Moves env true (coreOf r) out (coreOf r'):=by
 obtain ⟨id,index,name,args,delta,-,hcall,hargs,-,rfl,hcore⟩:=argumentsDelta_cases h
 rw [hcore]
 exact Moves.one hgoing (Move.argue rfl id index name args delta hcall hargs)

theorem argumentsDone_cases (h:r.argumentsDone value=.ok (out,r')) :
 ∃ id index name accumulated,r.callId value=some id ∧
  r.calls.lookup id=some (index,name) ∧ r.toolArgs.lookup id=some accumulated ∧
   (out=[] ∧ coreOf r'=coreOf r ∧ (∀ args,stringField "arguments" value=some args → args=accumulated) ∨
    ∃ args,stringField "arguments" value=some args ∧ accumulated = "" ∧
     out=[.toolDelta index args] ∧ coreOf r' =
      { coreOf r with toolArgs := r.toolArgs.insert id (accumulated++args) }):=by
 unfold Reducer.argumentsDone at h
 cases hid:r.callId value with
 | none=>
  rw [hid] at h
  exact (nomatch h)
 | some id=>
  rw [hid] at h
  dsimp only at h
  cases hargs:r.toolArgs.lookup id with
  | none=>
   rw [hargs] at h
   exact (nomatch h)
  | some accumulated=>
   cases hcall:r.calls.lookup id with
   | none=>
    rw [hargs,hcall] at h
    exact (nomatch h)
   | some call=>
    obtain ⟨index,name⟩:=call
    rw [hargs,hcall] at h
    dsimp only at h
    refine ⟨id,index,name,accumulated,rfl,hcall,hargs,?_⟩
    cases hsent:stringField "arguments" value with
    | none=>
     rw [hsent] at h
     obtain ⟨rfl,rfl⟩:=Prod.mk.inj (Except.ok.inj h)
     exact Or.inl ⟨rfl,rfl,nofun⟩
    | some args=>
     rw [hsent] at h
     dsimp only at h
     by_cases hfirst:(accumulated.isEmpty&&!args.isEmpty)=true
     · rw [if_pos hfirst] at h
       obtain ⟨rfl,rfl⟩:=Prod.mk.inj (Except.ok.inj h)
       exact Or.inr ⟨args,rfl,String.isEmpty_iff.mp (Bool.and_eq_true_iff.mp hfirst).1,rfl,rfl⟩
     · rw [if_neg hfirst] at h
       by_cases hsame:args=accumulated
       · rw [if_neg (not_not.mpr hsame)] at h
         obtain ⟨rfl,rfl⟩:=Prod.mk.inj (Except.ok.inj h)
         exact Or.inl ⟨rfl,rfl,fun other hother=>(Option.some.inj hother).symm.trans hsame⟩
       · rw [if_pos hsame] at h
         exact (nomatch h)

theorem argumentsDone_moves (hgoing:r.completed=false)
 (h:r.argumentsDone value=.ok (out,r')) : Moves env true (coreOf r) out (coreOf r'):=by
 obtain ⟨id,index,name,accumulated,-,hcall,hargs,hquiet | hbrought⟩:=argumentsDone_cases h
 · obtain ⟨rfl,hcore,-⟩:=hquiet
   rw [hcore]
   exact Moves.refl _
 · obtain ⟨args,-,-,rfl,hcore⟩:=hbrought
   rw [hcore]
   exact Moves.one hgoing (Move.argue rfl id index name accumulated args hcall hargs)

theorem webSearchDone_moves (hgoing:r.completed=false)
 (h:r.webSearchDone item=.ok (out,r')) : Moves env may (coreOf r) out (coreOf r'):=by
 unfold Reducer.webSearchDone at h
 cases hid:nonempty (stringField "id" item) with
 | none=>
  rw [hid] at h
  exact (nomatch h)
 | some id=>
  rw [hid] at h
  obtain ⟨rfl,rfl⟩:=Prod.mk.inj (Except.ok.inj h)
  exact hosted_moves (r := { r with webSearchRequests := r.webSearchRequests+1 }) hgoing id
   "web_search" _

theorem customToolDone_moves (hgoing:r.completed=false)
 (h:r.customToolDone env item=.ok (out,r')) : Moves env may (coreOf r) out (coreOf r'):=by
 unfold Reducer.customToolDone at h
 cases hid:nonempty (stringField "id" item) with
 | none=>
  rw [hid] at h
  exact (nomatch h)
 | some id=>
  rw [hid] at h
  dsimp only at h
  generalize (r.hostedCalls.lookup id).getD ((stringField "name" item).getD "x_search","")=kept at h
  by_cases hname:kept.1 ≠ "x_search"
  · rw [if_pos hname] at h
    obtain ⟨rfl,rfl⟩:=Prod.mk.inj (Except.ok.inj h)
    exact Moves.refl _
  · rw [if_neg hname] at h
    obtain ⟨rfl,rfl⟩:=Prod.mk.inj (Except.ok.inj h)
    exact hosted_moves (r := { r with
     hostedCalls := r.hostedCalls.erase id
     xSearchRequests := r.xSearchRequests+1 }) hgoing id kept.1 _

theorem functionCallDone_moves (hgoing:r.completed=false)
 (h:r.functionCallDone env item=.ok (out,r')) : Moves env may (coreOf r) out (coreOf r'):=by
 unfold Reducer.functionCallDone at h
 cases hid:stringField "call_id" item with
 | none=>
  rw [hid] at h
  exact (nomatch h)
 | some id=>
  rw [hid] at h
  dsimp only at h
  cases hcall:r.calls.lookup id with
  | none=>
   rw [hcall] at h
   exact (nomatch h)
  | some call=>
   obtain ⟨index,name⟩:=call
   rw [hcall] at h
   dsimp only at h
   by_cases hvalid:(env.readValue ((r.toolArgs.lookup id).getD "")).isSome=true
   · rw [if_pos hvalid] at h
     obtain ⟨rfl,rfl⟩:=Prod.mk.inj (Except.ok.inj h)
     exact Moves.one hgoing (Move.stop id index name hcall hvalid)
   · rw [if_neg hvalid] at h
     exact (nomatch h)

theorem itemDone_moves (hgoing:r.completed=false)
 (h:r.itemDone env value=.ok (out,r')) : Moves env may (coreOf r) out (coreOf r'):=by
 unfold Reducer.itemDone at h
 cases hitem:(value.get "item").filter fun item=>item.asObject.isSome with
 | none=>
  rw [hitem] at h
  exact (nomatch h)
 | some item=>
  rw [hitem] at h
  dsimp only at h
  split at h
  · obtain ⟨rfl,rfl⟩:=Prod.mk.inj (Except.ok.inj h)
    exact closeKind_moves hgoing .compaction
  · exact webSearchDone_moves hgoing h
  · exact customToolDone_moves hgoing h
  · exact functionCallDone_moves hgoing h
  · obtain ⟨rfl,rfl⟩:=Prod.mk.inj (Except.ok.inj h)
    exact Moves.refl _

theorem complete_moves (hgoing:r.completed=false) (h:r.complete value=.ok (out,r')) :
 Moves env may (coreOf r) out (coreOf r'):=by
 unfold Reducer.complete at h
 by_cases hcalls:r.calls.keys≠[]
 · rw [if_pos hcalls] at h
   exact (nomatch h)
 · rw [if_neg hcalls] at h
   obtain ⟨rfl,rfl⟩:=Prod.mk.inj (Except.ok.inj h)
   refine closing_moves hgoing (Moves.one hgoing (Move.finish _ _ _ _ _ rfl fun id=>?_))
   refine AList.lookup_eq_none.mpr fun hmem=>?_
   have hkey:id∈r.calls.keys:=AList.mem_keys.mp hmem
   rw [not_not.mp hcalls] at hkey
   exact (nomatch hkey)

def argues : EventType → Bool
 | .argumentsDelta=>true
 | .argumentsDone=>true
 | _=>false

theorem pushTyped_moves (hgoing:r.completed=false) (type:EventType) :
 r.pushTyped env value type=.ok (out,r') → Moves env (argues type) (coreOf r) out (coreOf r'):=by
 have hdelta:∀ may kind text message,r.pushDelta kind text message=.ok (out,r') →
  Moves env may (coreOf r) out (coreOf r'):=by
  intro may kind text message h
  cases text with
  | none=>exact (nomatch h)
  | some text=>
   have hmoves:=@delta_moves env may r hgoing kind text
   rw [Except.ok.inj h] at hmoves
   exact hmoves
 have hclose:∀ may kind,(Except.ok (r.closeKind kind) : Pushed)=.ok (out,r') →
  Moves env may (coreOf r) out (coreOf r'):=by
  intro may kind h
  have hmoves:=@closeKind_moves env may r hgoing kind
  rw [Except.ok.inj h] at hmoves
  exact hmoves
 cases type with
 | reasoningDelta=>exact fun h=>hdelta _ _ _ _ h
 | compactionDelta=>exact fun h=>hdelta _ _ _ _ h
 | compactionDone=>exact fun h=>hclose _ _ h
 | customToolDelta=>exact fun h=>customToolDelta_moves h
 | annotationAdded=>exact fun h=>annotation_moves hgoing h
 | textDelta=>exact fun h=>hdelta _ _ _ _ h
 | itemAdded=>exact fun h=>itemAdded_moves hgoing h
 | argumentsDelta=>exact fun h=>argumentsDelta_moves hgoing h
 | argumentsDone=>exact fun h=>argumentsDone_moves hgoing h
 | textDone=>exact fun h=>hclose _ _ h
 | reasoningDone=>exact fun h=>hclose _ _ h
 | itemDone=>exact fun h=>itemDone_moves hgoing h
 | completed=>exact fun h=>complete_moves hgoing h
 | failed=>exact nofun
 | quiet=>
  intro h
  obtain ⟨rfl,rfl⟩:=Prod.mk.inj (Except.ok.inj h)
  exact Moves.refl _

theorem push_moves (h:r.push env value=.ok (out,r')) :
 r.completed=false ∧ ∃ typ,stringField "type" value=some typ ∧
  r.pushTyped env value (eventType typ)=.ok (out,r') ∧
   Moves env (argues (eventType typ)) (coreOf r) out (coreOf r'):=by
 unfold Reducer.push at h
 cases hgoing:r.completed with
 | true=>
  rw [hgoing,if_pos rfl] at h
  exact (nomatch h)
 | false=>
  rw [hgoing,if_neg Bool.false_ne_true] at h
  cases htype:stringField "type" value with
  | none=>
   rw [htype] at h
   exact (nomatch h)
  | some typ=>
   rw [htype] at h
   exact ⟨rfl,typ,rfl,h,pushTyped_moves hgoing (eventType typ) h⟩

end moves

end CursorProxy.GrokMoves
