import CursorProxy.ModelRoutes
import CursorProxy.Traces

/-! Threads of one process edit the config document. The lock covers the reading and the
replacement of the document, but not the policy that a removal reads. -/
namespace CursorProxy.ConfigTransactions
open JsonValues ModelRoutes Traces

/-- A deleted account, and whether a selector matches another one. -/
structure Removal where
 id : String
 label : Option String
 email : Option String
 selectorMatchesRemaining : String → Bool

def Removal.filtered (removal:Removal) (routes:List CursorModelAccountRule) : List CursorModelAccountRule :=
 routes.filter fun rule=>
  !accountSelectorMatches rule.account removal.id removal.label removal.email ||
   removal.selectorMatchesRemaining rule.account

inductive Operation where
 | persistCursorSandPolicy (patterns:List String)
 | persistCursorAccountRoutes (routes:List CursorModelAccountRule)
 | removeCursorModelAccountRoutes (removal:Removal)

/-- The member of `cursor` that an operation owns. -/
def Operation.owned : Operation → String
 | .persistCursorSandPolicy _ => "sandModels"
 | .persistCursorAccountRoutes _ => "modelAccounts"
 | .removeCursorModelAccountRoutes _ => "modelAccounts"

inductive Edit where
 | sandModels (patterns:List String)
 | modelAccounts (routes:List CursorModelAccountRule)

def Edit.write (document:Document) : Edit → Except ConfigError JsonValue
 | .sandModels patterns=>withSandModels patterns document
 | .modelAccounts routes=>withRoutes routes document

inductive Phase where
 | idle
 /-- A removal that has not read the policy. -/
 | reading (removal:Removal)
 | waiting (operation:Operation) (edit:Edit)
 | locked (operation:Operation) (edit:Edit)
 | writing (operation:Operation) (edit:Edit) (root:JsonValue)

structure State where
 document : Document
 holder : Option ℕ
 phase : ℕ → Phase
 /-- What returned, and its error. -/
 finished : List (Operation×Option ConfigError)

namespace State

def start (document:Document) : State := ⟨document,none,fun _=>.idle,[]⟩

def move (s:State) (thread:ℕ) (phase:Phase) : State :=
 { s with phase := Function.update s.phase thread phase }

def finish (s:State) (thread:ℕ) (operation:Operation) (error:Option ConfigError) : State :=
 { s.move thread .idle with finished := s.finished++[(operation,error)] }

/-- The lock is released when the operation returns. -/
def unlock (s:State) : State := { s with holder := none }

end State

def begin : Operation → Phase
 | .persistCursorSandPolicy patterns=>.waiting (.persistCursorSandPolicy patterns) (.sandModels patterns)
 | .persistCursorAccountRoutes routes=>
  .waiting (.persistCursorAccountRoutes routes) (.modelAccounts routes)
 | .removeCursorModelAccountRoutes removal=>.reading removal

def afterPolicy (environment:Option (List CursorModelAccountRule)) (s:State) (thread:ℕ) (removal:Removal) : State :=
 let policy:=routingPolicy environment s.document
 if environment.isSome ∨ (removal.filtered policy).length=policy.length then
  s.finish thread (.removeCursorModelAccountRoutes removal) none
 else s.move thread (.waiting (.removeCursorModelAccountRoutes removal)
  (.modelAccounts (newPolicy (removal.filtered policy))))

def afterDocument (s:State) (thread:ℕ) (operation:Operation) (edit:Edit) : State :=
 match edit.write s.document with
 | .error error=>s.unlock.finish thread operation (some error)
 | .ok root=>s.move thread (.writing operation edit root)

inductive Event where
 | start (thread:ℕ) (operation:Operation)
 | readPolicy (thread:ℕ)
 | acquire (thread:ℕ)
 | readDocument (thread:ℕ)
 | replace (thread:ℕ)
 | fail (thread:ℕ)

inductive Step (environment:Option (List CursorModelAccountRule)) : State → Event → State → Prop
 | start {s:State} {thread:ℕ} (operation:Operation) (hphase:s.phase thread=.idle) :
   Step environment s (.start thread operation) (s.move thread (begin operation))
 | readPolicy {s:State} {thread:ℕ} {removal:Removal}
   (hphase:s.phase thread=.reading removal) :
   Step environment s (.readPolicy thread) (afterPolicy environment s thread removal)
 | acquire {s:State} {thread:ℕ} {operation:Operation} {edit:Edit}
   (hphase:s.phase thread=.waiting operation edit) (hfree:s.holder=none) :
   Step environment s (.acquire thread)
    ({ s with holder := some thread }.move thread (.locked operation edit))
 | readDocument {s:State} {thread:ℕ} {operation:Operation} {edit:Edit}
   (hphase:s.phase thread=.locked operation edit) :
   Step environment s (.readDocument thread) (afterDocument s thread operation edit)
 | replace {s:State} {thread:ℕ} {operation:Operation} {edit:Edit} {root:JsonValue}
   (hphase:s.phase thread=.writing operation edit root) :
   Step environment s (.replace thread)
    ({ s with document := .file (some root) }.unlock.finish thread operation none)
 /-- The document cannot be read, or not be written. -/
 | fail {s:State} {thread:ℕ} {operation:Operation} {edit:Edit}
   (hphase:s.phase thread=.locked operation edit ∨
    ∃ root,s.phase thread=.writing operation edit root) :
   Step environment s (.fail thread) (s.unlock.finish thread operation (some .failed))

abbrev Run (environment:Option (List CursorModelAccountRule)) : State → List Event → State → Prop :=
 Trace (Step environment)

def written (document:Document) : Except ConfigError JsonValue → Document
 | .ok root=>.file (some root)
 | .error _=>document

def Operation.apply (environment:Option (List CursorModelAccountRule)) (document:Document) : Operation → Document
 | .persistCursorSandPolicy patterns=>written document (withSandModels patterns document)
 | .persistCursorAccountRoutes routes=>written document (withRoutes routes document)
 | .removeCursorModelAccountRoutes removal=>
  let policy:=routingPolicy environment document
  if environment.isSome ∨ (removal.filtered policy).length=policy.length then document
  else written document (withRoutes (newPolicy (removal.filtered policy)) document)

def succeeded (finished:List (Operation×Option ConfigError)) : List Operation :=
 finished.filterMap fun (operation,error)=>if error.isNone then some operation else none

def rootMember (document:Document) (key:String) : Option JsonValue :=
 match document with
 | .file (some root)=>root.get key
 | _=>none

def cursorMember (document:Document) (key:String) : Option JsonValue :=
 member key (rootMember document "cursor")

structure Transactional (environment:Option (List CursorModelAccountRule)) (initial:Document)
  (s:State) : Prop where
 serial : ∃ order:List Operation,order.Perm (succeeded s.finished) ∧
  s.document=order.foldl (Operation.apply environment) initial
 root : ∀ key,key ≠ "cursor" → rootMember s.document key=rootMember initial key
 cursor : ∀ key,(∀ operation∈succeeded s.finished,operation.owned≠key) →
  cursorMember s.document key=cursorMember initial key
 /-- Only an operation that returns without an error changes the document. -/
 errors : ∀ event s',Step environment s event s' → s'.document=s.document ∨
  ∃ operation,s'.finished=s.finished++[(operation,none)]

/-- A removal that replaces the document finds rules to remove in it, and leaves what it
computed from the policy that it read. -/
def Settled (s:State) : Event → Prop
 | .replace thread=>∀ removal routes root,s.phase thread =
   .writing (.removeCursorModelAccountRoutes removal) (.modelAccounts routes) root →
    let policy:=routingPolicy none s.document
    (removal.filtered policy).length≠policy.length ∧ newPolicy (removal.filtered policy)=routes
 | _=>True

variable {key:String} {value root:JsonValue} {document:Document}

theorem setCursorMember_shape (h:setCursorMember key value document=.ok root)
  : ∃ members cursor,(∀ other,rootMember document other=(JsonValue.object members).get other) ∧
   ((JsonValue.object members).get "cursor").getD (JsonValue.object [])=.object cursor ∧
   root=.object (insertMember "cursor" (.object (insertMember key value cursor)) members):=by
 have hset:∀ members,setCursorMember key value (.file (some (.object members)))=.ok root →
   ∃ cursor,((JsonValue.object members).get "cursor").getD (JsonValue.object [])=.object cursor ∧
    root=.object (insertMember "cursor" (.object (insertMember key value cursor)) members):=by
  intro members h
  unfold setCursorMember at h
  dsimp only at h
  split at h
  · rename_i cursor hcursor
    exact ⟨cursor,hcursor,(Except.ok.inj h).symm⟩
  · cases h
 cases document with
 | missing=>
  obtain ⟨cursor,hcursor,hroot⟩:=hset [] h
  exact ⟨[],cursor,fun _=>rfl,hcursor,hroot⟩
 | file file=>
  cases file with
  | none=>cases h
  | some value=>
   cases value with
   | object members=>
    obtain ⟨cursor,hcursor,hroot⟩:=hset members h
    exact ⟨members,cursor,fun _=>rfl,hcursor,hroot⟩
   | _=>cases h

theorem setCursorMember_others (h:setCursorMember key value document=.ok root) :
  (∀ other,other ≠ "cursor" → rootMember (.file (some root)) other=rootMember document other) ∧
  cursorMember (.file (some root)) key=some value ∧
  ∀ other,other≠key → cursorMember (.file (some root)) other=cursorMember document other:=by
 obtain ⟨members,cursor,hmembers,hcursor,rfl⟩:=setCursorMember_shape h
 have hset:∀ other,cursorMember (.file (some (.object
   (insertMember "cursor" (.object (insertMember key value cursor)) members)))) other =
    if other=key then some value else (JsonValue.object cursor).get other:=by
  intro other
  change member other ((JsonValue.object (insertMember "cursor" _ members)).get "cursor")=_
  rw [get_insertMember,if_pos rfl]
  exact get_insertMember key other value cursor
 refine ⟨fun other hother=>?_,(hset key).trans (if_pos rfl),fun other hother=>?_⟩
 · rw [hmembers other]
   exact (get_insertMember "cursor" other _ members).trans (if_neg hother)
 · rw [hset,if_neg hother]
   unfold cursorMember
   rw [hmembers]
   cases hget:(JsonValue.object members).get "cursor" with
   | none=>
    rw [hget] at hcursor
    obtain rfl:=JsonValue.object.inj hcursor
    rfl
   | some value=>
    rw [hget] at hcursor
    obtain rfl : value=.object cursor:=hcursor
    rfl

theorem setCursorMember_again {other:String} {value':JsonValue} (h:setCursorMember key value document=.ok root) :
  ∃ root',setCursorMember other value' (.file (some root))=.ok root':=by
 obtain ⟨members,cursor,-,-,rfl⟩:=setCursorMember_shape h
 have hcursor:=get_insertMember "cursor" "cursor" (.object (insertMember key value cursor)) members
 rw [if_pos rfl] at hcursor
 unfold setCursorMember
 dsimp only
 rw [hcursor]
 exact ⟨_,rfl⟩

section runs
variable {environment:Option (List CursorModelAccountRule)} {initial:Document} {s s':State}

/-- What a thread writes is what its operation is to write. -/
def Means (environment:Option (List CursorModelAccountRule)) : Operation → Edit → Prop
 | .persistCursorSandPolicy patterns,edit=>edit=.sandModels patterns
 | .persistCursorAccountRoutes routes,edit=>edit=.modelAccounts routes
 | .removeCursorModelAccountRoutes _,edit=>
  environment=none ∧ ∃ routes,edit=.modelAccounts routes

def Held (environment:Option (List CursorModelAccountRule)) (s:State) (thread:ℕ) : Phase → Prop
 | .idle=>True
 | .reading _=>True
 | .waiting operation edit=>Means environment operation edit
 | .locked operation edit=>Means environment operation edit ∧ s.holder=some thread
 | .writing operation edit root=>Means environment operation edit ∧
  s.holder=some thread ∧ edit.write s.document=.ok root

structure Orderly (environment:Option (List CursorModelAccountRule)) (initial:Document)
  (s:State) : Prop where
 document : s.document = (succeeded s.finished).foldl (Operation.apply environment) initial
 held : ∀ thread,Held environment s thread (s.phase thread)

theorem succeeded_done (finished:List (Operation×Option ConfigError)) (operation:Operation) :
  succeeded (finished++[(operation,none)])=succeeded finished++[operation] :=
 List.filterMap_append

theorem succeeded_failed (finished:List (Operation×Option ConfigError)) (operation:Operation) (error:ConfigError) :
  succeeded (finished++[(operation,some error)])=succeeded finished :=
 List.filterMap_append.trans (List.append_nil _)

theorem Held.other {thread other:ℕ} {phase:Phase} (h:Held environment s other phase)
  (hholder:s.holder=some thread ∨ s'.holder=s.holder ∧ s'.document=s.document ∨
   s.holder=none) (hne:other≠thread) : Held environment s' other phase:=by
 cases phase with
 | idle=>trivial
 | reading removal=>trivial
 | waiting operation edit=>exact h
 | locked operation edit=>
  rcases hholder with hholder | ⟨hholder,-⟩ | hholder
  · exact absurd (Option.some.inj (h.2.symm.trans hholder)) hne
  · exact ⟨h.1,hholder.trans h.2⟩
  · exact (nomatch hholder.symm.trans h.2)
 | writing operation edit root=>
  rcases hholder with hholder | ⟨hholder,hdocument⟩ | hholder
  · exact absurd (Option.some.inj (h.2.1.symm.trans hholder)) hne
  · exact ⟨h.1,hholder.trans h.2.1,hdocument ▸ h.2.2⟩
  · exact (nomatch hholder.symm.trans h.2.1)

theorem Orderly.moved {thread:ℕ} {phase:Phase} (h:Orderly environment initial s)
  (hdocument:s'.document = (succeeded s'.finished).foldl (Operation.apply environment) initial)
  (hphase:s'.phase=Function.update s.phase thread phase)
  (hholder:s.holder=some thread ∨ s'.holder=s.holder ∧ s'.document=s.document ∨ s.holder=none)
  (hheld:Held environment s' thread phase) : Orderly environment initial s':=by
 refine ⟨hdocument,fun other=>?_⟩
 rw [hphase]
 by_cases hother:other=thread
 · subst hother
   rw [Function.update_self]
   exact hheld
 · rw [Function.update_of_ne hother]
   exact (h.held other).other hholder hother

theorem apply_of_write {operation:Operation} {edit:Edit} {root:JsonValue}
  {document:Document} (hmeans:Means environment operation edit) (hwrite:edit.write document=.ok root)
  (hsettled:∀ removal routes,operation=.removeCursorModelAccountRoutes removal →
   edit=.modelAccounts routes → let policy:=routingPolicy none document
    (removal.filtered policy).length≠policy.length ∧
     newPolicy (removal.filtered policy)=routes) :
  operation.apply environment document=.file (some root):=by
 cases operation with
 | persistCursorSandPolicy patterns=>
  obtain rfl : edit=.sandModels patterns:=hmeans
  exact congrArg (written document) hwrite
 | persistCursorAccountRoutes routes=>
  obtain rfl : edit=.modelAccounts routes:=hmeans
  exact congrArg (written document) hwrite
 | removeCursorModelAccountRoutes removal=>
  obtain ⟨rfl,routes,rfl⟩:=hmeans
  obtain ⟨hlength,hroutes⟩:=hsettled removal routes rfl rfl
  have hchanges:¬ ((none:Option (List CursorModelAccountRule)).isSome ∨
    (removal.filtered (routingPolicy none document)).length = (routingPolicy none document).length) :=
   fun h=>h.elim (fun hsome=>nomatch hsome) hlength
  refine (if_neg hchanges).trans ?_
  rw [hroutes]
  exact congrArg (written document) hwrite

theorem Orderly.step {event:Event} (h:Orderly environment initial s)
  (hstep:Step environment s event s') (hsettled:Settled s event) : Orderly environment initial s':=by
 cases hstep with
 | @start thread operation hphase=>
  refine h.moved h.document rfl (Or.inr (Or.inl ⟨rfl,rfl⟩)) ?_
  cases operation with
  | persistCursorSandPolicy patterns=>exact rfl
  | persistCursorAccountRoutes routes=>exact rfl
  | removeCursorModelAccountRoutes removal=>trivial
 | @readPolicy thread removal hphase=>
  unfold afterPolicy
  dsimp only
  split_ifs with hsame
  · refine h.moved ?_ rfl (Or.inr (Or.inl ⟨rfl,rfl⟩)) trivial
    -- Nothing is removed from the document that is there.
    change s.document=(succeeded (s.finished ++ [(.removeCursorModelAccountRoutes removal,none)])).foldl _ initial
    rw [succeeded_done,List.foldl_append,← h.document]
    exact (if_pos hsame).symm
  · refine h.moved h.document rfl (Or.inr (Or.inl ⟨rfl,rfl⟩)) ?_
    rw [not_or] at hsame
    exact ⟨Option.not_isSome_iff_eq_none.mp hsame.1,_,rfl⟩
 | @acquire thread operation edit hphase hfree=>
  have hmeans:=h.held thread
  rw [hphase] at hmeans
  exact h.moved h.document rfl (Or.inr (Or.inr hfree)) ⟨hmeans,rfl⟩
 | @readDocument thread operation edit hphase=>
  have hheld:=h.held thread
  rw [hphase] at hheld
  unfold afterDocument
  cases hwrite:edit.write s.document with
  | error error=>
   refine h.moved ?_ rfl (Or.inl hheld.2) trivial
   change s.document=(succeeded (s.finished++[(operation,some error)])).foldl _ initial
   rw [succeeded_failed]
   exact h.document
  | ok root=>exact h.moved h.document rfl (Or.inl hheld.2) ⟨hheld.1,hheld.2,hwrite⟩
 | @replace thread operation edit root hphase=>
  have hheld:=h.held thread
  rw [hphase] at hheld
  refine h.moved ?_ rfl (Or.inl hheld.2.1) trivial
  change Document.file (some root)=(succeeded (s.finished++[(operation,none)])).foldl _ initial
  rw [succeeded_done,List.foldl_append,← h.document]
  refine (apply_of_write hheld.1 hheld.2.2 ?_).symm
  rintro removal routes rfl rfl
  exact hsettled removal routes root hphase
 | @fail thread operation edit hphase=>
  have hholder:s.holder=some thread:=by
   have hheld:=h.held thread
   rcases hphase with hphase | ⟨root,hphase⟩
   · rw [hphase] at hheld
     exact hheld.2
   · rw [hphase] at hheld
     exact hheld.2.1
  refine h.moved ?_ rfl (Or.inl hholder) trivial
  change s.document=(succeeded (s.finished++[(operation,some .failed)])).foldl _ initial
  rw [succeeded_failed]
  exact h.document

theorem apply_others (operation:Operation) (document:Document) :
  (∀ key,key ≠ "cursor" → rootMember (operation.apply environment document) key = rootMember document key) ∧
  ∀ key,operation.owned≠key → cursorMember (operation.apply environment document) key =
   cursorMember document key:=by
 have hwritten:∀ key value,
   (∀ other,other ≠ "cursor" →
    rootMember (written document (setCursorMember key value document)) other = rootMember document other) ∧
   ∀ other,key≠other →
    cursorMember (written document (setCursorMember key value document)) other = cursorMember document other:=by
  intro key value
  cases hset:setCursorMember key value document with
  | error error=>exact ⟨fun _ _=>rfl,fun _ _=>rfl⟩
  | ok root=>
   obtain ⟨hroot,-,hcursor⟩:=setCursorMember_others hset
   exact ⟨hroot,fun other hne=>hcursor other (Ne.symm hne)⟩
 cases operation with
 | persistCursorSandPolicy patterns=>exact hwritten "sandModels" _
 | persistCursorAccountRoutes routes=>exact hwritten "modelAccounts" _
 | removeCursorModelAccountRoutes removal=>
  unfold Operation.apply
  dsimp only
  split_ifs
  · exact ⟨fun _ _=>rfl,fun _ _=>rfl⟩
  · exact hwritten "modelAccounts" _

theorem foldl_others (operations:List Operation) : ∀ document:Document,
  (∀ key,key ≠ "cursor" →
   rootMember (operations.foldl (Operation.apply environment) document) key = rootMember document key) ∧
  ∀ key,(∀ operation∈operations,operation.owned≠key) →
   cursorMember (operations.foldl (Operation.apply environment) document) key = cursorMember document key:=by
 induction operations with
 | nil=>exact fun document=>⟨fun _ _=>rfl,fun _ _=>rfl⟩
 | cons operation operations ih=>
  intro document
  obtain ⟨hroot,hcursor⟩:=ih (operation.apply environment document)
  obtain ⟨hroot',hcursor'⟩:=@apply_others environment operation document
  refine ⟨fun key hne=>(hroot key hne).trans (hroot' key hne),fun key howned=>?_⟩
  exact (hcursor key fun other hmem=>howned other (List.mem_cons_of_mem _ hmem)).trans
   (hcursor' key (howned operation List.mem_cons_self))

theorem step_errors {event:Event} (hstep:Step environment s event s') :
  s'.document=s.document ∨ ∃ operation,s'.finished=s.finished++[(operation,none)]:=by
 cases hstep with
 | start operation hphase=>exact Or.inl rfl
 | @readPolicy thread removal hphase=>
  unfold afterPolicy
  dsimp only
  split_ifs <;> exact Or.inl rfl
 | acquire hphase hfree=>exact Or.inl rfl
 | @readDocument thread operation edit hphase=>
  unfold afterDocument
  cases edit.write s.document <;> exact Or.inl rfl
 | @replace thread operation edit root hphase=>exact Or.inr ⟨operation,rfl⟩
 | fail hphase=>exact Or.inl rfl

theorem Orderly.transactional (h:Orderly environment initial s) : Transactional environment initial s:=by
 obtain ⟨hroot,hcursor⟩:=@foldl_others environment (succeeded s.finished) initial
 rw [← h.document] at hroot hcursor
 exact ⟨⟨succeeded s.finished,List.Perm.refl _,h.document⟩,hroot,hcursor,
  fun event s'=>step_errors⟩

end runs

/-- While removals find what they read, config mutations are complete transactions. -/
theorem mutations_are_transactions (environment:Option (List CursorModelAccountRule))
    (initial:Document) (events:List Event) (s:State)
    (h:Trace (fun s event s'=>Step environment s event s' ∧ Settled s event)
      (State.start initial) events s) :
    Transactional environment initial s:=by
  refine (h.invariant (Orderly environment initial) (fun s event s' _ horderly hstep=>
    horderly.step hstep.1 hstep.2) ?_).transactional
  exact ⟨rfl,fun _=>trivial⟩

def storedDocument : Document :=
 .file (some (.object [("cursor",.object [("modelAccounts",.object [("m",.string "x")])])]))

def removal : Removal := ⟨"x",none,none,fun _=>false⟩

def edited : List CursorModelAccountRule := [⟨"m","x"⟩,⟨"n","y"⟩]

theorem selector_matches :
  accountSelectorMatches "x" "x" none none=true ∧ accountSelectorMatches "y" "x" none none=false:=by
 have hx:SseEvents.bytesOf "x".toList=[120]:=by decide
 have hy:SseEvents.bytesOf "y".toList=[121]:=by decide
 have hlow:lowered "x" = "x" ∧ lowered "y" = "y" := by decide
 have hmatch:globMatches "x" "x" = true ∧ globMatches "y" "x" = false:=by
  unfold globMatches
  rw [hx,hy]
  simp [globLoop]
 unfold accountSelectorMatches
 rw [hlow.1,hlow.2]
 simp [hlow.1,hmatch]

theorem removal_filtered : removal.filtered [⟨"m","x"⟩]=[] ∧ removal.filtered edited=[⟨"n","y"⟩]:=by
 unfold Removal.filtered removal edited
 simp [selector_matches]

theorem apply_removal (h:(removal.filtered (routingPolicy none document)).length≠(routingPolicy none document).length) :
  (Operation.removeCursorModelAccountRoutes removal).apply none document =
   written document (withRoutes (newPolicy (removal.filtered (routingPolicy none document))) document) :=
 if_neg fun hsame=>hsame.elim (fun hsome=>nomatch hsome) h

theorem edited_kept (order:List Operation)
  (h:order.Perm [.persistCursorAccountRoutes edited,.removeCursorModelAccountRoutes removal]) :
  (member "n" (cursorMember (order.foldl (Operation.apply none) storedDocument) "modelAccounts")).isSome=true:=by
 have horder:=List.mem_permutations'.mpr h
 have hstored:routingPolicy none storedDocument=[⟨"m","x"⟩]:=by decide
 have hedited:routingPolicy none ((Operation.persistCursorAccountRoutes edited).apply none storedDocument)=edited:=by
  decide
 rcases List.mem_cons.mp horder with rfl | horder
 · rw [List.foldl_cons,List.foldl_cons,List.foldl_nil,apply_removal,hedited,removal_filtered.2]
   · decide
   · rw [hedited,removal_filtered.2]
     decide
 · obtain rfl:=List.mem_singleton.mp horder
   rw [List.foldl_cons,List.foldl_cons,List.foldl_nil,apply_removal,hstored,removal_filtered.1]
   · decide
   · rw [hstored,removal_filtered.1]
     decide

theorem afterPolicy_removal {s:State} (thread:ℕ) (hstored:s.document=storedDocument) :
  afterPolicy none s thread removal=s.move thread
   (.waiting (.removeCursorModelAccountRoutes removal) (.modelAccounts [])):=by
 have hpolicy:routingPolicy none storedDocument=[⟨"m","x"⟩]:=by decide
 unfold afterPolicy
 dsimp only
 rw [hstored,hpolicy,removal_filtered.1]
 exact if_neg fun hsame=>hsame.elim (fun hsome=>nomatch hsome) fun hlength=>nomatch hlength

theorem afterDocument_ok {s:State} {thread:ℕ} {operation:Operation} {edit:Edit} (h:edit.write s.document=.ok root) :
  afterDocument s thread operation edit=s.move thread (.writing operation edit root):=by
 unfold afterDocument
 rw [h]

theorem storedDocument_write (routes:List CursorModelAccountRule) :
  ∃ root,withRoutes routes storedDocument=.ok root := ⟨_,rfl⟩

theorem move_phase (s:State) (thread:ℕ) (phase:Phase) : (s.move thread phase).phase thread=phase:=by
 unfold State.move
 exact Function.update_self ..

theorem run_write {Q:State → Event → Prop} {s:State} {thread:ℕ} {operation:Operation}
  {edit:Edit} {root:JsonValue} (hphase:s.phase thread=.waiting operation edit)
  (hfree:s.holder=none) (hwrite:edit.write s.document=.ok root)
  (hacquire:∀ s,Q s (.acquire thread)) (hread:∀ s,Q s (.readDocument thread))
  (hreplace:∀ s':State,s'.document=s.document →
   s'.phase thread=.writing operation edit root → Q s' (.replace thread)) :
  ∃ s',Trace (fun s event s'=>Step none s event s' ∧ Q s event) s
    [.acquire thread,.readDocument thread,.replace thread] s' ∧
   s'.document=.file (some root) ∧ s'.holder=none ∧
   s'.finished=s.finished++[(operation,none)] ∧
   ∀ other,other≠thread → s'.phase other=s.phase other:=by
 obtain ⟨s₁,hs₁⟩ : ∃ s₁,s₁ = ({ s with holder := some thread } : State).move thread (.locked operation edit) := ⟨_,rfl⟩
 have hlocked:s₁.phase thread=.locked operation edit:=by
  rw [hs₁]
  exact move_phase _ _ _
 have hdocument:s₁.document=s.document:=by
  rw [hs₁]
  rfl
 have hwriting:(s₁.move thread (.writing operation edit root)).phase thread =
  .writing operation edit root := move_phase _ _ _
 have hstep:=@Step.readDocument none _ _ _ _ hlocked
 rw [afterDocument_ok (hdocument ▸ hwrite)] at hstep
 refine ⟨_,.cons ⟨hs₁ ▸ .acquire hphase hfree,hacquire _⟩ (.cons ⟨hstep,hread _⟩
  (.cons ⟨.replace hwriting,hreplace _ hdocument hwriting⟩ (.nil _))),rfl,rfl,?_,?_⟩
 · rw [hs₁]
   rfl
 · intro other hother
   rw [hs₁]
   change Function.update (Function.update (Function.update s.phase thread _) thread _) thread _ other=_
   rw [Function.update_of_ne hother,Function.update_of_ne hother,Function.update_of_ne hother]

theorem run_policy {Q:State → Event → Prop} (hstart:∀ s,Q s (.start 0 (.removeCursorModelAccountRoutes removal)))
  (hread:∀ s,Q s (.readPolicy 0)) :
  Trace (fun s event s'=>Step none s event s' ∧ Q s event) (State.start storedDocument)
   [.start 0 (.removeCursorModelAccountRoutes removal),.readPolicy 0]
   (((State.start storedDocument).move 0 (.reading removal)).move 0
    (.waiting (.removeCursorModelAccountRoutes removal) (.modelAccounts []))):=by
 refine .cons ⟨.start _ rfl,hstart _⟩ (.cons ⟨?_,hread _⟩ (.nil _))
 have hphase:((State.start storedDocument).move 0 (.reading removal)).phase 0 =
  .reading removal := move_phase _ _ _
 have hstep:=@Step.readPolicy none _ 0 removal hphase
 rw [afterPolicy_removal 0 rfl] at hstep
 exact hstep

theorem mutations_are_transactions_removal : ∃ s,
    s.finished=[(.removeCursorModelAccountRoutes removal,none)] ∧ Transactional none storedDocument s:=by
  obtain ⟨root,hroot⟩:=storedDocument_write []
  have hpolicy:routingPolicy none storedDocument=[⟨"m","x"⟩]:=by decide +kernel
  have hread:=@run_policy Settled (fun _=>trivial) fun _=>trivial
  obtain ⟨s,hwrite,-,-,hfinished,-⟩:=@run_write Settled
    (((State.start storedDocument).move 0 (.reading removal)).move 0
      (.waiting (.removeCursorModelAccountRoutes removal) (.modelAccounts []))) 0
    (.removeCursorModelAccountRoutes removal) (.modelAccounts []) root (move_phase _ _ _) rfl
    hroot (fun _=>trivial) (fun _=>trivial) (by
      intro s' hdocument hphase removed routes root' hphase'
      obtain ⟨hremoval,hroutes,-⟩:=Phase.writing.inj (hphase.symm.trans hphase')
      obtain rfl:=Operation.removeCursorModelAccountRoutes.inj hremoval
      obtain rfl:=Edit.modelAccounts.inj hroutes
      rw [hdocument]
      change (removal.filtered (routingPolicy none storedDocument)).length ≠
        (routingPolicy none storedDocument).length ∧ newPolicy (removal.filtered (routingPolicy none storedDocument))=[]
      rw [hpolicy,removal_filtered.1]
      exact ⟨nofun,rfl⟩)
  exact ⟨s,hfinished,mutations_are_transactions none storedDocument _ s (hread.append hwrite)⟩

/-- A route is saved between the removal's reading and its replacement, and is lost. -/
theorem saved_route_is_lost :
    ¬ ∀ (environment:Option (List CursorModelAccountRule)) (initial:Document)
      (events:List Event) (s:State),Run environment (State.start initial) events s →
        Transactional environment initial s:=by
  intro h
  obtain ⟨s₁,hs₁⟩ : ∃ s₁,s₁=((State.start storedDocument).move 0 (.reading removal)).move 0
    (.waiting (.removeCursorModelAccountRoutes removal) (.modelAccounts [])) := ⟨_,rfl⟩
  have hpolicy:=@run_policy (fun _ _=>True) (fun _=>trivial) fun _=>trivial
  rw [← hs₁] at hpolicy
  obtain ⟨s₂,hs₂⟩ : ∃ s₂,s₂=s₁.move 1 (.waiting (.persistCursorAccountRoutes edited) (.modelAccounts edited)) := ⟨_,rfl⟩
  have hstart:Trace (fun s event s'=>Step none s event s' ∧ True) s₁
      [.start 1 (.persistCursorAccountRoutes edited)] s₂:=by
    refine Trace.single ⟨?_,trivial⟩
    rw [hs₂]
    exact .start _ (by rw [hs₁]; rfl)
  obtain ⟨saved,hsaved⟩:=storedDocument_write edited
  obtain ⟨s₃,hsave,hdocument₃,hfree₃,hfinished₃,hphase₃⟩:=@run_write (fun _ _=>True) s₂ 1
    (.persistCursorAccountRoutes edited) (.modelAccounts edited) saved
    (by rw [hs₂]; exact move_phase _ _ _) (by rw [hs₂,hs₁]; rfl)
    (by rw [hs₂,hs₁]; exact hsaved) (fun _=>trivial) (fun _=>trivial) fun _ _ _=>trivial
  obtain ⟨lost,hlost⟩ : ∃ lost,withRoutes [] (.file (some saved))=.ok lost :=
    setCursorMember_again hsaved
  obtain ⟨s,hlose,hdocument,-,hfinished,-⟩:=@run_write (fun _ _=>True) s₃ 0
    (.removeCursorModelAccountRoutes removal) (.modelAccounts []) lost
    (by rw [hphase₃ 0 (by decide),hs₂,hs₁]; rfl) hfree₃ (by rw [hdocument₃]; exact hlost)
    (fun _=>trivial) (fun _=>trivial) fun _ _ _=>trivial
  have hrun:=(((hpolicy.append hstart).append hsave).append hlose).mono fun s event s' hstep=>
    hstep.1
  obtain ⟨order,hperm,hserial⟩:=(h none storedDocument _ s hrun).serial
  have hreturned:succeeded s.finished =
      [.persistCursorAccountRoutes edited,.removeCursorModelAccountRoutes removal]:=by
    rw [hfinished,hfinished₃,hs₂,hs₁]
    rfl
  rw [hreturned] at hperm
  have hkept:=edited_kept order hperm
  rw [← hserial,hdocument,(setCursorMember_others hlost).2.1] at hkept
  exact (nomatch hkept)

end CursorProxy.ConfigTransactions
