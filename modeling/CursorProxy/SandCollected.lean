import CursorProxy.BridgeMessages
import CursorProxy.MessageAcc

/-! The stream of the bridge is read back into one message. A client that reads the stream by
itself keeps each block under its index, with the deltas as they came. -/
namespace CursorProxy.SandCollected
open JsonValues SandModel XmlElements SseFramer SseWellFormed MessageAcc BridgeModel

/-- What the data of an event is; the framer writes every field that is read. -/
inductive Parsed where
 | framed (event:SseEvent)
 | error (message:Option String)
 | unknown

structure Reading where
 acc : AnthropicJsonAcc
 toolBlocks : AList fun _ : ℤ=>String×String×String
 thinkingBlocks : List ℤ

def pushUsage (acc:AnthropicJsonAcc) (usage:SseUsage) : AnthropicJsonAcc :=
 { acc with
   inputTokens := usage.inputTokens
   outputTokens := usage.outputTokens
   cacheRead := usage.cacheReadInputTokens
   cacheWrite := usage.cacheCreationInputTokens }

def hasUseful (acc:AnthropicJsonAcc) : Bool :=
 acc.hasVisibleText||acc.compactionMode&&!acc.compactionThinkingFallback.isEmpty ||
  !acc.tools.isEmpty

namespace Reading

def startBlock (reading:Reading) (index:ℤ) : ContentBlock → Reading
 | .thinking=>{ reading with thinkingBlocks := reading.thinkingBlocks.insert index }
 | .text=>reading
 | .toolUse id name=>{ reading with toolBlocks := reading.toolBlocks.insert index (id,name,"") }

def readDelta (reading:Reading) (index:ℤ) : ContentDelta → Reading
 | .textDelta text=>{ reading with acc := reading.acc.pushText text }
 | .thinkingDelta thinking=>{ reading with acc := reading.acc.pushThinking thinking }
 | .signatureDelta signature=>
  if index∈reading.thinkingBlocks then
   { reading with acc := reading.acc.pushSignature signature }
  else reading
 | .inputJsonDelta partialJson=>match reading.toolBlocks.lookup index with
  | some (id,name,input)=>
   { reading with toolBlocks := reading.toolBlocks.insert index (id,name,input++partialJson) }
  | none=>reading

/-- An input that is no JSON is read as an empty object. -/
def toolInput (fromStr:String → Option JsonValue) (input:String) : JsonValue :=
 (fromStr input).getD (.object [])

def stopBlock (fromStr:String → Option JsonValue) (reading:Reading) (index:ℤ) : Reading :=
 let reading :=
  if index∈reading.thinkingBlocks then
   { reading with
     acc := reading.acc.flushThinking
     thinkingBlocks := reading.thinkingBlocks.erase index }
  else reading
 match reading.toolBlocks.lookup index with
 | some (id,name,input)=>
  { reading with
    acc := reading.acc.pushNativeTool id name (toolInput fromStr input)
    toolBlocks := reading.toolBlocks.erase index }
 | none=>reading

def read (fromStr:String → Option JsonValue) (reading:Reading) : SseEvent → Reading
 | .messageStart _ _ usage=>{ reading with acc := pushUsage reading.acc usage }
 | .contentBlockStart index contentBlock=>reading.startBlock index contentBlock
 | .contentBlockDelta index delta=>reading.readDelta index delta
 | .contentBlockStop index=>reading.stopBlock fromStr index
 | .messageDelta _ usage=>{ reading with acc := pushUsage reading.acc usage }
 | .messageStop=>reading

def readAll (fromStr:String → Option JsonValue) : Reading → List Parsed → Except String Reading
 | reading,[]=>.ok reading
 | reading, .framed event::parsed=>readAll fromStr (reading.read fromStr event) parsed
 | _, .error message::_=>.error (message.getD "Sand tool bridge returned an error")
 | reading, .unknown::parsed=>readAll fromStr reading parsed

def start (estimatedInput:ℕ) : Reading := ⟨.newMode estimatedInput false,∅,[]⟩

end Reading

open Reading

/-- The map of the tools that were not stopped has no order of its own. -/
def anthropicJsonFromSse (fromStr:String → Option JsonValue) (parsed:List Parsed)
  (messageId model:String) (estimatedInput:ℕ) : Except String Message :=
 match readAll fromStr (start estimatedInput) parsed with
 | .error message=>.error message
 | .ok reading=>
  let acc:=reading.toolBlocks.entries.foldl (fun (acc:AnthropicJsonAcc) entry=>
   acc.pushNativeTool entry.2.1 entry.2.2.1 (toolInput fromStr entry.2.2.2)) reading.acc
  if hasUseful acc then .ok (acc.intoMessageJson messageId model)
  else .error "Sand tool bridge produced no useful progress"

structure ClientBlock where
 index : ℤ
 block : ContentBlock
 deltas : List ContentDelta

structure Client where
 blocks : List ClientBlock := []
 stopReason : Option String := none
 usage : SseUsage := ⟨0,0,0,0⟩

def ClientBlock.take (index:ℤ) (delta:ContentDelta) (block:ClientBlock) : ClientBlock :=
 if block.index=index then { block with deltas := block.deltas++[delta] } else block

/-- The last stop reason and the last usage count. -/
def Client.read (client:Client) : SseEvent → Client
 | .messageStart _ _ usage=>{ client with usage := usage }
 | .contentBlockStart index block=>{ client with blocks := client.blocks++[⟨index,block,[]⟩] }
 | .contentBlockDelta index delta=>
  { client with blocks := client.blocks.map (ClientBlock.take index delta) }
 | .contentBlockStop _=>client
 | .messageDelta stopReason usage=>
  { client with stopReason := stopReason.or client.stopReason,usage := usage }
 | .messageStop=>client

def Client.readAll (events:List SseEvent) : Client := events.foldl Client.read {}

namespace ClientBlock

def kind (block:ClientBlock) : BlockKind := blockKind block.block

def text (block:ClientBlock) : Text :=
 block.deltas.flatMap fun delta=>match delta with
  | .textDelta text=>text
  | _=>[]

def thinking (block:ClientBlock) : Text :=
 block.deltas.flatMap fun delta=>match delta with
  | .thinkingDelta thinking=>thinking
  | _=>[]

def signed (signature:Option Text) : ContentDelta → Option Text
 | .signatureDelta text=>if text.isEmpty then signature else some text
 | _=>signature

def signature (block:ClientBlock) : Option Text := block.deltas.foldl signed none

def appended (input:String) : ContentDelta → String
 | .inputJsonDelta partialJson=>input++partialJson
 | _=>input

def partialJson (block:ClientBlock) : String := block.deltas.foldl appended ""

def touched (block:ClientBlock) : Bool :=
 block.deltas.any fun delta=>match delta with
  | .thinkingDelta _=>true
  | .signatureDelta signature=>!signature.isEmpty
  | _=>false

def content (fromStr:String → Option JsonValue) (block:ClientBlock) : MessageBlock :=
 match block.block with
 | .thinking=>.thinking block.thinking block.signature
 | .text=>.text block.text
 | .toolUse id name=>.toolUse id name (toolInput fromStr block.partialJson)

def Readable (fromStr:String → Option JsonValue) (block:ClientBlock) : Prop :=
 block.kind=.toolUse → (fromStr block.partialJson).isSome=true

end ClientBlock

def takeDelta (acc:AnthropicJsonAcc) : ContentDelta → AnthropicJsonAcc
 | .textDelta text=>acc.pushText text
 | .thinkingDelta thinking=>acc.pushThinking thinking
 | .signatureDelta signature=>acc.pushSignature signature
 | .inputJsonDelta _=>acc

def takeBlock (fromStr:String → Option JsonValue) (acc:AnthropicJsonAcc) (block:ClientBlock) : AnthropicJsonAcc :=
 let taken:=block.deltas.foldl takeDelta acc
 match block.block with
 | .thinking=>taken.flushThinking
 | .text=>taken
 | .toolUse id name=>taken.pushNativeTool id name (toolInput fromStr block.partialJson)

def takeBlocks (fromStr:String → Option JsonValue) (estimatedInput:ℕ) (usage:SseUsage)
  (blocks:List ClientBlock) : AnthropicJsonAcc :=
 blocks.foldl (takeBlock fromStr) (pushUsage (.newMode estimatedInput false) usage)

theorem pushUsage_flushThinking (acc:AnthropicJsonAcc) (usage:SseUsage) :
  (pushUsage acc usage).flushThinking=pushUsage acc.flushThinking usage:=by
 obtain ⟨_,_,thinking⟩:=acc
 cases thinking <;> rfl

theorem pushUsage_flushText (acc:AnthropicJsonAcc) (usage:SseUsage) :
  (pushUsage acc usage).flushText=pushUsage acc.flushText usage:=by
 unfold AnthropicJsonAcc.flushText pushUsage
 dsimp only
 split <;> rfl

theorem pushUsage_takeDelta (acc:AnthropicJsonAcc) (usage:SseUsage) (delta:ContentDelta) :
  takeDelta (pushUsage acc usage) delta=pushUsage (takeDelta acc delta) usage:=by
 cases delta with
 | textDelta text=>
  unfold takeDelta AnthropicJsonAcc.pushText
  dsimp only
  rw [pushUsage_flushThinking]
  unfold pushUsage
  dsimp only
  split <;> rfl
 | thinkingDelta thinking=>
  unfold takeDelta AnthropicJsonAcc.pushThinking
  dsimp only
  rw [pushUsage_flushText]
  unfold pushUsage
  dsimp only
  split
  · split <;> rfl
  · rfl
 | signatureDelta signature=>
  unfold takeDelta AnthropicJsonAcc.pushSignature
  dsimp only
  rw [pushUsage_flushText]
  unfold pushUsage
  dsimp only
  split <;> rfl
 | inputJsonDelta partialJson=>rfl

theorem pushUsage_takeDeltas (deltas:List ContentDelta) (usage:SseUsage) :
  ∀ acc:AnthropicJsonAcc,deltas.foldl takeDelta (pushUsage acc usage) =
   pushUsage (deltas.foldl takeDelta acc) usage:=by
 induction deltas with
 | nil=>exact fun _=>rfl
 | cons delta deltas ih=>
  intro acc
  rw [List.foldl_cons,List.foldl_cons,pushUsage_takeDelta,ih]

theorem pushUsage_takeBlock (fromStr:String → Option JsonValue) (acc:AnthropicJsonAcc)
  (usage:SseUsage) (block:ClientBlock) :
  takeBlock fromStr (pushUsage acc usage) block=pushUsage (takeBlock fromStr acc block) usage:=by
 unfold takeBlock AnthropicJsonAcc.pushNativeTool
 dsimp only
 rw [pushUsage_takeDeltas]
 cases block.block with
 | thinking=>exact pushUsage_flushThinking _ _
 | text=>rfl
 | toolUse id name=>
  dsimp only
  rw [pushUsage_flushThinking]
  rfl

theorem pushUsage_takeBlocks (fromStr:String → Option JsonValue) (estimatedInput:ℕ)
  (usage other:SseUsage) (blocks:List ClientBlock) :
  pushUsage (takeBlocks fromStr estimatedInput usage blocks) other =
   takeBlocks fromStr estimatedInput other blocks:=by
 have hblocks:∀ acc:AnthropicJsonAcc,pushUsage (blocks.foldl (takeBlock fromStr) acc) other =
   blocks.foldl (takeBlock fromStr) (pushUsage acc other):=by
  induction blocks with
  | nil=>exact fun _=>rfl
  | cons block blocks ih=>
   intro acc
   rw [List.foldl_cons,List.foldl_cons,ih,pushUsage_takeBlock]
 exact hblocks _

def toolEntry (index:ℤ) (block:ContentBlock) (deltas:List ContentDelta) : AList fun _ : ℤ=>String×String×String :=
 match block with
 | .toolUse id name=>
  (∅ : AList _).insert index (id,name,(ClientBlock.mk index block deltas).partialJson)
 | _ => ∅

structure Settled (fromStr:String → Option JsonValue) (estimatedInput:ℕ) (reading:Reading)
  (client:Client) : Prop where
 acc : reading.acc=takeBlocks fromStr estimatedInput client.usage client.blocks
 toolBlocks : reading.toolBlocks=∅
 thinkingBlocks : reading.thinkingBlocks=[]
 kinds : ∀ block∈client.blocks,∀ delta∈block.deltas,deltaKind delta=block.kind

structure Opened (fromStr:String → Option JsonValue) (estimatedInput:ℕ) (index:ℤ)
  (kind:BlockKind) (reading:Reading) (client:Client) (before:List ClientBlock)
  (block:ContentBlock) (deltas:List ContentDelta) : Prop where
 blocks : client.blocks=before++[⟨index,block,deltas⟩]
 same : blockKind block=kind
 below : ∀ other∈before,other.index < index
 acc : reading.acc=deltas.foldl takeDelta (takeBlocks fromStr estimatedInput client.usage before)
 toolBlocks : reading.toolBlocks=toolEntry index block deltas
 thinkingBlocks : reading.thinkingBlocks=if kind=.thinking then [index] else []
 kinds : ∀ other∈before,∀ delta∈other.deltas,deltaKind delta=other.kind
 taken : ∀ delta∈deltas,deltaKind delta=kind

def Follows (fromStr:String → Option JsonValue) (estimatedInput:ℕ) : Stage → Reading → Client → Prop
 | .fresh,reading,client=>reading=start estimatedInput ∧ client={}
 | .between next _,reading,client=>
  (∀ block∈client.blocks,block.index<next) ∧ Settled fromStr estimatedInput reading client
 | .opened index kind _,reading,client=>∃ before block deltas,
  Opened fromStr estimatedInput index kind reading client before block deltas
 | .stopping,reading,client=>Settled fromStr estimatedInput reading client
 | .stopped,reading,client=>Settled fromStr estimatedInput reading client

section follow
variable {fromStr:String → Option JsonValue} {estimatedInput:ℕ} {reading:Reading} {client:Client}

theorem Settled.counts (h:Settled fromStr estimatedInput reading client) (stopReason:Option String) (usage:SseUsage) :
  Settled fromStr estimatedInput { reading with acc := pushUsage reading.acc usage }
   { client with stopReason := stopReason,usage := usage }:=by
 refine ⟨?_,h.toolBlocks,h.thinkingBlocks,h.kinds⟩
 dsimp only
 rw [h.acc,pushUsage_takeBlocks]

theorem Settled.opens {next:ℤ} (h:Settled fromStr estimatedInput reading client)
  (hbelow:∀ block∈client.blocks,block.index<next) (block:ContentBlock) :
  Opened fromStr estimatedInput next (blockKind block) (reading.startBlock next block)
   { client with blocks := client.blocks++[⟨next,block,[]⟩] } client.blocks block []:=by
 have hacc:(reading.startBlock next block).acc=reading.acc:=by
  cases block <;> rfl
 refine ⟨rfl,rfl,hbelow,hacc.trans h.acc,?_,?_,h.kinds,nofun⟩
 · cases block with
   | thinking=>exact h.toolBlocks
   | text=>exact h.toolBlocks
   | toolUse id name=>
    unfold startBlock toolEntry
    dsimp only
    rw [h.toolBlocks]
    rfl
 · cases block with
   | thinking=>
    unfold startBlock
    dsimp only
    rw [h.thinkingBlocks]
    rfl
   | text=>exact h.thinkingBlocks
   | toolUse id name=>exact h.thinkingBlocks

theorem take_below {index:ℤ} {before:List ClientBlock} (delta:ContentDelta)
  (hbelow:∀ other∈before,other.index < index) : before.map (ClientBlock.take index delta)=before:=by
 refine (List.map_congr_left fun other hmem=>?_).trans (List.map_id _)
 exact if_neg (Int.ne_of_lt (hbelow other hmem))

variable {index:ℤ} {kind:BlockKind} {before:List ClientBlock} {block:ContentBlock} {deltas:List ContentDelta}

theorem Opened.counts (h:Opened fromStr estimatedInput index kind reading client before block deltas)
  (stopReason:Option String) (usage:SseUsage) :
  Opened fromStr estimatedInput index kind { reading with acc := pushUsage reading.acc usage }
   { client with stopReason := stopReason,usage := usage } before block deltas:=by
 refine ⟨h.blocks,h.same,h.below,?_,h.toolBlocks,h.thinkingBlocks,h.kinds,h.taken⟩
 dsimp only
 rw [h.acc,← pushUsage_takeDeltas,pushUsage_takeBlocks]

theorem partialJson_snoc (index:ℤ) (block:ContentBlock) (deltas:List ContentDelta)
  (delta:ContentDelta) : (ClientBlock.mk index block (deltas++[delta])).partialJson =
   ClientBlock.appended (ClientBlock.mk index block deltas).partialJson delta :=
 List.foldl_concat ..

theorem toolEntry_snoc {delta:ContentDelta} (h:deltaKind delta ≠ .toolUse) :
  toolEntry index block (deltas++[delta])=toolEntry index block deltas:=by
 unfold toolEntry
 cases block with
 | thinking=>rfl
 | text=>rfl
 | toolUse id name=>
  dsimp only
  rw [partialJson_snoc]
  cases delta with
  | inputJsonDelta partialJson=>exact absurd rfl h
  | thinkingDelta thinking=>rfl
  | signatureDelta signature=>rfl
  | textDelta text=>rfl

theorem Opened.takes (h:Opened fromStr estimatedInput index kind reading client before block deltas)
  {delta:ContentDelta} (hkind:deltaKind delta=kind) :
  Opened fromStr estimatedInput index kind (reading.readDelta index delta)
   { client with blocks := client.blocks.map (ClientBlock.take index delta) } before block
   (deltas++[delta]):=by
 have hblocks:client.blocks.map (ClientBlock.take index delta) = before++[⟨index,block,deltas++[delta]⟩]:=by
  rw [h.blocks,List.map_append,take_below delta h.below]
  exact congrArg (before++[·]) (if_pos rfl)
 have hdeltas:∀ other∈deltas++[delta],deltaKind other=kind:=by
  intro other hmem
  rcases List.mem_append.mp hmem with hmem | hmem
  · exact h.taken other hmem
  · exact (congrArg deltaKind (List.mem_singleton.mp hmem)).trans hkind
 have hopened:∀ next:Reading,next.acc=takeDelta reading.acc delta →
   next.toolBlocks=toolEntry index block (deltas++[delta]) →
   next.thinkingBlocks=reading.thinkingBlocks →
   Opened fromStr estimatedInput index kind next
    { client with blocks := client.blocks.map (ClientBlock.take index delta) } before block
    (deltas++[delta]):=by
  intro next hacc htools hthinking
  refine ⟨hblocks,h.same,h.below,?_,htools,hthinking.trans h.thinkingBlocks,h.kinds,hdeltas⟩
  rw [hacc,h.acc,List.foldl_concat]
 cases delta with
 | textDelta text=>exact hopened _ rfl (h.toolBlocks.trans (toolEntry_snoc (BlockKind.noConfusion ·)).symm) rfl
 | thinkingDelta thinking=>
  exact hopened _ rfl (h.toolBlocks.trans (toolEntry_snoc (BlockKind.noConfusion ·)).symm) rfl
 | signatureDelta signature=>
  have hmem:index∈reading.thinkingBlocks:=by
   have hthinking:kind=.thinking:=hkind.symm
   rw [h.thinkingBlocks,if_pos hthinking]
   exact List.mem_singleton_self index
  unfold readDelta
  dsimp only
  rw [if_pos hmem]
  exact hopened _ rfl (h.toolBlocks.trans (toolEntry_snoc (BlockKind.noConfusion ·)).symm) rfl
 | inputJsonDelta partialJson=>
  have hblock:∃ id name,block=.toolUse id name:=by
   have hblock:=h.same.trans hkind.symm
   cases block with
   | thinking=>exact (nomatch hblock)
   | text=>exact (nomatch hblock)
   | toolUse id name=>exact ⟨id,name,rfl⟩
  obtain ⟨id,name,rfl⟩:=hblock
  have htools:=h.toolBlocks
  unfold toolEntry at htools
  dsimp only at htools
  unfold readDelta
  dsimp only
  rw [htools,AList.lookup_insert]
  dsimp only
  refine hopened _ rfl ?_ rfl
  unfold toolEntry
  dsimp only
  rw [AList.insert_insert,partialJson_snoc]
  rfl

theorem erase_entry (index:ℤ) (entry:String×String×String) :
  ((∅ : AList fun _ : ℤ=>String×String×String).insert index entry).erase index=∅ := by
 refine AList.ext ?_
 exact List.kerase_cons_eq rfl

theorem Opened.stops (h:Opened fromStr estimatedInput index kind reading client before block deltas) :
  Settled fromStr estimatedInput (reading.stopBlock fromStr index) client ∧
   ∀ other∈client.blocks,other.index < index+1:=by
 have hkinds:∀ other∈client.blocks,∀ delta∈other.deltas,deltaKind delta=other.kind:=by
  rw [h.blocks]
  intro other hmem
  rcases List.mem_append.mp hmem with hmem | hmem
  · exact h.kinds other hmem
  · rw [List.mem_singleton.mp hmem]
    exact fun delta hdelta=>(h.taken delta hdelta).trans h.same.symm
 have hacc:takeBlocks fromStr estimatedInput client.usage client.blocks =
   takeBlock fromStr (takeBlocks fromStr estimatedInput client.usage before) ⟨index,block,deltas⟩:=by
  rw [h.blocks]
  exact List.foldl_concat ..
 constructor
 · have htools:=h.toolBlocks
   have hthinking:=h.thinkingBlocks
   have hkind:=h.same
   unfold stopBlock
   cases block with
   | thinking=>
    have hsame:kind=.thinking:=hkind.symm
    rw [if_pos hsame] at hthinking
    rw [hthinking,if_pos (List.mem_singleton_self index)]
    dsimp only
    rw [htools]
    refine ⟨?_,rfl,List.erase_cons_head _ _,hkinds⟩
    rw [hacc,h.acc]
    rfl
   | text=>
    have hnot:kind ≠ .thinking:=fun heq=>nomatch (heq.symm.trans hkind.symm)
    rw [if_neg hnot] at hthinking
    rw [hthinking,if_neg List.not_mem_nil]
    dsimp only
    rw [htools]
    exact ⟨h.acc.trans hacc.symm,htools,hthinking,hkinds⟩
   | toolUse id name=>
    have hnot:kind ≠ .thinking:=fun heq=>nomatch (heq.symm.trans hkind.symm)
    rw [if_neg hnot] at hthinking
    unfold toolEntry at htools
    dsimp only at htools
    rw [hthinking,if_neg List.not_mem_nil]
    dsimp only
    rw [htools,AList.lookup_insert]
    dsimp only
    refine ⟨?_,erase_entry _ _,hthinking,hkinds⟩
    dsimp only
    rw [hacc,h.acc]
    rfl
 · rw [h.blocks]
   intro other hmem
   rcases List.mem_append.mp hmem with hmem | hmem
   · exact Int.lt_trans (h.below other hmem) (Int.lt_succ index)
   · rw [List.mem_singleton.mp hmem]
     exact Int.lt_succ index

theorem follows_read {stage next:Stage} {event:SseEvent} (hread:stage.read event=some next)
  (h:Follows fromStr estimatedInput stage reading client) :
  Follows fromStr estimatedInput next (reading.read fromStr event) (client.read event):=by
 cases stage with
 | fresh=>
  obtain ⟨rfl,rfl⟩:=h
  cases event with
  | messageStart messageId model usage=>
   cases hread
   exact ⟨nofun,rfl,rfl,rfl,nofun⟩
  | _=>exact (nomatch hread)
 | between place seen=>
  obtain ⟨hbelow,hsettled⟩:=h
  cases event with
  | contentBlockStart index block=>
   unfold Stage.read at hread
   dsimp only at hread
   split_ifs at hread with hplace
   cases hread
   subst hplace
   exact ⟨_,_,_,hsettled.opens hbelow block⟩
  | messageDelta stopReason usage=>
   cases stopReason with
   | none=>
    unfold Stage.read at hread
    dsimp only at hread
    split_ifs at hread
    cases hread
    exact ⟨hbelow,hsettled.counts _ usage⟩
   | some reason=>
    cases hread
    exact hsettled.counts _ usage
  | _=>exact (nomatch hread)
 | opened index kind seen=>
  obtain ⟨before,block,deltas,hopened⟩:=h
  cases event with
  | contentBlockDelta place delta=>
   unfold Stage.read at hread
   dsimp only at hread
   split_ifs at hread with hplace
   cases hread
   obtain ⟨rfl,hkind⟩:=hplace
   exact ⟨_,_,_,hopened.takes hkind⟩
  | messageDelta stopReason usage=>
   cases stopReason with
   | none=>
    unfold Stage.read at hread
    dsimp only at hread
    split_ifs at hread
    cases hread
    exact ⟨_,_,_,hopened.counts _ usage⟩
   | some reason=>exact (nomatch hread)
  | contentBlockStop place=>
   unfold Stage.read at hread
   dsimp only at hread
   split_ifs at hread with hplace
   cases hread
   subst hplace
   exact ⟨hopened.stops.2,hopened.stops.1⟩
  | _=>exact (nomatch hread)
 | stopping=>
  cases event with
  | messageStop=>
   cases hread
   exact h
  | _=>exact (nomatch hread)
 | stopped=>cases event <;> exact (nomatch hread)

theorem follows_all (events:List SseEvent) : ∀ {stage last:Stage} {reading:Reading}
  {client:Client},SseWellFormed.readAll stage events=some last → Follows fromStr estimatedInput stage reading client →
   Follows fromStr estimatedInput last (events.foldl (Reading.read fromStr) reading)
    (events.foldl Client.read client):=by
 induction events with
 | nil=>
  intro stage last reading client hread h
  cases hread
  exact h
 | cons event events ih=>
  intro stage last reading client hread h
  unfold SseWellFormed.readAll at hread
  rw [List.foldlM_cons] at hread
  cases hnext:stage.read event with
  | none=>
   rw [hnext] at hread
   exact (nomatch hread)
  | some next=>
   rw [hnext] at hread
   exact ih hread (follows_read hnext h)

end follow

theorem readAll_framed (fromStr:String → Option JsonValue) (events:List SseEvent) :
  ∀ reading:Reading,readAll fromStr reading (events.map .framed) =
   .ok (events.foldl (Reading.read fromStr) reading):=by
 induction events with
 | nil=>exact fun _=>rfl
 | cons event events ih=>exact fun reading=>ih _

theorem readAll_error (fromStr:String → Option JsonValue) {message:Option String}
  {parsed:List Parsed} (hmem:.error message∈parsed) :
  ∀ reading:Reading,∃ text,readAll fromStr reading parsed=.error text:=by
 induction parsed with
 | nil=>exact (nomatch hmem)
 | cons first parsed ih=>
  intro reading
  cases first with
  | error text=>exact ⟨_,rfl⟩
  | framed event=>
   rcases List.mem_cons.mp hmem with heq | hmem
   · exact (nomatch heq)
   · exact ih hmem _
  | unknown=>
   rcases List.mem_cons.mp hmem with heq | hmem
   · exact (nomatch heq)
   · exact ih hmem _

def textBlock (text:Text) : List MessageBlock := if text.isEmpty then [] else [.text text]

/-- The blocks but the tools, where text is joined to the text before it. -/
def gathered : Text → List ClientBlock → List MessageBlock
 | text,[]=>textBlock text
 | text,block::blocks=>match block.block with
  | .text=>gathered (text++block.text) blocks
  | .thinking=>
   if block.touched then
    textBlock text ++ .thinking block.thinking block.signature::gathered [] blocks
   else gathered text blocks
  | .toolUse _ _=>gathered text blocks

theorem gathered_touched {index:ℤ} {deltas:List ContentDelta} (text:Text)
  (blocks:List ClientBlock) (h:(ClientBlock.mk index .thinking deltas).touched=true) :
  gathered text (⟨index,.thinking,deltas⟩::blocks) =
   textBlock text ++ .thinking (ClientBlock.mk index .thinking deltas).thinking
    (ClientBlock.mk index .thinking deltas).signature::gathered [] blocks :=
 if_pos h

theorem gathered_untouched {index:ℤ} {deltas:List ContentDelta} (text:Text)
  (blocks:List ClientBlock) (h:¬(ClientBlock.mk index .thinking deltas).touched=true) :
  gathered text (⟨index,.thinking,deltas⟩::blocks)=gathered text blocks :=
 if_neg h

def toolsOf (fromStr:String → Option JsonValue) (blocks:List ClientBlock) : List MessageBlock :=
 (blocks.filter fun block=>block.kind=.toolUse).map (ClientBlock.content fromStr)

def shows (blocks:List ClientBlock) : Bool :=
 blocks.any fun block=>block.kind=.text ∧ block.text≠[]

structure Calm (acc:AnthropicJsonAcc) : Prop where
 thinking : acc.thinking=none
 mode : acc.compactionMode=false

section calm
variable {acc:AnthropicJsonAcc}

theorem Calm.flushThinking (h:Calm acc) : acc.flushThinking=acc:=by
 unfold AnthropicJsonAcc.flushThinking
 rw [h.thinking]

theorem flushText_eq (acc:AnthropicJsonAcc) :
  acc.flushText={ acc with content := acc.content++textBlock acc.text,text := [] }:=by
 unfold AnthropicJsonAcc.flushText textBlock
 obtain ⟨text⟩:=acc
 cases text with
 | nil=>exact congrArg (AnthropicJsonAcc.mk [] · _ _ _ _ _ _ _ _ _ _ _) (List.append_nil _).symm
 | cons char text=>rfl

theorem Calm.pushText (h:Calm acc) (text:Text) : acc.pushText text =
  { acc with
    hasVisibleText := acc.hasVisibleText||!text.isEmpty
    text := acc.text++text }:=by
 have hoff:¬(acc.compactionMode&&!acc.compactionSeenText)=true:=by
  rw [h.mode]
  exact Bool.false_ne_true
 unfold AnthropicJsonAcc.pushText
 rw [h.flushThinking]
 dsimp only
 rw [if_neg hoff]

variable {deltas:List ContentDelta}

theorem Calm.texts (hkinds:∀ delta∈deltas,deltaKind delta=.text) (index:ℤ)
  (block:ContentBlock) : ∀ {acc:AnthropicJsonAcc},Calm acc →
   deltas.foldl takeDelta acc =
    { acc with
      hasVisibleText := acc.hasVisibleText||!(ClientBlock.mk index block deltas).text.isEmpty
      text := acc.text++(ClientBlock.mk index block deltas).text }:=by
 induction deltas with
 | nil=>
  intro acc _
  obtain ⟨text,_,_,visible⟩:=acc
  simp [ClientBlock.text]
 | cons delta deltas ih=>
  intro acc h
  have hkind:=hkinds delta List.mem_cons_self
  cases delta with
  | textDelta text=>
   rw [List.foldl_cons]
   change deltas.foldl takeDelta (acc.pushText text)=_
   rw [h.pushText]
   refine Eq.trans (ih (fun other hmem=>hkinds other (List.mem_cons_of_mem _ hmem))
    ⟨h.thinking,h.mode⟩) ?_
   simp only [ClientBlock.text,List.flatMap_cons,Bool.or_assoc,List.append_assoc]
   cases text <;> rfl
  | thinkingDelta thinking=>exact (nomatch hkind)
  | signatureDelta signature=>exact (nomatch hkind)
  | inputJsonDelta partialJson=>exact (nomatch hkind)

theorem pushThinking_eq (hmode:acc.compactionMode=false) (text:Text) :
  acc.pushThinking text =
   { acc with
     content := acc.content++textBlock acc.text
     text := []
     thinking := some ((acc.thinking.getD ([],none)).1++text,(acc.thinking.getD ([],none)).2) }:=by
 unfold AnthropicJsonAcc.pushThinking
 rw [if_neg (Bool.eq_false_iff.mp hmode),flushText_eq]

theorem pushSignature_eq (hmode:acc.compactionMode=false) {signature:Text} (hsignature:¬signature.isEmpty=true) :
  acc.pushSignature signature =
   { acc with
     content := acc.content++textBlock acc.text
     text := []
     thinking := some ((acc.thinking.getD ([],none)).1,some signature) }:=by
 have hon:¬(acc.compactionMode||signature.isEmpty)=true:=by
  rw [hmode]
  exact hsignature
 unfold AnthropicJsonAcc.pushSignature
 rw [if_neg hon,flushText_eq]

theorem pushSignature_empty (acc:AnthropicJsonAcc) {signature:Text}
  (hsignature:signature.isEmpty=true) : acc.pushSignature signature=acc:=by
 unfold AnthropicJsonAcc.pushSignature
 rw [if_pos (by rw [hsignature,Bool.or_true])]

theorem thinks (hkinds:∀ delta∈deltas,deltaKind delta=.thinking) (index:ℤ) (block:ContentBlock) :
  ∀ {acc:AnthropicJsonAcc} {thinking:Text} {signature:Option Text},
   acc.compactionMode=false → acc.text=[] → acc.thinking=some (thinking,signature) →
   deltas.foldl takeDelta acc = { acc with thinking := some (thinking++(ClientBlock.mk index block deltas).thinking,
         deltas.foldl ClientBlock.signed signature) }:=by
 induction deltas with
 | nil=>
  intro acc thinking signature _ _ hthinking
  obtain ⟨_,_,open_⟩:=acc
  obtain rfl : open_=some (thinking,signature):=hthinking
  simp [ClientBlock.thinking]
 | cons delta deltas ih=>
  intro acc thinking signature hmode htext hthinking
  have hkind:=hkinds delta List.mem_cons_self
  have hrest:=fun other hmem=>hkinds other (List.mem_cons_of_mem delta hmem)
  cases delta with
  | textDelta text=>exact (nomatch hkind)
  | inputJsonDelta partialJson=>exact (nomatch hkind)
  | thinkingDelta more=>
   have hnext:takeDelta acc (.thinkingDelta more) = { acc with thinking := some (thinking++more,signature) }:=by
    refine (pushThinking_eq hmode more).trans ?_
    obtain ⟨text,content,open_⟩:=acc
    obtain rfl : text=[]:=htext
    obtain rfl : open_=some (thinking,signature):=hthinking
    simp [textBlock]
   rw [List.foldl_cons,hnext]
   refine Eq.trans (ih hrest hmode htext rfl) ?_
   simp [ClientBlock.thinking,ClientBlock.signed]
  | signatureDelta more=>
   by_cases hempty:more.isEmpty=true
   · have hnext:takeDelta acc (.signatureDelta more)=acc:=pushSignature_empty acc hempty
     rw [List.foldl_cons,hnext,ih hrest hmode htext hthinking]
     simp [ClientBlock.thinking,ClientBlock.signed,hempty]
   · have hnext:takeDelta acc (.signatureDelta more) = { acc with thinking := some (thinking,some more) }:=by
      refine (pushSignature_eq hmode hempty).trans ?_
      obtain ⟨text,content,open_⟩:=acc
      obtain rfl : text=[]:=htext
      obtain rfl : open_=some (thinking,signature):=hthinking
      simp [textBlock]
     rw [List.foldl_cons,hnext]
     refine Eq.trans (ih hrest hmode htext rfl) ?_
     simp [ClientBlock.thinking,ClientBlock.signed,hempty]

theorem Calm.thoughts (hkinds:∀ delta∈deltas,deltaKind delta=.thinking) (index:ℤ) (block:ContentBlock) :
  ∀ {acc:AnthropicJsonAcc},Calm acc → deltas.foldl takeDelta acc =
   if (ClientBlock.mk index block deltas).touched then
    { acc with
      content := acc.content++textBlock acc.text
      text := []
      thinking := some ((ClientBlock.mk index block deltas).thinking,
       (ClientBlock.mk index block deltas).signature) }
   else acc:=by
 induction deltas with
 | nil=>exact fun _=>rfl
 | cons delta deltas ih=>
  intro acc h
  have hkind:=hkinds delta List.mem_cons_self
  have hrest:=fun other hmem=>hkinds other (List.mem_cons_of_mem delta hmem)
  cases delta with
  | textDelta text=>exact (nomatch hkind)
  | inputJsonDelta partialJson=>exact (nomatch hkind)
  | thinkingDelta more=>
   have hnext:takeDelta acc (.thinkingDelta more) =
     { acc with
       content := acc.content++textBlock acc.text
       text := []
       thinking := some (more,none) }:=by
    refine (pushThinking_eq h.mode more).trans ?_
    rw [h.thinking]
    rfl
   rw [List.foldl_cons,hnext]
   refine Eq.trans (thinks hrest index block h.mode rfl rfl) ?_
   simp [ClientBlock.thinking,ClientBlock.touched,ClientBlock.signature,ClientBlock.signed]
  | signatureDelta more=>
   by_cases hempty:more.isEmpty=true
   · have hnext:takeDelta acc (.signatureDelta more)=acc:=pushSignature_empty acc hempty
     rw [List.foldl_cons,hnext,ih hrest h]
     simp [ClientBlock.thinking,ClientBlock.touched,ClientBlock.signature,ClientBlock.signed,hempty]
   · have hnext:takeDelta acc (.signatureDelta more) =
       { acc with
         content := acc.content++textBlock acc.text
         text := []
         thinking := some ([],some more) }:=by
      refine (pushSignature_eq h.mode hempty).trans ?_
      rw [h.thinking]
      rfl
     rw [List.foldl_cons,hnext]
     refine Eq.trans (thinks hrest index block h.mode rfl rfl) ?_
     simp [ClientBlock.thinking,ClientBlock.touched,ClientBlock.signature,ClientBlock.signed,hempty]

theorem inputs (hkinds:∀ delta∈deltas,deltaKind delta=.toolUse) : deltas.foldl takeDelta acc=acc:=by
 induction deltas with
 | nil=>rfl
 | cons delta deltas ih=>
  have hkind:=hkinds delta List.mem_cons_self
  have hnext:takeDelta acc delta=acc:=by
   cases delta with
   | inputJsonDelta partialJson=>rfl
   | textDelta text=>exact (nomatch hkind)
   | thinkingDelta thinking=>exact (nomatch hkind)
   | signatureDelta signature=>exact (nomatch hkind)
  rw [List.foldl_cons,hnext]
  exact ih fun other hmem=>hkinds other (List.mem_cons_of_mem _ hmem)

structure Gathers (fromStr:String → Option JsonValue) (acc next:AnthropicJsonAcc)
  (blocks:List ClientBlock) : Prop where
 calm : Calm next
 content : next.content++textBlock next.text=acc.content++gathered acc.text blocks
 tools : next.tools.map (fun tool=>MessageBlock.toolUse tool.1 tool.2.1 tool.2.2) =
  acc.tools.map (fun tool=>MessageBlock.toolUse tool.1 tool.2.1 tool.2.2) ++
   toolsOf fromStr blocks
 visible : next.hasVisibleText=(acc.hasVisibleText||shows blocks)
 estimate : next.estimatedInput=acc.estimatedInput

theorem Calm.gathers (fromStr:String → Option JsonValue) {blocks:List ClientBlock}
  (hkinds:∀ block∈blocks,∀ delta∈block.deltas,deltaKind delta=block.kind) :
  ∀ {acc:AnthropicJsonAcc},Calm acc → Gathers fromStr acc (blocks.foldl (takeBlock fromStr) acc) blocks:=by
 induction blocks with
 | nil=>
  intro acc h
  exact ⟨h,rfl,(List.append_nil _).symm,(Bool.or_false _).symm,rfl⟩
 | cons block blocks ih=>
  intro acc h
  have hrest:=fun other hmem=>hkinds other (List.mem_cons_of_mem block hmem)
  have hkind:=hkinds block List.mem_cons_self
  obtain ⟨index,kind,deltas⟩:=block
  rw [List.foldl_cons]
  cases kind with
  | text=>
   have hnext:takeBlock fromStr acc ⟨index,.text,deltas⟩=_:=h.texts hkind index .text
   have hcalm:Calm (takeBlock fromStr acc ⟨index,.text,deltas⟩):=by
    rw [hnext]
    exact ⟨h.thinking,h.mode⟩
   obtain ⟨hend,hcontent,htools,hvisible,hestimate⟩:=ih hrest hcalm
   rw [hnext] at hcontent htools hvisible hestimate
   rw [hnext] at hend ⊢
   refine ⟨hend,hcontent,htools,hvisible.trans ?_,hestimate⟩
   unfold shows
   rw [List.any_cons,Bool.or_assoc]
   cases htext:(ClientBlock.mk index .text deltas).text with
   | nil=>simp [ClientBlock.kind,blockKind]
   | cons char text=>simp [ClientBlock.kind,blockKind]
  | thinking=>
   have hthoughts:=h.thoughts hkind index .thinking
   have hnext:takeBlock fromStr acc ⟨index,.thinking,deltas⟩ =
     if (ClientBlock.mk index .thinking deltas).touched then
      { acc with
        content := acc.content++textBlock acc.text ++
         [.thinking (ClientBlock.mk index .thinking deltas).thinking
          (ClientBlock.mk index .thinking deltas).signature]
        text := []
        thinking := none }
     else acc:=by
    unfold takeBlock
    dsimp only
    rw [hthoughts]
    split_ifs
    · rfl
    · exact h.flushThinking
   have hshows:shows (⟨index,.thinking,deltas⟩::blocks)=shows blocks:=by
    unfold shows
    simp [ClientBlock.kind,blockKind]
   by_cases htouched:(ClientBlock.mk index .thinking deltas).touched=true
   · rw [if_pos htouched] at hnext
     have hcalm:Calm (takeBlock fromStr acc ⟨index,.thinking,deltas⟩):=by
      rw [hnext]
      exact ⟨rfl,h.mode⟩
     obtain ⟨hend,hcontent,htools,hvisible,hestimate⟩:=ih hrest hcalm
     rw [hnext] at hcontent htools hvisible hestimate
     rw [hnext] at hend ⊢
     refine ⟨hend,hcontent.trans ?_,htools,hvisible.trans (hshows ▸ rfl),hestimate⟩
     rw [gathered_touched _ _ htouched,List.append_assoc,List.append_assoc]
     rfl
   · rw [if_neg htouched] at hnext
     rw [hnext]
     obtain ⟨hend,hcontent,htools,hvisible,hestimate⟩:=ih hrest h
     refine ⟨hend,hcontent.trans ?_,htools,hvisible.trans (hshows ▸ rfl),hestimate⟩
     rw [gathered_untouched _ _ htouched]
  | toolUse id name=>
   have hnext:takeBlock fromStr acc ⟨index,.toolUse id name,deltas⟩ =
     { acc with tools := acc.tools++[(id,name,toolInput fromStr
       (ClientBlock.mk index (.toolUse id name) deltas).partialJson)] }:=by
    unfold takeBlock AnthropicJsonAcc.pushNativeTool
    dsimp only
    rw [inputs hkind,h.flushThinking]
   have hcalm:Calm (takeBlock fromStr acc ⟨index,.toolUse id name,deltas⟩):=by
    rw [hnext]
    exact ⟨h.thinking,h.mode⟩
   obtain ⟨hend,hcontent,htools,hvisible,hestimate⟩:=ih hrest hcalm
   rw [hnext] at hcontent htools hvisible hestimate
   rw [hnext] at hend ⊢
   refine ⟨hend,hcontent,htools.trans ?_,hvisible.trans ?_,hestimate⟩
   · dsimp only
     rw [List.map_append,List.append_assoc]
     rfl
   · unfold shows
     simp [ClientBlock.kind,blockKind]

end calm

/-- No text block is empty or next to another one, and no thinking block is empty. -/
def Parted : Bool → List ClientBlock → Prop
 | _,[]=>True
 | afterText,block::blocks=>match block.block with
  | .text=>afterText=false ∧ block.text≠[] ∧ Parted true blocks
  | .thinking=>block.touched=true ∧ Parted false blocks
  | .toolUse _ _=>Parted afterText blocks

def ToolsLast (blocks:List ClientBlock) : Prop :=
 blocks.Pairwise fun block other=>block.kind=.toolUse → other.kind=.toolUse

section order
variable (fromStr:String → Option JsonValue)

theorem textBlock_length (text:Text) : (textBlock text).length=if text=[] then 0 else 1:=by
 cases text <;> rfl

theorem toolsOf_cons (block:ClientBlock) (blocks:List ClientBlock) :
  toolsOf fromStr (block::blocks) =
   (if block.kind=.toolUse then [block.content fromStr] else [])++toolsOf fromStr blocks:=by
 unfold toolsOf
 by_cases hkind:block.kind=.toolUse
 · rw [List.filter_cons_of_pos (by simpa using hkind),if_pos hkind]
   rfl
 · rw [List.filter_cons_of_neg (by simpa using hkind),if_neg hkind]
   rfl

variable {blocks:List ClientBlock}

theorem gathered_tools (htools:∀ block∈blocks,block.kind=.toolUse) (text:Text) :
  gathered text blocks=textBlock text ∧ toolsOf fromStr blocks=blocks.map (ClientBlock.content fromStr):=by
 induction blocks with
 | nil=>exact ⟨rfl,rfl⟩
 | cons block blocks ih=>
  obtain ⟨hgathered,hmap⟩:=ih fun other hmem=>htools other (List.mem_cons_of_mem _ hmem)
  have hkind:=htools block List.mem_cons_self
  constructor
  · obtain ⟨index,kind,deltas⟩:=block
    cases kind with
    | toolUse id name=>exact hgathered
    | text=>exact (nomatch hkind)
    | thinking=>exact (nomatch hkind)
  · rw [toolsOf_cons,if_pos hkind,hmap]
    rfl

theorem gathered_ordered : ∀ {afterText:Bool} {text:Text},
  (text≠[] → afterText=true) → Parted afterText blocks → ToolsLast blocks →
   gathered text blocks++toolsOf fromStr blocks = textBlock text++blocks.map (ClientBlock.content fromStr):=by
 induction blocks with
 | nil=>exact fun _ _ _=>rfl
 | cons block blocks ih=>
  intro afterText text hafter hparted hlast
  obtain ⟨hblock,hrest⟩:=List.pairwise_cons.mp hlast
  obtain ⟨index,kind,deltas⟩:=block
  cases kind with
  | text=>
   obtain ⟨hfirst,hnonempty,hparted⟩:=hparted
   have htext:text=[]:=by
    by_contra hne
    exact Bool.false_ne_true (hfirst.symm.trans (hafter hne))
   subst htext
   refine (ih (fun _=>rfl) hparted hrest).trans ?_
   have hempty:(ClientBlock.mk index .text deltas).text.isEmpty=false :=
    Bool.eq_false_iff.mpr fun hnil=>hnonempty (List.isEmpty_iff.mp hnil)
   unfold textBlock
   rw [List.nil_append,hempty]
   rfl
  | thinking=>
   obtain ⟨htouched,hparted⟩:=hparted
   have hrest:gathered [] blocks++toolsOf fromStr blocks = textBlock []++blocks.map (ClientBlock.content fromStr) :=
    ih (fun hne=>absurd rfl hne) hparted hrest
   rw [gathered_touched _ _ htouched,List.append_assoc]
   exact congrArg (fun rest=>textBlock text++_::rest) hrest
  | toolUse id name=>
   have htools:∀ other∈ClientBlock.mk index (.toolUse id name) deltas::blocks,other.kind=.toolUse:=by
    intro other hmem
    rcases List.mem_cons.mp hmem with rfl | hmem
    · rfl
    · exact hblock other hmem rfl
   obtain ⟨hgathered,hmap⟩:=gathered_tools fromStr htools text
   rw [hgathered,hmap]

theorem gathered_length : ∀ {text:Text},
  (gathered text blocks).length+(toolsOf fromStr blocks).length ≤ (textBlock text).length+blocks.length ∧
   ((gathered text blocks).length+(toolsOf fromStr blocks).length =
    (textBlock text).length+blocks.length → Parted (decide (text≠[])) blocks):=by
 induction blocks with
 | nil=>exact ⟨le_refl _,fun _=>trivial⟩
 | cons block blocks ih=>
  intro text
  obtain ⟨index,kind,deltas⟩:=block
  rw [toolsOf_cons,List.length_append,List.length_cons]
  cases kind with
  | text=>
   obtain ⟨hle,hparted⟩:=@ih (text++(ClientBlock.mk index .text deltas).text)
   have hgathered:gathered text (⟨index,.text,deltas⟩::blocks) =
     gathered (text++(ClientBlock.mk index .text deltas).text) blocks := rfl
   rw [hgathered,if_neg (BlockKind.noConfusion ·),List.length_nil,Nat.zero_add]
   rw [textBlock_length] at hle hparted ⊢
   by_cases htext:text=[]
   · subst htext
     rw [List.nil_append] at hle hparted ⊢
     by_cases hempty:(ClientBlock.mk index .text deltas).text=[]
     · rw [if_pos hempty] at hle
       rw [if_pos rfl]
       constructor
       · omega
       · intro heq
         omega
     · rw [if_neg hempty] at hle hparted
       rw [if_pos rfl]
       refine ⟨by omega,fun heq=>⟨rfl,hempty,?_⟩⟩
       have hrest:=hparted (by omega)
       rwa [decide_eq_true hempty] at hrest
   · have happend:text++(ClientBlock.mk index .text deltas).text≠[] :=
      List.append_ne_nil_of_left_ne_nil htext _
     rw [if_neg happend] at hle
     rw [if_neg htext]
     constructor
     · omega
     · intro heq
       omega
  | thinking=>
   rw [if_neg (BlockKind.noConfusion ·),List.length_nil,Nat.zero_add]
   by_cases htouched:(ClientBlock.mk index .thinking deltas).touched=true
   · obtain ⟨hle,hparted⟩:=@ih []
     rw [gathered_touched _ _ htouched,List.length_append,List.length_cons]
     rw [textBlock_length,if_pos rfl,Nat.zero_add] at hle hparted
     refine ⟨by omega,fun heq=>⟨htouched,hparted (by omega)⟩⟩
   · obtain ⟨hle,-⟩:=@ih text
     rw [gathered_untouched _ _ htouched]
     constructor
     · omega
     · intro heq
       omega
  | toolUse id name=>
   obtain ⟨hle,hparted⟩:=@ih text
   have hgathered:gathered text (⟨index,.toolUse id name,deltas⟩::blocks) = gathered text blocks := rfl
   have hkind:(ClientBlock.mk index (.toolUse id name) deltas).kind=.toolUse:=rfl
   rw [hgathered,if_pos hkind,List.length_singleton]
   exact ⟨by omega,fun heq=>hparted (by omega)⟩

def isTool : MessageBlock → Prop
 | .toolUse _ _ _=>True
 | _=>False

theorem gathered_not_tool : ∀ {text:Text},∀ message∈gathered text blocks,¬isTool message:=by
 have htext:∀ text:Text,∀ message∈textBlock text,¬isTool message:=by
  intro text message hmem
  unfold textBlock at hmem
  split at hmem
  · exact (nomatch hmem)
  · rw [List.mem_singleton.mp hmem]
    exact id
 induction blocks with
 | nil=>exact htext _
 | cons block blocks ih=>
  intro text message hmem
  obtain ⟨index,kind,deltas⟩:=block
  cases kind with
  | text=>exact ih message hmem
  | toolUse id name=>exact ih message hmem
  | thinking=>
   by_cases htouched:(ClientBlock.mk index .thinking deltas).touched=true
   · rw [gathered_touched _ _ htouched] at hmem
     rcases List.mem_append.mp hmem with hmem | hmem
     · exact htext text message hmem
     · rcases List.mem_cons.mp hmem with rfl | hmem
       · exact id
       · exact ih message hmem
   · rw [gathered_untouched _ _ htouched] at hmem
     exact ih message hmem

theorem isTool_content (block:ClientBlock) : isTool (block.content fromStr) ↔ block.kind=.toolUse:=by
 obtain ⟨index,kind,deltas⟩:=block
 cases kind with
 | text=>exact ⟨False.elim,(nomatch ·)⟩
 | thinking=>exact ⟨False.elim,(nomatch ·)⟩
 | toolUse id name=>exact ⟨fun _=>rfl,fun _=>trivial⟩

theorem gathered_eq_iff (blocks:List ClientBlock) :
  gathered [] blocks++toolsOf fromStr blocks=blocks.map (ClientBlock.content fromStr) ↔
   Parted false blocks ∧ ToolsLast blocks:=by
 constructor
 · intro heq
   constructor
   · have hlength:=congrArg List.length heq
     rw [List.length_append,List.length_map] at hlength
     exact (gathered_length fromStr).2 (hlength.trans (Nat.zero_add _).symm)
   · have hpairs:(blocks.map (ClientBlock.content fromStr)).Pairwise
       fun message other=>isTool message → isTool other:=by
      rw [← heq]
      refine List.pairwise_append.mpr ⟨?_,?_,?_⟩
      · exact List.pairwise_of_forall_mem_list fun message hmem _ _ htool=>
         absurd htool (gathered_not_tool message hmem)
      · refine List.pairwise_of_forall_mem_list fun message _ other hmem _=>?_
        obtain ⟨block,hblock,rfl⟩:=List.mem_map.mp hmem
        exact (isTool_content fromStr block).mpr (by simpa using (List.mem_filter.mp hblock).2)
      · exact fun message hmem _ _ htool=>absurd htool (gathered_not_tool message hmem)
     refine (List.pairwise_map.mp hpairs).imp fun hpair hkind=>?_
     exact (isTool_content fromStr _).mp (hpair ((isTool_content fromStr _).mpr hkind))
 · rintro ⟨hparted,hlast⟩
   exact gathered_ordered fromStr (fun hne=>absurd rfl hne) hparted hlast

end order

def answers (blocks:List ClientBlock) : Prop :=
 shows blocks=true ∨ ∃ block∈blocks,block.kind=.toolUse

def stopReasonOf (blocks:List ClientBlock) : String :=
 if ∃ block∈blocks,block.kind=.toolUse then "tool_use" else "end_turn"

/-- The usage stays when it is normalized once more, over the floor of the estimate. -/
def UsageKept (estimatedInput:ℕ) (usage:SseUsage) : Prop :=
 let floored:=max usage.inputTokens (max estimatedInput 1)
 let cacheParts:=saturatingAdd usage.cacheReadInputTokens usage.cacheCreationInputTokens
 floored=usage.inputTokens+cacheParts ∨ floored=usage.inputTokens ∧ floored<cacheParts

def Agrees (fromStr:String → Option JsonValue) (answer:Except String Message) (client:Client) : Prop :=
 ∃ message,answer=.ok message ∧ (∀ block∈client.blocks,block.Readable fromStr) ∧
  message.content=client.blocks.map (ClientBlock.content fromStr) ∧
  client.stopReason=some message.stopReason ∧ message.usage=client.usage

section whole
variable {fromStr:String → Option JsonValue} {estimatedInput:ℕ} {client:Client}

theorem usageKept_iff (estimatedInput:ℕ) (usage:SseUsage) :
  (let normalized := normalizeCursorUsageForAnthropic
    (max usage.inputTokens (max estimatedInput 1)) usage.outputTokens
    usage.cacheReadInputTokens usage.cacheCreationInputTokens
  SseUsage.mk normalized.1 normalized.2.1 normalized.2.2.2 normalized.2.2.1=usage) ↔
   UsageKept estimatedInput usage:=by
 obtain ⟨input,output,write,reads⟩:=usage
 unfold normalizeCursorUsageForAnthropic UsageKept saturatingAdd
 dsimp only
 have hmax:0<usizeMax:=by decide
 split_ifs with hparts hcopy
 · simp only [SseUsage.mk.injEq,and_true]
   omega
 · simp only [SseUsage.mk.injEq,true_and]
   omega
 · simp only [SseUsage.mk.injEq,and_true]
   omega

theorem toolsOf_nil_iff (blocks:List ClientBlock) :
  toolsOf fromStr blocks=[] ↔ ¬∃ block∈blocks,block.kind=.toolUse:=by
 unfold toolsOf
 rw [List.map_eq_nil_iff,List.filter_eq_nil_iff]
 simp

theorem textBlock_nil_iff (text:Text) : textBlock text=[] ↔ text=[]:=by
 cases text with
 | nil=>exact ⟨fun _=>rfl,fun _=>rfl⟩
 | cons char text=>exact ⟨(nomatch ·),(nomatch ·)⟩

theorem gathered_shows {blocks:List ClientBlock} : ∀ {text:Text},
  text≠[] ∨ shows blocks=true → gathered text blocks≠[]:=by
 induction blocks with
 | nil=>
  intro text h
  rcases h with h | h
  · exact fun hnil=>h ((textBlock_nil_iff text).mp hnil)
  · exact (nomatch h)
 | cons block blocks ih=>
  intro text h
  obtain ⟨index,kind,deltas⟩:=block
  cases kind with
  | text=>
   refine @ih (text++(ClientBlock.mk index .text deltas).text) ?_
   rcases h with h | h
   · exact Or.inl (List.append_ne_nil_of_left_ne_nil h _)
   · unfold shows at h
     rw [List.any_cons,Bool.or_eq_true,decide_eq_true_eq] at h
     rcases h with ⟨-,h⟩ | h
     · exact Or.inl (List.append_ne_nil_of_right_ne_nil _ h)
     · exact Or.inr h
  | thinking=>
   by_cases htouched:(ClientBlock.mk index .thinking deltas).touched=true
   · rw [gathered_touched _ _ htouched]
     exact List.append_ne_nil_of_right_ne_nil _ (List.cons_ne_nil _ _)
   · rw [gathered_untouched _ _ htouched]
     refine ih (h.imp_right fun h=>?_)
     unfold shows at h
     rwa [List.any_cons,decide_eq_false (fun hkind=>BlockKind.noConfusion hkind.1),
      Bool.false_or] at h
  | toolUse id name=>
   refine @ih text (h.imp_right fun h=>?_)
   unfold shows at h
   rwa [List.any_cons,decide_eq_false (fun hkind=>BlockKind.noConfusion hkind.1),
    Bool.false_or] at h

theorem takeBlocks_usage (fromStr:String → Option JsonValue) (estimatedInput:ℕ)
  (usage:SseUsage) (blocks:List ClientBlock) :
  pushUsage (takeBlocks fromStr estimatedInput usage blocks) usage = takeBlocks fromStr estimatedInput usage blocks :=
 pushUsage_takeBlocks fromStr estimatedInput usage usage blocks

theorem Settled.answer {reading:Reading} (h:Settled fromStr estimatedInput reading client) (messageId model:String) :
  (hasUseful reading.acc=true ↔ answers client.blocks) ∧
   (answers client.blocks →
    (reading.acc.intoMessageJson messageId model).content =
     gathered [] client.blocks++toolsOf fromStr client.blocks ∧
    (reading.acc.intoMessageJson messageId model).stopReason=stopReasonOf client.blocks ∧
    ((reading.acc.intoMessageJson messageId model).usage=client.usage ↔
     UsageKept estimatedInput client.usage)):=by
 have hcalm:Calm (pushUsage (.newMode estimatedInput false) client.usage):=⟨rfl,rfl⟩
 obtain ⟨hend,hcontent,htools,hvisible,hestimate⟩:=hcalm.gathers fromStr h.kinds
 have husage:=takeBlocks_usage fromStr estimatedInput client.usage client.blocks
 rw [h.acc]
 change Calm (takeBlocks fromStr estimatedInput client.usage client.blocks) at hend
 change (takeBlocks fromStr estimatedInput client.usage client.blocks).content ++
  textBlock (takeBlocks fromStr estimatedInput client.usage client.blocks).text =
   gathered [] client.blocks at hcontent
 change (takeBlocks fromStr estimatedInput client.usage client.blocks).tools.map _ =
  toolsOf fromStr client.blocks at htools
 change (takeBlocks fromStr estimatedInput client.usage client.blocks).hasVisibleText = shows client.blocks at hvisible
 change (takeBlocks fromStr estimatedInput client.usage client.blocks).estimatedInput = estimatedInput at hestimate
 generalize takeBlocks fromStr estimatedInput client.usage client.blocks=acc at *
 have hnone:acc.tools.isEmpty=true ↔ ¬∃ block∈client.blocks,block.kind=.toolUse:=by
  rw [← toolsOf_nil_iff,← htools,List.map_eq_nil_iff,List.isEmpty_iff]
 constructor
 · unfold hasUseful answers
   rw [hend.mode,hvisible,Bool.false_and,Bool.or_false,Bool.or_eq_true,Bool.not_eq_true',
    ← Bool.not_eq_true,hnone,not_not]
 · intro hanswers
   have hmode:¬(acc.compactionMode&&acc.text.isEmpty)=true:=by
    rw [hend.mode]
    exact Bool.false_ne_true
   have hshown:(if !acc.text.isEmpty||acc.tools.isEmpty&&acc.content.isEmpty then
     [MessageBlock.text acc.text] else [])=textBlock acc.text:=by
    unfold textBlock
    by_cases htext:acc.text.isEmpty=true
    · have hkept:¬(acc.tools.isEmpty&&acc.content.isEmpty)=true:=by
       rw [Bool.and_eq_true,hnone]
       rintro ⟨hfree,hnil⟩
       have hgathered:gathered [] client.blocks≠[] :=
        gathered_shows (Or.inr (hanswers.resolve_right hfree))
       rw [← hcontent,List.isEmpty_iff.mp hnil,List.isEmpty_iff.mp htext] at hgathered
       exact hgathered rfl
      rw [htext,if_pos rfl,Bool.not_true,Bool.false_or,if_neg hkept]
    · rw [if_neg htext,Bool.not_eq_true _ |>.mp htext]
      rfl
   unfold AnthropicJsonAcc.intoMessageJson
   rw [hend.flushThinking]
   dsimp only
   rw [if_neg hmode,hshown,htools,hcontent]
   refine ⟨rfl,?_,?_⟩
   · unfold stopReasonOf
     by_cases hfree:acc.tools.isEmpty=true
     · rw [if_pos hfree,if_neg (hnone.mp hfree)]
     · rw [if_neg hfree,if_pos (not_not.mp fun hnot=>hfree (hnone.mpr hnot))]
   · rw [← usageKept_iff,← hestimate]
     unfold AnthropicJsonAcc.normalizedUsage
     rw [← husage]
     rfl

theorem agrees_iff_settled {reading:Reading} (h:Settled fromStr estimatedInput reading client) {events:List SseEvent}
  (hreading:events.foldl (Reading.read fromStr) (start estimatedInput)=reading) (messageId model:String) :
  Agrees fromStr (anthropicJsonFromSse fromStr (events.map .framed) messageId model estimatedInput) client ↔
   answers client.blocks ∧ (∀ block∈client.blocks,block.Readable fromStr) ∧
    Parted false client.blocks ∧ ToolsLast client.blocks ∧ client.stopReason=some (stopReasonOf client.blocks) ∧
    UsageKept estimatedInput client.usage:=by
 obtain ⟨huseful,hmessage⟩:=h.answer messageId model
 unfold Agrees anthropicJsonFromSse
 rw [readAll_framed,hreading]
 dsimp only
 rw [h.toolBlocks]
 change (∃ message,(if hasUseful reading.acc=true then
  Except.ok (reading.acc.intoMessageJson messageId model) else _)=_ ∧ _) ↔ _
 by_cases hanswers:answers client.blocks
 · obtain ⟨hcontent,hstop,husage⟩:=hmessage hanswers
   rw [if_pos (huseful.mpr hanswers)]
   constructor
   · rintro ⟨message,heq,hreadable,hsame,hreason,hcounts⟩
     cases heq
     rw [hcontent] at hsame
     obtain ⟨hparted,hlast⟩:=(gathered_eq_iff fromStr _).mp hsame
     exact ⟨hanswers,hreadable,hparted,hlast,hstop ▸ hreason,husage.mp hcounts⟩
   · rintro ⟨-,hreadable,hparted,hlast,hreason,hcounts⟩
     refine ⟨_,rfl,hreadable,?_,?_,husage.mpr hcounts⟩
     · exact hcontent.trans ((gathered_eq_iff fromStr _).mpr ⟨hparted,hlast⟩)
     · rw [hstop,hreason]
 · rw [if_neg fun htrue=>hanswers (huseful.mp htrue)]
   constructor
   · rintro ⟨message,heq,-⟩
     exact (nomatch heq)
   · rintro ⟨hfalse,-⟩
     exact absurd hfalse hanswers

end whole

end CursorProxy.SandCollected
