import Mathlib

namespace CursorProxy.DeferredStarts

def messageStart : List UInt8 :=
 [101,118,101,110,116,58,32,109,101,115,115,97,103,101,95,115,116,97,114,116,10]

def maxHeld : ℕ := 64*1024

/-- The bytes up to the first blank line, and what is behind it. -/
def nextEvent : List UInt8 → Option (List UInt8×List UInt8)
 | []=>none
 | 10::10::rest=>some ([10,10],rest)
 | byte::rest=>(nextEvent rest).map fun (event,rest)=>(byte::event,rest)

theorem nextEvent_append {bytes event rest:List UInt8} (h:nextEvent bytes=some (event,rest)) :
  bytes=event++rest ∧ [10,10] <:+ event ∧ ∀ more,nextEvent (bytes++more)=some (event,rest++more):=by
 fun_induction nextEvent bytes generalizing event rest with
 | case1=>cases h
 | case2 tail=>
  obtain ⟨rfl,rfl⟩:=Prod.mk.inj (Option.some.inj h)
  exact ⟨rfl,List.suffix_rfl,fun _=>rfl⟩
 | case3 byte tail hblank ih=>
  obtain ⟨⟨event,rest⟩,hnext,heq⟩:=Option.map_eq_some_iff.mp h
  obtain ⟨rfl,rfl⟩:=Prod.mk.inj heq
  obtain ⟨hbytes,hend,hmore⟩:=ih hnext
  refine ⟨congrArg (byte :: ·) hbytes,hend.trans (List.suffix_cons _ _),fun more=>?_⟩
  rw [List.cons_append,nextEvent.eq_3,hmore]
  · rfl
  · intro rest' hbyte htail
    cases tail with
    | nil=>cases hnext
    | cons next tail=>
     obtain ⟨rfl,-⟩:=List.cons.inj htail
     exact hblank tail hbyte rfl

/-- Only a complete event is taken for a start. -/
theorem starts_event {bytes event rest:List UInt8} (h:nextEvent bytes=some (event,rest)) :
  messageStart <+: bytes ↔ messageStart <+: event:=by
 obtain ⟨rfl,hend,-⟩:=nextEvent_append h
 constructor
 · intro hstart
   refine List.prefix_of_prefix_length_le hstart (List.prefix_append _ _) ?_
   by_contra hshort
   have hevent:=List.prefix_of_prefix_length_le (List.prefix_append event rest) hstart (by omega)
   have hinfix : [10,10] <:+: messageStart:=hend.isInfix.trans hevent.isInfix
   exact absurd hinfix (by decide)
 · exact fun hstart=>hstart.trans (List.prefix_append _ _)

theorem nextEvent_shorter {bytes event rest:List UInt8}
  (h:nextEvent bytes=some (event,rest)) : rest.length<bytes.length:=by
 obtain ⟨rfl,hend,-⟩:=nextEvent_append h
 have hlength:=hend.length_le
 rw [List.length_append]
 simp at hlength
 omega

def stripSandBridgeMessageStart (bytes:List UInt8) : List UInt8 :=
 match _h:nextEvent bytes with
 | none=>bytes
 | some (event,rest)=>
  if messageStart <+: event then rest else event++stripSandBridgeMessageStart rest
termination_by bytes.length
decreasing_by exact nextEvent_shorter _h

theorem strip_none {bytes:List UInt8} (h:nextEvent bytes=none) : stripSandBridgeMessageStart bytes=bytes:=by
 rw [stripSandBridgeMessageStart]
 split
 · rfl
 · rename_i hnext
   exact absurd (h.symm.trans hnext) nofun

theorem strip_start {bytes event rest:List UInt8} (h:nextEvent bytes=some (event,rest))
  (hstart:messageStart <+: bytes) : stripSandBridgeMessageStart bytes=rest:=by
 rw [stripSandBridgeMessageStart]
 split
 · rename_i hnext
   exact absurd (h.symm.trans hnext) nofun
 · rename_i hnext
   obtain ⟨rfl,rfl⟩:=Prod.mk.inj (Option.some.inj (h.symm.trans hnext))
   rw [if_pos ((starts_event h).mp hstart)]

section
variable {ε:Type*} (errorBytes:ε → List UInt8)

/-- The chunks that are sent of a successful response, with the bytes held back and whether the
start is behind. -/
def forward : List UInt8 → Bool → List (Except ε (List UInt8)) → List (List UInt8)
 | _,_,[]=>[]
 | _,_,.error error::_=>[errorBytes error]
 | held,true,.ok chunk::items=>chunk::forward held true items
 | held,false,.ok chunk::items=>
  let held:=held++chunk
  match nextEvent held with
  | none=>if maxHeld<held.length then held::forward [] true items
   else forward held false items
  | some (_,rest)=>
   let held:=if messageStart <+: held then rest else held
   if held.isEmpty then forward [] true items else held::forward [] true items

def forwardDeferredSandResponse (chunks:List (Except ε (List UInt8))) : List (List UInt8) :=
 forward errorBytes [] false chunks

def sent (chunks:List (List UInt8)) : List UInt8 :=
 (forwardDeferredSandResponse errorBytes (chunks.map .ok)).flatten

end

/-- The first start is removed, and a stream that does not begin with one is whole. -/
def Stripped (stream out:List UInt8) : Prop :=
 out=stripSandBridgeMessageStart stream ∧ (¬ messageStart <+: stream → out=stream)

/-- Too many bytes arrive before a blank line. -/
def Late (held:List UInt8) (chunks:List (List UInt8)) : Prop :=
 ∃ front,front <+: chunks ∧ maxHeld<(held++front.flatten).length ∧ nextEvent (held++front.flatten)=none

/-- A late stream has no start, any other one begins with its start or has none, and one
without a blank line is empty. -/
def Met (chunks:List (List UInt8)) : Prop :=
 (Late [] chunks → stripSandBridgeMessageStart chunks.flatten=chunks.flatten) ∧
  (¬ Late [] chunks → (nextEvent chunks.flatten).isSome →
   messageStart <+: chunks.flatten ∨ stripSandBridgeMessageStart chunks.flatten=chunks.flatten) ∧
  (¬ Late [] chunks → nextEvent chunks.flatten=none → chunks.flatten=[])

variable {ε:Type*} {errorBytes:ε → List UInt8} {held:List UInt8} {chunks:List (List UInt8)}

theorem forward_rest : (forward errorBytes held true (chunks.map .ok)).flatten = chunks.flatten:=by
 induction chunks with
 | nil=>rfl
 | cons chunk chunks ih=>exact congrArg (chunk ++ ·) ih

theorem late_cons {chunk:List UInt8} (hshort:held.length ≤ maxHeld) :
  Late held (chunk::chunks) ↔
   (maxHeld<(held++chunk).length ∧ nextEvent (held++chunk)=none) ∨ Late (held++chunk) chunks:=by
 constructor
 · rintro ⟨front,hfront,hlong,hnone⟩
   cases front with
   | nil=>
    rw [List.flatten_nil,List.append_nil] at hlong
    omega
   | cons first front=>
    obtain ⟨rfl,htail⟩:=List.cons_prefix_cons.mp hfront
    rw [List.flatten_cons,← List.append_assoc] at hlong hnone
    exact Or.inr ⟨front,htail,hlong,hnone⟩
 · rintro (⟨hlong,hnone⟩ | ⟨front,hfront,hlong,hnone⟩)
   · exact ⟨[chunk],List.cons_prefix_cons.mpr ⟨rfl,List.nil_prefix⟩,by simpa using hlong,
      by simpa using hnone⟩
   · exact ⟨chunk::front,List.cons_prefix_cons.mpr ⟨rfl,hfront⟩,by simpa using hlong,
      by simpa using hnone⟩

theorem not_late {event rest:List UInt8} (h:nextEvent held=some (event,rest)) : ¬ Late held chunks:=by
 rintro ⟨front,-,-,hnone⟩
 rw [(nextEvent_append h).2.2] at hnone
 cases hnone

/-- The chunks matter only in whether the blank line is late. -/
theorem forward_held (hshort:held.length ≤ maxHeld) (hheld:nextEvent held=none) :
  (Late held chunks → (forward errorBytes held false (chunks.map .ok)).flatten = held++chunks.flatten) ∧
  (¬ Late held chunks → (forward errorBytes held false (chunks.map .ok)).flatten =
   match nextEvent (held++chunks.flatten) with
   | none=>[]
   | some (_,rest)=>
    if messageStart <+: held++chunks.flatten then rest else held++chunks.flatten):=by
 induction chunks generalizing held with
 | nil=>
  refine ⟨?_,fun _=>by rw [List.flatten_nil,List.append_nil,hheld]; rfl⟩
  rintro ⟨front,hfront,hlong,-⟩
  rw [List.prefix_nil.mp hfront,List.flatten_nil,List.append_nil] at hlong
  omega
 | cons chunk chunks ih=>
  rw [late_cons hshort,List.map_cons,forward,List.flatten_cons,← List.append_assoc]
  generalize held++chunk=held at *
  cases hnext:nextEvent held with
  | none=>
   dsimp only
   by_cases hlong:maxHeld<held.length
   · rw [if_pos hlong,List.flatten_cons,forward_rest]
     exact ⟨fun _=>rfl,fun h=>absurd (Or.inl ⟨hlong,rfl⟩) h⟩
   · rw [if_neg hlong]
     simpa [hlong] using ih (by omega) hnext
  | some cut=>
   obtain ⟨event,rest⟩:=cut
   have hall:=(nextEvent_append hnext).2.2 chunks.flatten
   have hstarts:messageStart <+: held++chunks.flatten ↔ messageStart <+: held :=
    (starts_event hall).trans (starts_event hnext).symm
   refine ⟨fun h=>absurd (h.resolve_left nofun) (not_late hnext),fun _=>?_⟩
   rw [hall]
   simp only [hstarts,List.isEmpty_iff]
   split_ifs with hstart hempty hempty
   · rw [forward_rest,hempty,List.nil_append]
   · rw [List.flatten_cons,forward_rest]
   · rw [hempty] at hnext
     cases hnext
   · rw [List.flatten_cons,forward_rest]

theorem stripped_iff (chunks:List (List UInt8)) : Stripped chunks.flatten (sent errorBytes chunks) ↔ Met chunks:=by
  have hsent:=@forward_held ε errorBytes [] chunks (Nat.zero_le _) rfl
  rw [List.nil_append] at hsent
  obtain ⟨hlate,hearly⟩:=hsent
  unfold Stripped Met sent forwardDeferredSandResponse
  generalize chunks.flatten=stream at *
  by_cases h:Late [] chunks
  · rw [hlate h]
    constructor
    · rintro ⟨hsame,-⟩
      exact ⟨fun _=>hsame.symm,fun hnot=>absurd h hnot,fun hnot=>absurd h hnot⟩
    · exact fun hmet=>⟨(hmet.1 h).symm,fun _=>rfl⟩
  · rw [hearly h]
    cases hnext:nextEvent stream with
    | none=>
      rw [strip_none hnext]
      constructor
      · rintro ⟨hempty,-⟩
        exact ⟨fun _=>rfl,fun _ _=>Or.inr rfl,fun _ _=>hempty.symm⟩
      · exact fun hmet=>⟨(hmet.2.2 h rfl).symm,fun _=>(hmet.2.2 h rfl).symm⟩
    | some cut=>
      obtain ⟨event,rest⟩:=cut
      dsimp only
      by_cases hstart:messageStart <+: stream
      · rw [if_pos hstart,strip_start hnext hstart]
        exact iff_of_true ⟨rfl,absurd hstart⟩
          ⟨fun hlate=>absurd hlate h,fun _ _=>Or.inl hstart,fun _ hnone=>nomatch hnone⟩
      · rw [if_neg hstart]
        constructor
        · rintro ⟨hsame,-⟩
          exact ⟨fun _=>hsame.symm,fun _ _=>Or.inr hsame.symm,fun _ hnone=>nomatch hnone⟩
        · exact fun hmet=>⟨((hmet.2.1 h rfl).resolve_left hstart).symm,fun _=>rfl⟩

/-- A comment without its blank line is lost. -/
theorem comment_lost : ¬ Stripped [58,10] (sent (fun error:Empty=>nomatch error) [[58,10]]):=by
  rintro ⟨-,h⟩
  exact absurd (h (by decide)) (by decide)

end CursorProxy.DeferredStarts
