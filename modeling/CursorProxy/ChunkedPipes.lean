import Mathlib

/-! A decoder makes items of inputs and a handler makes outputs of items. A chunk is decoded as a
whole before its items are handled, and nothing comes out of a chunk that fails. -/
namespace CursorProxy.ChunkedPipes

structure Pipe (ι σ α τ β ε:Type) where
 read : σ → ι → Except ε (List α×σ)
 handle : τ → α → Except ε (List β×τ)

/-- How many items have been handled, and the states of the two halves. -/
structure PipeState (σ τ:Type) where
 handled : ℕ
 decoder : σ
 handler : τ

variable {ι σ α τ β ε:Type}

namespace Pipe

/-- A failure says how many items came before it. -/
def readAll (p:Pipe ι σ α τ β ε) (s:σ) : List ι → Except (ℕ×ε) (List α×σ)
 | []=>.ok ([],s)
 | input::inputs=>match p.read s input with
  | .error error=>.error (0,error)
  | .ok (items,s)=>match p.readAll s inputs with
   | .error (count,error)=>.error (items.length+count,error)
   | .ok (more,s)=>.ok (items++more,s)

def handleAll (p:Pipe ι σ α τ β ε) (t:τ) : List α → Except (ℕ×ε) (List β×τ)
 | []=>.ok ([],t)
 | item::items=>match p.handle t item with
  | .error error=>.error (0,error)
  | .ok (out,t)=>match p.handleAll t items with
   | .error (count,error)=>.error (count+1,error)
   | .ok (more,t)=>.ok (out++more,t)

def push (p:Pipe ι σ α τ β ε) (s:PipeState σ τ) (chunk:List ι) : Except (ℕ×ε) (List β×PipeState σ τ) :=
 match p.readAll s.decoder chunk with
 | .error (count,error)=>.error (s.handled+count,error)
 | .ok (items,decoder)=>match p.handleAll s.handler items with
  | .error (count,error)=>.error (s.handled+count,error)
  | .ok (out,handler)=>.ok (out,⟨s.handled+items.length,decoder,handler⟩)

/-- What comes out before the first failure, and how the run ends. -/
def run (p:Pipe ι σ α τ β ε) (s:PipeState σ τ) : List (List ι) → List β×Except (ℕ×ε) (PipeState σ τ)
 | []=>([],.ok s)
 | chunk::chunks=>match p.push s chunk with
  | .error failure=>([],.error failure)
  | .ok (out,s)=>(out++(p.run s chunks).1,(p.run s chunks).2)

def singles (inputs:List ι) : List (List ι) := inputs.map fun input=>[input]

section laws
variable (p:Pipe ι σ α τ β ε)

theorem readAll_append (first second:List ι) : ∀ s:σ,p.readAll s (first++second) = match p.readAll s first with
 | .error failure=>.error failure
 | .ok (items,s)=>match p.readAll s second with
  | .error (count,error)=>.error (items.length+count,error)
  | .ok (more,s)=>.ok (items++more,s):=by
 induction first with
 | nil=>
  intro s
  change p.readAll s second=match p.readAll s second with
   | .error (count,error)=>.error (0+count,error)
   | .ok (more,s)=>.ok ([]++more,s)
  cases p.readAll s second with
  | error failure=>exact congrArg Except.error (Prod.ext (Nat.zero_add _).symm rfl)
  | ok read=>rfl
 | cons input inputs ih=>
  intro s
  rw [List.cons_append,readAll,readAll]
  cases p.read s input with
  | error error=>rfl
  | ok read=>
   dsimp only
   rw [ih]
   cases p.readAll read.2 inputs with
   | error failure=>rfl
   | ok more=>
    dsimp only
    cases p.readAll more.2 second with
    | error failure=>
     exact congrArg Except.error (Prod.ext (by
      rw [List.length_append]
      exact (Nat.add_assoc _ _ _).symm) rfl)
    | ok rest=>exact congrArg Except.ok (Prod.ext (List.append_assoc _ _ _).symm rfl)

theorem handleAll_append (first second:List α) : ∀ t:τ,p.handleAll t (first++second) = match p.handleAll t first with
 | .error failure=>.error failure
 | .ok (out,t)=>match p.handleAll t second with
  | .error (count,error)=>.error (first.length+count,error)
  | .ok (more,t)=>.ok (out++more,t):=by
 induction first with
 | nil=>
  intro t
  change p.handleAll t second=match p.handleAll t second with
   | .error (count,error)=>.error (0+count,error)
   | .ok (more,t)=>.ok ([]++more,t)
  cases p.handleAll t second with
  | error failure=>exact congrArg Except.error (Prod.ext (Nat.zero_add _).symm rfl)
  | ok handled=>rfl
 | cons item items ih=>
  intro t
  rw [List.cons_append,handleAll,handleAll]
  cases p.handle t item with
  | error error=>rfl
  | ok handled=>
   dsimp only
   rw [ih]
   cases p.handleAll handled.2 items with
   | error failure=>rfl
   | ok more=>
    dsimp only
    cases p.handleAll more.2 second with
    | error failure=>
     exact congrArg Except.error (Prod.ext (by
      rw [List.length_cons]
      omega) rfl)
    | ok rest=>exact congrArg Except.ok (Prod.ext (List.append_assoc _ _ _).symm rfl)

theorem push_append (first second:List ι) (s:PipeState σ τ) : p.push s (first++second) = match p.push s first with
 | .ok (out,s)=>(match p.push s second with
  | .ok (more,s)=>.ok (out++more,s)
  | .error failure=>.error failure)
 | .error failure=>match p.readAll s.decoder first with
  | .error _=>.error failure
  | .ok (items,decoder)=>match p.readAll decoder second with
   | .error (count,error)=>.error (s.handled+(items.length+count),error)
   | .ok _=>.error failure:=by
 unfold push
 rw [readAll_append]
 cases hfirst:p.readAll s.decoder first with
 | error failure=>rfl
 | ok read=>
  obtain ⟨items,decoder⟩:=read
  dsimp only
  cases hitems:p.handleAll s.handler items with
  | error failure=>
   dsimp only
   cases p.readAll decoder second with
   | error failure=>rfl
   | ok more=>
    dsimp only
    rw [handleAll_append,hitems]
  | ok handled=>
   obtain ⟨out,handler⟩:=handled
   dsimp only
   cases p.readAll decoder second with
   | error failure=>exact congrArg Except.error (Prod.ext (Nat.add_assoc _ _ _).symm rfl)
   | ok more=>
    obtain ⟨more,decoder'⟩:=more
    dsimp only
    rw [handleAll_append,hitems]
    dsimp only
    cases p.handleAll handler more with
    | error failure=>exact congrArg Except.error (Prod.ext (Nat.add_assoc _ _ _).symm rfl)
    | ok rest=>
     dsimp only
     rw [List.length_append,Nat.add_assoc]

/-! ### Cuts -/

theorem push_single_error {s:PipeState σ τ} {first second:List ι} {failure:ℕ×ε}
 {read:List α×σ} (hread:p.readAll s.decoder (first++second)=.ok read)
 (h:p.push s first=.error failure) : p.push s (first++second)=.error failure:=by
 rw [readAll_append] at hread
 rw [push_append,h]
 dsimp only
 cases hfirst:p.readAll s.decoder first with
 | error failure=>rfl
 | ok items=>
  rw [hfirst] at hread
  dsimp only at hread ⊢
  cases hsecond:p.readAll items.2 second with
  | error failure=>
   rw [hsecond] at hread
   exact (nomatch hread)
  | ok more=>rfl

theorem push_ok_split {s t:PipeState σ τ} {first second:List ι} {out:List β}
 (h:p.push s (first++second)=.ok (out,t)) : ∃ out' out'' middle,
  p.push s first=.ok (out',middle) ∧ p.push middle second=.ok (out'',t) ∧ out=out'++out'':=by
 rw [push_append] at h
 cases hfirst:p.push s first with
 | error failure=>
  rw [hfirst] at h
  dsimp only at h
  cases hread:p.readAll s.decoder first with
  | error failure=>
   rw [hread] at h
   exact (nomatch h)
  | ok items=>
   rw [hread] at h
   dsimp only at h
   cases hsecond:p.readAll items.2 second with
   | error failure=>
    rw [hsecond] at h
    exact (nomatch h)
   | ok more=>
    rw [hsecond] at h
    exact (nomatch h)
 | ok pushed=>
  obtain ⟨out',middle⟩:=pushed
  rw [hfirst] at h
  dsimp only at h
  cases hsecond:p.push middle second with
  | error failure=>
   rw [hsecond] at h
   exact (nomatch h)
  | ok rest=>
   obtain ⟨out'',last⟩:=rest
   rw [hsecond] at h
   obtain ⟨rfl,rfl⟩:=Prod.mk.inj (Except.ok.inj h)
   exact ⟨out',out'',middle,rfl,hsecond,rfl⟩

theorem run_ok (chunks:List (List ι)) : ∀ {s t:PipeState σ τ} {out:List β},
 p.push s chunks.flatten=.ok (out,t) → p.run s chunks=(out,.ok t):=by
 induction chunks with
 | nil=>
  intro s t out h
  obtain ⟨rfl,rfl⟩:=Prod.mk.inj (Except.ok.inj h)
  rfl
 | cons chunk chunks ih=>
  intro s t out h
  rw [List.flatten_cons] at h
  obtain ⟨out',out'',middle,hfirst,hrest,rfl⟩:=p.push_ok_split h
  rw [run,hfirst]
  dsimp only
  rw [ih hrest]

theorem push_of_run (chunks:List (List ι)) : ∀ {s t:PipeState σ τ} {out:List β},
 p.run s chunks=(out,.ok t) → p.push s chunks.flatten=.ok (out,t):=by
 induction chunks with
 | nil=>
  intro s t out h
  obtain ⟨rfl,hlast⟩:=Prod.mk.inj h
  obtain rfl:=Except.ok.inj hlast
  rfl
 | cons chunk chunks ih=>
  intro s t out h
  rw [run] at h
  rw [List.flatten_cons,push_append]
  cases hchunk:p.push s chunk with
  | error failure=>
   rw [hchunk] at h
   exact (nomatch (Prod.mk.inj h).2)
  | ok pushed=>
   obtain ⟨out',middle⟩:=pushed
   rw [hchunk] at h
   obtain ⟨rfl,hlast⟩:=Prod.mk.inj h
   dsimp only
   rw [ih (Prod.ext rfl hlast)]

theorem flatten_singles (inputs:List ι) : (singles inputs).flatten=inputs:=by
 induction inputs with
 | nil=>rfl
 | cons input inputs ih=>exact congrArg (input :: ·) ih

theorem run_singles_append (first second:List ι) : ∀ s:PipeState σ τ,
 p.run s (singles (first++second))=match p.run s (singles first) with
  | (out,.ok s)=>(out++(p.run s (singles second)).1,(p.run s (singles second)).2)
  | (out,.error failure)=>(out,.error failure):=by
 induction first with
 | nil=>exact fun s=>rfl
 | cons input inputs ih=>
  intro s
  change p.run s ([input]::singles (inputs++second))=match p.run s
   ([input]::singles inputs) with
   | (out,.ok s)=>(out++(p.run s (singles second)).1,(p.run s (singles second)).2)
   | (out,.error failure)=>(out,.error failure)
  rw [run,run]
  cases p.push s [input] with
  | error failure=>rfl
  | ok pushed=>
   obtain ⟨out,middle⟩:=pushed
   dsimp only
   rw [ih]
   generalize p.run middle (singles inputs)=rest
   obtain ⟨more,last⟩:=rest
   cases last with
   | error failure=>rfl
   | ok last=>exact Prod.ext (List.append_assoc _ _ _).symm rfl

theorem singles_failure (inputs:List ι) : ∀ {s:PipeState σ τ} {read:List α×σ},
 p.readAll s.decoder inputs=.ok read → ∀ failure:ℕ×ε,
  p.push s inputs=.error failure → (p.run s (singles inputs)).2=.error failure:=by
 induction inputs with
 | nil=>exact fun _ failure h=>(nomatch h)
 | cons input inputs ih=>
  intro s read hread failure h
  change (p.run s ([input]::singles inputs)).2=_
  rw [run]
  cases hone:p.push s [input] with
  | error failure'=>
   have hsame:=p.push_single_error hread hone
   exact congrArg Except.error (Except.error.inj (hsame.symm.trans h))
  | ok pushed=>
   obtain ⟨out,middle⟩:=pushed
   dsimp only
   have hsplit:p.push s ([input]++inputs)=.error failure:=h
   have hreadSplit:p.readAll s.decoder ([input]++inputs)=.ok read:=hread
   rw [push_append,hone] at hsplit
   dsimp only at hsplit
   have hmiddle:∃ read,p.readAll middle.decoder inputs=.ok read:=by
    rw [readAll_append] at hreadSplit
    unfold push at hone
    cases hfirst:p.readAll s.decoder [input] with
    | error failure=>
     rw [hfirst] at hone
     exact (nomatch hone)
    | ok items=>
     rw [hfirst] at hone hreadSplit
     dsimp only at hone hreadSplit
     cases hitems:p.handleAll s.handler items.1 with
     | error failure=>
      rw [hitems] at hone
      exact (nomatch hone)
     | ok handled=>
      rw [hitems] at hone
      obtain ⟨rfl,rfl⟩:=Prod.mk.inj (Except.ok.inj hone)
      dsimp only
      cases hrest:p.readAll items.2 inputs with
      | error failure=>
       rw [hrest] at hreadSplit
       exact (nomatch hreadSplit)
      | ok more=>exact ⟨more,rfl⟩
   obtain ⟨more,hmore⟩:=hmiddle
   cases hrest:p.push middle inputs with
   | ok rest=>
    rw [hrest] at hsplit
    exact (nomatch hsplit)
   | error failure'=>
    rw [hrest] at hsplit
    obtain rfl:=Except.error.inj hsplit
    exact ih hmore _ hrest

theorem push_read_error {s:PipeState σ τ} {inputs:List ι} {count:ℕ} {error:ε}
 (h:p.readAll s.decoder inputs=.error (count,error)) : p.push s inputs=.error (s.handled+count,error):=by
 unfold push
 rw [h]

theorem run_silent (chunks:List (List ι)) : ∀ {s:PipeState σ τ} {failure:ℕ×ε},
 p.push s chunks.flatten=.error failure →
  p.run s (singles chunks.flatten)=([],.error failure) → p.run s chunks=([],.error failure):=by
 induction chunks with
 | nil=>exact fun h=>(nomatch h)
 | cons chunk chunks ih=>
  intro s failure hwhole hsingles
  rw [List.flatten_cons] at hwhole hsingles
  rw [run_singles_append] at hsingles
  rw [run]
  cases hchunk:p.push s chunk with
  | ok pushed=>
   obtain ⟨out,middle⟩:=pushed
   have hok:=p.run_ok (singles chunk) (by rw [flatten_singles]; exact hchunk)
   rw [hok] at hsingles
   obtain ⟨hout,hfailure⟩:=Prod.mk.inj hsingles
   obtain ⟨rfl,hempty⟩:=List.append_eq_nil_iff.mp hout
   rw [push_append,hchunk] at hwhole
   dsimp only at hwhole ⊢
   have hrest:p.push middle chunks.flatten=.error failure:=by
    cases hrest:p.push middle chunks.flatten with
    | ok rest=>
     rw [hrest] at hwhole
     exact (nomatch hwhole)
    | error failure'=>
     rw [hrest] at hwhole
     exact hwhole
   rw [ih hrest (Prod.ext hempty hfailure)]
   rfl
  | error failure'=>
   dsimp only
   refine Prod.ext rfl ?_
   rw [push_append,hchunk] at hwhole
   dsimp only at hwhole
   cases hread:p.readAll s.decoder chunk with
   | error failure''=>
    rw [hread] at hwhole
    exact congrArg Except.error (Except.error.inj hwhole)
   | ok items=>
    have hmet:=p.singles_failure chunk hread _ hchunk
    generalize hfirst : p.run s (singles chunk)=first at hsingles hmet
    obtain ⟨out,last⟩:=first
    obtain rfl : last=.error failure':=hmet
    exact (Prod.mk.inj hsingles).2

/-- A whole input that fails: what comes out and where it fails is the same for all cuts exactly
if nothing comes out of the single inputs and no failure of the decoder hides theirs. -/
theorem cuts_agree_iff {s:PipeState σ τ} (inputs:List ι) {failure:ℕ×ε} (h:p.push s inputs=.error failure) :
 (∀ chunks,chunks.flatten=inputs → p.run s chunks=([],.error failure)) ↔
  (p.run s (singles inputs)).1=[] ∧ ∀ count error,
   p.readAll s.decoder inputs=.error (count,error) →
    (p.run s (singles inputs)).2=.error (s.handled+count,error):=by
 constructor
 · intro hall
   have hsingles:=hall (singles inputs) (flatten_singles inputs)
   refine ⟨congrArg Prod.fst hsingles,fun count error hread=>?_⟩
   rw [hsingles]
   exact congrArg Except.error (Except.error.inj (h.symm.trans (p.push_read_error hread)))
 · rintro ⟨hempty,hdecoder⟩ chunks rfl
   have hmet:(p.run s (singles chunks.flatten)).2=.error failure:=by
    cases hread:p.readAll s.decoder chunks.flatten with
    | ok read=>exact p.singles_failure _ hread _ h
    | error failure'=>
     rw [hdecoder _ _ hread]
     exact congrArg Except.error (Except.error.inj ((p.push_read_error hread).symm.trans h))
   exact p.run_silent chunks h (Prod.ext hempty hmet)

end laws

end Pipe

end CursorProxy.ChunkedPipes
