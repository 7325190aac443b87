import CursorProxy.LengthFrames
import CursorProxy.XmlElements

/-! A live run is registered under a key of its session and its agent; an account is folded into
the agent. A string is the list of its characters, its `len` the bytes of its encoding. -/
namespace CursorProxy.LiveRunKeys
open ToolNames XmlElements LengthFrames

/-- The parent agent and the other fields are not read by the keys. -/
structure LiveRunIdentity where
 sessionId : Text
 agentId : Option Text
 accountKey : Option Text

def parentRunPrefix : Text := "p:".toList
def agentRunPrefix : Text := "a:".toList
def accountScopedAgentPrefix : Text := "acctv1:".toList

def len (text:Text) : ℕ := size Char.utf8Size text
def decimal (n:ℕ) : Text := Nat.toDigits 10 n

/-- `map(str::trim).filter(|id| !id.is_empty())`. -/
def present (value:Option Text) : Option Text :=
 (value.map trim).filter fun id=>!id.isEmpty

def liveRunKey (sessionId:Text) (agentId:Option Text) : Text :=
 match present agentId with
 | some agent=>agentRunPrefix++decimal (len sessionId) ++ ":".toList++sessionId ++
   decimal (len agent) ++ ":".toList++agent
 | none=>parentRunPrefix++decimal (len sessionId) ++ ":".toList++sessionId

def accountScopedAgentId (accountKey agentId:Option Text) : Option Text :=
 match present accountKey with
 | none=>present agentId
 | some account=>
  let agent:=(present agentId).getD []
  some (accountScopedAgentPrefix++decimal (len account) ++ ":".toList++account ++
   ":".toList++decimal (len agent) ++ ":".toList++agent)

def liveRunKeyFor (identity:LiveRunIdentity) : Text :=
 liveRunKey identity.sessionId (accountScopedAgentId identity.accountKey identity.agentId)

/-- `parse::<usize>`. A number beyond the machine word is refused by the source; here it
stays a number, and no remainder is that long. -/
def parseUsize (text:Text) : Option ℕ :=
 let digits:=(stripPrefix "+".toList text).getD text
 if digits.isEmpty||!digits.all Char.isDigit then none else some (Nat.ofDigitChars 10 digits 0)

def claudeSessionOf (runKey:Text) : Text :=
 match (stripPrefix parentRunPrefix runKey).or (stripPrefix agentRunPrefix runKey) with
 | none=>runKey
 | some encoded=>match splitOnce ":".toList encoded with
  | none=>runKey
  | some (length,remainder)=>match parseUsize length with
   | none=>runKey
   | some length=>(take Char.utf8Size length remainder).getD runKey

theorem decimal_digits (n:ℕ) : ∀ char∈decimal n,char.isDigit=true :=
 fun _ hmem=>Nat.isDigit_of_mem_toDigits (by decide) (by decide) hmem

theorem decimal_injective : Function.Injective decimal:=by
 intro m n heq
 have hread:=congrArg (fun digits=>Nat.ofDigitChars 10 digits 0) heq
 simp only [decimal,Nat.ofDigitChars_ten_toDigits] at hread
 exact hread

theorem colon_not_decimal (n:ℕ) : ':' ∉ decimal n :=
 fun hmem=>absurd (decimal_digits n ':' hmem) (by decide)

theorem parseUsize_decimal (n:ℕ) : parseUsize (decimal n)=some n:=by
 have hplus:stripPrefix "+".toList (decimal n)=none:=by
  unfold stripPrefix
  rw [if_neg]
  intro hplus
  have hmem : '+' ∈ decimal n:=(List.isPrefixOf_iff_prefix.mp hplus).subset (by decide)
  exact absurd (decimal_digits n '+' hmem) (by decide)
 have hall:(decimal n).all Char.isDigit=true:=List.all_eq_true.mpr (decimal_digits n)
 have hfull:(decimal n).isEmpty=false:=by
  rw [List.isEmpty_eq_false_iff]
  exact Nat.toDigits_ne_nil
 unfold parseUsize
 simp only [hplus,Option.getD_none,hfull,hall,Bool.not_true,Bool.or_self,Bool.false_eq_true,if_false]
 exact congrArg some Nat.ofDigitChars_ten_toDigits

def framed (text:Text) : Text := frame Char.utf8Size decimal ':' text

theorem framed_eq (text:Text) : framed text=decimal (len text) ++ ":".toList++text:=by
 rw [List.append_assoc]
 rfl

theorem framed_append_inj {text other u v:Text} (heq:framed text++u=framed other++v) : text=other ∧ u=v :=
 frame_append_inj Char.utf8Size_pos decimal_injective colon_not_decimal heq

theorem framed_inj {text other:Text} (heq:framed text=framed other) : text=other :=
 frame_inj Char.utf8Size_pos decimal_injective colon_not_decimal heq

def accountComponent (account agent:Text) : Text :=
 accountScopedAgentPrefix++(framed account ++ ':' :: framed agent)

theorem accountComponent_inj {account agent account' agent':Text}
  (heq:accountComponent account agent=accountComponent account' agent') : account=account' ∧ agent=agent':=by
 have haccount:=framed_append_inj (List.append_cancel_left heq)
 exact ⟨haccount.1,framed_inj (List.cons.inj haccount.2).2⟩

theorem accountScopedAgentId_eq (accountKey agentId:Option Text) :
  accountScopedAgentId accountKey agentId=match present accountKey with
   | none=>present agentId
   | some account=>some (accountComponent account ((present agentId).getD [])):=by
 unfold accountScopedAgentId
 cases present accountKey with
 | none=>rfl
 | some account=>
  simp only [accountComponent,framed_eq,List.append_assoc]
  rfl

theorem trim_last (text:Text) (h:trim text≠[]) : isWhitespace ((trim text).getLast h)≠true :=
 List.rdropWhile_last_not isWhitespace _ h

theorem trim_trim (text:Text) : trim (trim text)=trim text:=by
 have hhead:trimStart (trim text)=trim text:=by
  have hstart:trimStart (trimStart text)=trimStart text:=List.dropWhile_idempotent _ _
  have hfront:trim text <+: trimStart text := List.rdropWhile_prefix isWhitespace _
  cases htrim:trim text with
  | nil=>rfl
  | cons char rest=>
   rw [htrim] at hfront
   obtain ⟨more,hmore⟩:=hfront
   apply List.dropWhile_cons_of_neg
   intro hblank
   rw [← hmore,List.cons_append] at hstart
   unfold trimStart at hstart
   rw [List.dropWhile_cons_of_pos hblank] at hstart
   have hlength:=congrArg List.length hstart
   have hless:=List.length_dropWhile_le isWhitespace (rest++more)
   rw [List.length_cons] at hlength
   omega
 unfold trim at hhead ⊢
 rw [hhead]
 exact List.rdropWhile_idempotent isWhitespace _

theorem present_some {value:Option Text} {text:Text} (h:present value=some text) : trim text=text ∧ text≠[]:=by
 unfold present at h
 obtain ⟨hvalue,hfull⟩:=Option.filter_eq_some_iff.mp h
 obtain ⟨raw,-,rfl⟩:=Option.map_eq_some_iff.mp hvalue
 refine ⟨trim_trim raw,?_⟩
 rintro hnil
 rw [hnil] at hfull
 exact absurd hfull (by decide)

theorem present_of_trimmed {text:Text} (htrim:trim text=text) (hfull:text≠[]) : present (some text)=some text:=by
 unfold present
 rw [Option.map_some,htrim,Option.filter_some,if_pos]
 rw [Bool.not_eq_true',List.isEmpty_eq_false_iff]
 exact hfull

theorem trim_eq_self {char last:Char} {middle:Text} (hchar:isWhitespace char=false)
  (hlast:isWhitespace last=false) : trim (char::(middle++[last]))=char::(middle++[last]):=by
 have hstart:trimStart (char::(middle++[last]))=char::(middle++[last]):=by
  apply List.dropWhile_cons_of_neg
  rw [hchar]
  decide
 unfold trim
 rw [hstart,← List.cons_append]
 apply List.rdropWhile_concat_neg
 rw [hlast]
 decide

theorem trim_accountComponent (account:Text) {agent:Text} (hagent:trim agent=agent) :
  trim (accountComponent account agent)=accountComponent account agent:=by
 obtain ⟨middle,last,hsplit,hlast⟩ : ∃ middle last,
   accountComponent account agent = 'a' :: (middle++[last]) ∧ isWhitespace last=false:=by
  rcases List.eq_nil_or_concat' agent with hnil | ⟨front,last,hconcat⟩
  · refine ⟨"cctv1:".toList++(framed account ++ ':' :: decimal 0),':',?_,by decide⟩
    rw [hnil]
    simp only [accountComponent,framed_eq,List.append_assoc,List.cons_append,List.append_nil]
    rfl
  · refine ⟨"cctv1:".toList++(framed account ++ ':' :: (decimal (len agent) ++ ':' :: front)),last,?_,?_⟩
    · conv_lhs=>rw [accountComponent,framed_eq agent,hconcat]
      simp only [hconcat,List.append_assoc,List.cons_append]
      rfl
    · have hinked:=trim_last agent
      rw [hagent,hconcat] at hinked
      have hfull:=hinked (by simp)
      rw [List.getLast_append_singleton] at hfull
      exact Bool.eq_false_iff.mpr hfull
 rw [hsplit]
 exact trim_eq_self (by decide) hlast

theorem present_present (value:Option Text) : present (present value)=present value:=by
 cases hvalue:present value with
 | none=>rfl
 | some text=>exact present_of_trimmed (present_some hvalue).1 (present_some hvalue).2

theorem trim_present (value:Option Text) : trim ((present value).getD [])=(present value).getD []:=by
 cases hvalue:present value with
 | none=>rfl
 | some text=>exact (present_some hvalue).1

theorem present_accountScopedAgentId (accountKey agentId:Option Text) :
  present (accountScopedAgentId accountKey agentId) = accountScopedAgentId accountKey agentId:=by
 rw [accountScopedAgentId_eq]
 cases present accountKey with
 | none=>exact present_present agentId
 | some account=>
  apply present_of_trimmed (trim_accountComponent account (trim_present agentId))
  exact List.cons_ne_nil _ _

theorem liveRunKey_eq (sessionId:Text) (agentId:Option Text) : liveRunKey sessionId agentId=match present agentId with
      | some agent=>agentRunPrefix++(framed sessionId++framed agent)
      | none=>parentRunPrefix++framed sessionId:=by
 unfold liveRunKey
 cases present agentId with
 | none=>simp only [framed_eq,List.append_assoc]
 | some agent=>simp only [framed_eq,List.append_assoc]

theorem liveRunKey_inj {session session':Text} {agent agent':Option Text}
  (heq:liveRunKey session agent=liveRunKey session' agent') : session=session' ∧ present agent=present agent':=by
 have hletters:∀ u v : Text, agentRunPrefix++u ≠ parentRunPrefix++v:=by
  intro u v hsame
  exact absurd (List.cons.inj hsame).1 (by decide)
 rw [liveRunKey_eq,liveRunKey_eq] at heq
 cases hagent:present agent with
 | none=>
  cases hagent':present agent' with
  | none=>
   rw [hagent,hagent'] at heq
   exact ⟨framed_inj (List.append_cancel_left heq),rfl⟩
  | some name'=>
   rw [hagent,hagent'] at heq
   exact absurd heq.symm (hletters _ _)
 | some name=>
  cases hagent':present agent' with
  | none=>
   rw [hagent,hagent'] at heq
   exact absurd heq (hletters _ _)
  | some name'=>
   rw [hagent,hagent'] at heq
   have hsession:=framed_append_inj (List.append_cancel_left heq)
   exact ⟨hsession.1,congrArg some (framed_inj hsession.2)⟩

theorem liveRunKeyFor_inj {left right:LiveRunIdentity} (heq:liveRunKeyFor left=liveRunKeyFor right) :
  left.sessionId=right.sessionId ∧ accountScopedAgentId left.accountKey left.agentId =
   accountScopedAgentId right.accountKey right.agentId:=by
 have hparts:=liveRunKey_inj heq
 rw [present_accountScopedAgentId,present_accountScopedAgentId] at hparts
 exact hparts

theorem claudeSessionOf_framed {runKey session:Text} (rest:Text)
  (hkey:(stripPrefix parentRunPrefix runKey).or (stripPrefix agentRunPrefix runKey) =
   some (framed session++rest)) : claudeSessionOf runKey=session:=by
 have hsplit:splitOnce ":".toList (framed session++rest) = some (decimal (len session),session++rest):=by
  unfold framed
  rw [frame_append]
  exact splitOnce_single _ _ (colon_not_decimal _)
 have htake:take Char.utf8Size (len session) (session++rest)=some session :=
  take_append Char.utf8Size_pos session rest
 unfold claudeSessionOf
 simp only [hkey,hsplit,parseUsize_decimal,htake,Option.getD_some]

theorem claudeSessionOf_liveRunKey (sessionId:Text) (agentId:Option Text) :
  claudeSessionOf (liveRunKey sessionId agentId)=sessionId:=by
 rw [liveRunKey_eq]
 cases present agentId with
 | none=>
  apply claudeSessionOf_framed []
  dsimp only
  rw [stripPrefix_append,List.append_nil]
  rfl
 | some agent=>
  apply claudeSessionOf_framed (framed agent)
  dsimp only
  rw [stripPrefix_append]
  rfl

def SameRun (left right:LiveRunIdentity) : Prop :=
 left.sessionId=right.sessionId ∧ present left.agentId=present right.agentId ∧
  present left.accountKey=present right.accountKey

/-- An agent of no account has for its trimmed id the text that another identity of the session
folds its account and agent into. -/
def Impersonates (plain other:LiveRunIdentity) : Prop :=
 plain.sessionId=other.sessionId ∧ present plain.accountKey=none ∧
  ∃ account,present other.accountKey=some account ∧ present plain.agentId =
   some (accountComponent account ((present other.agentId).getD []))

theorem key_of_impersonates {plain other:LiveRunIdentity} (h:Impersonates plain other) :
  liveRunKeyFor plain=liveRunKeyFor other ∧ ¬SameRun plain other:=by
 obtain ⟨hsession,hplain,account,haccount,hagent⟩:=h
 refine ⟨?_,?_⟩
 · have hcomponent:accountScopedAgentId plain.accountKey plain.agentId =
     accountScopedAgentId other.accountKey other.agentId:=by
    rw [accountScopedAgentId_eq,accountScopedAgentId_eq,hplain,haccount]
    exact hagent
   unfold liveRunKeyFor
   rw [hsession,hcomponent]
 · intro hsame
   have haccounts:=hsame.2.2
   rw [hplain,haccount] at haccounts
   exact absurd haccounts (by simp)

theorem getD_nil_inj {agent agent':Option Text}
  (h:(present agent).getD []=(present agent').getD []) : present agent=present agent':=by
 cases hagent:present agent with
 | none=>
  cases hagent':present agent' with
  | none=>rfl
  | some name=>
   rw [hagent,hagent'] at h
   exact absurd h.symm (present_some hagent').2
 | some name=>
  cases hagent':present agent' with
  | none=>
   rw [hagent,hagent'] at h
   exact absurd h (present_some hagent).2
  | some name'=>
   rw [hagent,hagent'] at h
   exact congrArg some h

/-- Two identities share a key only when they are one run, or one of them has no account and
its agent spells out the account of the other. -/
theorem liveRunKeyFor_cases {left right:LiveRunIdentity} (heq:liveRunKeyFor left=liveRunKeyFor right) :
  SameRun left right ∨ Impersonates left right ∨ Impersonates right left:=by
 obtain ⟨hsession,hcomponent⟩:=liveRunKeyFor_inj heq
 rw [accountScopedAgentId_eq,accountScopedAgentId_eq] at hcomponent
 cases hleft:present left.accountKey with
 | none=>
  cases hright:present right.accountKey with
  | none=>
   rw [hleft,hright] at hcomponent
   exact Or.inl ⟨hsession,hcomponent,hleft.trans hright.symm⟩
  | some account=>
   rw [hleft,hright] at hcomponent
   exact Or.inr (Or.inl ⟨hsession,hleft,account,hright,hcomponent⟩)
 | some account=>
  cases hright:present right.accountKey with
  | none=>
   rw [hleft,hright] at hcomponent
   exact Or.inr (Or.inr ⟨hsession.symm,hright,account,hleft,hcomponent.symm⟩)
  | some account'=>
   rw [hleft,hright] at hcomponent
   have hparts:=accountComponent_inj (Option.some.inj hcomponent)
   have haccounts:present left.accountKey=present right.accountKey:=by
    rw [hleft,hright,hparts.1]
   exact Or.inl ⟨hsession,getD_nil_inj hparts.2,haccounts⟩

def scopedIdentity : LiveRunIdentity := ⟨"s".toList,some "agent".toList,some "acct".toList⟩
def plainIdentity : LiveRunIdentity := ⟨"s".toList,some "acctv1:4:acct:5:agent".toList,none⟩

end CursorProxy.LiveRunKeys
