import CursorProxy.RetryPolicy
import CursorProxy.SseEvents

/-! Callers that share one failover state take accounts from snapshots of the registry. The hash,
the reader of tokens and the tables of limits and usage are parameters. -/
namespace CursorProxy.AccountFailover
open XmlElements SseEvents RetryPolicy

structure CursorAccountProfile where
 id : Text
 label : Option Text
 email : Option Text
 accessToken : Text
deriving DecidableEq

structure JwtClaims where
 sub : Option Text
 email : Option Text

structure FailoverEnv where
 parseJwtClaims : Text → Option JwtClaims
 /-- The hexadecimal digest of a text's bytes. -/
 sha256 : Text → Text

structure UsageEvidence where
 /-- `usage_percent >= 100.0` -/
 full : Bool
 hasAvailableUsage : Option Bool

/-- What the other tables answer while candidates are selected. -/
structure Moment where
 cursorAccountForModel : Text → Option Text
 policyRateLimitBreakerState : Text → Text → Text → Bool
 sandAccountRouteIsCooled : Text → Text → Bool
 cachedSandUsageEvidence : Text → Option UsageEvidence

def accountNamespace : Text := "claude-cursor-proxy:cursor-account:v1\x00".toList

def nonempty (text:Text) : Bool := !text.isEmpty

def cursorAccountDigest (env:FailoverEnv) (token:Text) : Text :=
 let claims:=env.parseJwtClaims token
 let subject:=((claims.bind JwtClaims.sub).map trim).filter nonempty
 let email:=(((claims.bind JwtClaims.email).map trim).filter nonempty).map toAsciiLowercase
 env.sha256 (accountNamespace++match subject,email with
  | some subject,_ => "sub\x00".toList++subject
  | none,some email => "email\x00".toList++email
  | none,none => "token\x00".toList++token)

/-- What is left of the pattern and the text, and what was left of them at the last `*`. -/
def globLoop (pattern text:List UInt8) (star:Option (List UInt8×List UInt8))
 (h:∀ s∈star,text.length ≤ s.2.length) : Bool :=
 match text,pattern with
 | [],pattern=>pattern.all fun byte=>byte=42
 | char::rest,byte::more=>
  if byte=63 ∨ byte=char then
   globLoop more rest star fun s hs=>(Nat.le_succ _).trans (h s hs)
  else if byte=42 then
   globLoop more (char::rest) (some (more,char::rest)) fun _ hs=>
    (Option.some.inj hs) ▸ le_rfl
  else match star with
   | some (more,_::rest)=>
    globLoop more rest (some (more,rest)) fun _ hs=>(Option.some.inj hs) ▸ le_rfl
   | _=>false
 | _::_,[]=>match star with
  | some (more,_::rest)=>
   globLoop more rest (some (more,rest)) fun _ hs=>(Option.some.inj hs) ▸ le_rfl
  | _=>false
termination_by ((star.map fun s=>s.2.length).getD (text.length+1),text.length,pattern.length)
decreasing_by
 · cases star with
   | none=>exact Prod.Lex.left _ _ (Nat.lt_succ_self _)
   | some s=>exact Prod.Lex.right _ (Prod.Lex.left _ _ (Nat.lt_succ_self _))
 · simp only [Prod.lex_def,List.length_cons]
   cases star with
   | none=>exact Or.inl (Nat.lt_succ_self _)
   | some s=>
    rcases Nat.lt_or_eq_of_le (h s rfl) with hless | hsame
    · exact Or.inl hless
    · exact Or.inr ⟨hsame,Or.inr ⟨trivial,Nat.lt_succ_self _⟩⟩
 · exact Prod.Lex.left _ _ (Nat.lt_succ_self _)
 · exact Prod.Lex.left _ _ (Nat.lt_succ_self _)

def globMatches (pattern text:Text) : Bool :=
 globLoop (bytesOf pattern) (bytesOf text) none nofun

def accountSelectorMatches (selector id:Text) (label email:Option Text) : Bool :=
 let selector:=toAsciiLowercase (trim selector)
 if selector.isEmpty then false
 else [some id,label,email].any fun value=>match value with
  | none=>false
  | some value=>
   let value:=toAsciiLowercase (trim value)
   !value.isEmpty&&globMatches selector value

structure Call where
 profiles : List CursorAccountProfile
 currentToken : Text
 model : Text
 clientType : Text
 offset : ℕ

def maxAccountFailoverSwaps : ℕ := 16

def accountFailoverSwapLimit (profiles:List CursorAccountProfile) : ℕ :=
 min ((profiles.filter fun profile=>nonempty (trim profile.accessToken)).length-1)
  maxAccountFailoverSwaps

def isSand (clientType:Text) : Bool := toAsciiLowercase (trim clientType) = "sand".toList

def selectorAllows (moment:Moment) (model:Text) (profile:CursorAccountProfile) : Bool :=
 match moment.cursorAccountForModel model with
 | some selector=>accountSelectorMatches selector profile.id profile.label profile.email
 | none=>true

def cooledDown (moment:Moment) (model clientType token:Text) : Bool :=
 moment.policyRateLimitBreakerState model clientType token ||
  (isSand clientType&&moment.sandAccountRouteIsCooled model token)

def exhausted (moment:Moment) (clientType token:Text) : Bool :=
 isSand clientType&&match moment.cachedSandUsageEvidence token with
  | some evidence=>evidence.full||evidence.hasAvailableUsage==some false
  | none=>false

section candidates
variable (env:FailoverEnv) (moment:Moment) (call:Call) (attempted:List Text)

def candidateOf (profile:CursorAccountProfile) : Option (Text×Text) :=
 let token:=trim profile.accessToken
 if token.isEmpty then none
 else
  let digest:=cursorAccountDigest env token
  if digest=cursorAccountDigest env call.currentToken||attempted.contains digest ||
   attempted.contains profile.id then none
  else if !selectorAllows moment call.model profile then none
  else if cooledDown moment call.model call.clientType token then none
  else if exhausted moment call.clientType token then none
  else some (profile.id,token)

def accountFailoverCandidates : List Text :=
 ((call.profiles.filterMap (candidateOf env moment call attempted)).insertionSort
  fun left right=>left.1<right.1 ∨ left.1=right.1 ∧ left.2 ≤ right.2).map Prod.snd

end candidates

inductive Event where
 | marked (id:Option Text) (digest:Text)
 | refused (call:Call)
 | granted (call:Call) (moment:Moment) (token:Text)

/-- Where a caller is between its turns at the lock. -/
inductive Phase where
 | idle
 | entered (call:Call)
 | read (call:Call) (attempted:List Text)
 | chosen (call:Call) (moment:Moment) (candidates:List Text)

/-- The set of attempted accounts is read for membership only; the log has its last event first. -/
structure FailoverState (κ:Type) where
 swaps : ℕ
 attempted : List Text
 callers : κ → Phase
 log : List Event

inductive Action (κ:Type) where
 | markPreRebalance (previousId:Option Text) (previousDigest:Text) (rebalanced:Bool)
 | enter (key:κ) (call:Call)
 | read (key:κ)
 | select (key:κ) (moment:Moment)
 | claim (key:κ)

def profileIdOf (profiles:List CursorAccountProfile) (token:Text) : Option Text :=
 (profiles.find? fun profile=>profile.accessToken=token).map CursorAccountProfile.id

/-- The candidates in the order of the walk that starts at the offset. -/
def walk (candidates:List Text) (offset:ℕ) : List Text :=
 (List.range candidates.length).filterMap fun step=>
  candidates[(offset+step) % candidates.length]?

def isAttempted (env:FailoverEnv) (attempted:List Text) (profiles:List CursorAccountProfile) (token:Text) : Bool :=
 attempted.contains (cursorAccountDigest env token) ||
  (profileIdOf profiles token).any fun id=>attempted.contains id

namespace FailoverState
variable {κ:Type} [DecidableEq κ] (env:FailoverEnv)

def new (currentToken:Text) : FailoverState κ where
 swaps := 0
 attempted := [cursorAccountDigest env currentToken]
 callers := fun _=>.idle
 log := [.marked none (cursorAccountDigest env currentToken)]

def moved (s:FailoverState κ) (key:κ) (phase:Phase) : FailoverState κ :=
 { s with callers := Function.update s.callers key phase }

def refuse (s:FailoverState κ) (key:κ) (call:Call) : FailoverState κ :=
 { s with callers := Function.update s.callers key .idle,log := .refused call::s.log }

def grant (s:FailoverState κ) (key:κ) (call:Call) (moment:Moment) (token:Text) : FailoverState κ where
 swaps := s.swaps+1
 attempted := (profileIdOf call.profiles token).toList ++ cursorAccountDigest env token::s.attempted
 callers := Function.update s.callers key .idle
 log := .granted call moment token::s.log

def markPreRebalance (s:FailoverState κ) (previousId:Option Text) (previousDigest:Text)
 (rebalanced:Bool) : FailoverState κ :=
 if rebalanced then { s with
  attempted := previousId.toList++previousDigest::s.attempted
  log := .marked previousId previousDigest::s.log }
 else s

/-- The first turn at the lock marks the profiles of the current token. -/
def enter (s:FailoverState κ) (key:κ) (call:Call) : FailoverState κ :=
 match s.callers key with
 | .idle=>{ s with
  attempted := ((call.profiles.filter fun profile=>
   profile.accessToken=call.currentToken).map CursorAccountProfile.id)++s.attempted
  callers := Function.update s.callers key (.entered call) }
 | _=>s

def read (s:FailoverState κ) (key:κ) : FailoverState κ :=
 match s.callers key with
 | .entered call=>
  if accountFailoverSwapLimit call.profiles ≤ s.swaps then s.refuse key call
  else s.moved key (.read call s.attempted)
 | _=>s

def select (s:FailoverState κ) (key:κ) (moment:Moment) : FailoverState κ :=
 match s.callers key with
 | .read call attempted=>
  s.moved key (.chosen call moment (accountFailoverCandidates env moment call attempted))
 | _=>s

def claim (s:FailoverState κ) (key:κ) : FailoverState κ :=
 match s.callers key with
 | .chosen call moment candidates=>
  if accountFailoverSwapLimit call.profiles ≤ s.swaps then s.refuse key call
  else match (walk candidates call.offset).find? fun token=>
   !isAttempted env s.attempted call.profiles token with
   | none=>s.refuse key call
   | some token=>s.grant env key call moment token
 | _=>s

def step (s:FailoverState κ) : Action κ → FailoverState κ
 | .markPreRebalance previousId previousDigest rebalanced=>
  s.markPreRebalance previousId previousDigest rebalanced
 | .enter key call=>s.enter key call
 | .read key=>s.read key
 | .select key moment=>s.select env key moment
 | .claim key=>s.claim env key

def run (s:FailoverState κ) (actions:List (Action κ)) : FailoverState κ :=
 actions.foldl (step env) s

end FailoverState

end CursorProxy.AccountFailover
