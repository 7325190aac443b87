import CursorProxy.RetryPolicy

/-! What is remembered of the Sand allowance of an account: polls of the dashboard for a short
time, and quota rejections until the reset. Instants are in nanoseconds. -/
namespace CursorProxy.QuotaEvidence
open CautiousScan JsonValues RetryPolicy XmlElements

structure SandUsageEvidence (π:Type*) where
 usagePercent : π
 hasAvailableUsage : Option Bool
 nextReset : Option Text
 observedAt : ℕ
 explicitUntil : Option ℕ

/-- The digest of an account, `json_f64`, `dashboard_timestamp`, the percentage 100, the reader
of timestamps, and the last instant there is. -/
structure EvidenceEnv (κ π:Type*) where
 accountDigest : Text → κ
 jsonF64 : Option JsonValue → Option π
 dashboardTimestamp : Option JsonValue → Option Text
 full : π
 parseRfc3339 : Text → Option ℤ
 lastInstant : ℕ

def second : ℕ := 10 ^ 9
def sandUsageEvidenceTtl : ℕ := 180*second
def fallbackTtl : ℕ := 15*60*second
def maxTtl : ℕ := 7*24*60*60
def maxAccounts : ℕ := 64

abbrev Cache (κ π:Type*) := List (κ×SandUsageEvidence π)

section
variable {κ π:Type*}

def isFresh (now:ℕ) (evidence:SandUsageEvidence π) : Bool :=
 match evidence.explicitUntil with
 | some instant=>now < instant
 | none=>now-evidence.observedAt<sandUsageEvidenceTtl

def retain (now:ℕ) (cache:Cache κ π) : Cache κ π := cache.filter fun entry=>isFresh now entry.2

def oldest (cache:Cache κ π) : Option κ :=
 (cache.argmin fun entry=>entry.2.observedAt).map Prod.fst

variable [DecidableEq κ] (env:EvidenceEnv κ π)

def lookup (key:κ) (cache:Cache κ π) : Option (SandUsageEvidence π) :=
 (cache.find? fun entry=>entry.1=key).map Prod.snd

def remove (key:κ) (cache:Cache κ π) : Cache κ π := cache.filter fun entry=>entry.1≠key

def insert (key:κ) (evidence:SandUsageEvidence π) (cache:Cache κ π) : Cache κ π :=
 (key,evidence)::remove key cache

/-- The entry seen longest ago gives way to a new account. -/
def makeRoom (key:κ) (cache:Cache κ π) : Cache κ π :=
 if maxAccounts ≤ cache.length ∧ (lookup key cache).isNone then
  ((oldest cache).map fun key=>remove key cache).getD cache
 else cache

def storeSandUsageEvidence (token:Text) (sand:Option JsonValue) (now:ℕ) (cache:Cache κ π) : Cache κ π :=
 let key:=env.accountDigest token
 let cache:=retain now cache
 match sand with
 | none=>cache
 | some sand=>
  if ((lookup key cache).bind SandUsageEvidence.explicitUntil).any (now < ·) then cache
  else match env.jsonF64 (sand.get "usagePercent") with
   | none=>remove key cache
   | some usagePercent=>insert key
     ⟨usagePercent,(sand.get "hasAvailableUsage").bind JsonValue.asBool,
      env.dashboardTimestamp (sand.get "nextResetTimestampUtc"),now,none⟩
     (makeRoom key cache)

def explicitQuota (message:Text) : Bool :=
 let lower:=toAsciiLowercase message
 containsAny lower ["sand_included_limit","sand-included-limit","sand included limit",
  "error_sand_user_rate_limit_exceeded","grok bot usage limit"] ||
  contains lower "error_gpt_4_vision_preview_rate_limit" &&
   containsAny lower ["out of usage","grok bot","included","usage limit"]

/-- The first timestamp behind the marker. Each round begins behind the last one found. -/
def timestampBehind (marker:Text) : ℕ → Text → Option Text
 | 0,_=>none
 | rounds+1,message=>
  match find marker (toAsciiLowercase message) with
  | none=>none
  | some place=>
   let rest:=message.drop (place+marker.length)
   let value:=(rest.dropWhile ("\"':=, \t".toList.contains ·)).takeWhile fun char=>
    !("\"',\x7d]; \t\n".toList.contains char)
   if !value.isEmpty&&(env.parseRfc3339 value).isSome then some value
   else timestampBehind marker rounds rest

def sandResetTimestampFromMessage (message:Text) : Option Text :=
 ["nextresetat","next_reset_at","dashboard reset"].findSome? fun marker=>
  timestampBehind env marker.toList (message.length+1) message

def checkedAdd (instant duration:ℕ) : Option ℕ :=
 if instant+duration ≤ env.lastInstant then some (instant+duration) else none

/-- The clocks are read after the call has begun. -/
def sandResetInstant (reset:Text) (utcNow:ℤ) (now:ℕ) : Option ℕ :=
 (env.parseRfc3339 reset).bind fun parsed=>
  let seconds:=(parsed-utcNow).tdiv second
  if seconds ≤ 0 then none else checkedAdd env now (min seconds.toNat maxTtl*second)

def explicitUntil (message:Text) (now later:ℕ) (utcNow:ℤ) : Option ℕ :=
 ((sandResetTimestampFromMessage env message).bind fun reset=>
  sandResetInstant env reset utcNow later).or (checkedAdd env now fallbackTtl)

def recordSandQuotaErrorEvidence (token message:Text) (now later:ℕ) (utcNow:ℤ) (cache:Cache κ π) : Cache κ π :=
 if explicitQuota message then
  let key:=env.accountDigest token
  insert key ⟨env.full,some false,sandResetTimestampFromMessage env message,now,
   explicitUntil env message now later utcNow⟩ (makeRoom key (retain now cache))
 else cache

def cachedSandUsageEvidence (token:Text) (now:ℕ) (cache:Cache κ π) : Cache κ π×Option (SandUsageEvidence π) :=
 (retain now cache,lookup (env.accountDigest token) (retain now cache))

inductive Call where
 | store (token:Text) (sand:Option JsonValue)
 | record (token message:Text) (later:ℕ) (utcNow:ℤ)
 | cached (token:Text)

def Call.run (now:ℕ) (cache:Cache κ π) : Call → Cache κ π
 | .store token sand=>storeSandUsageEvidence env token sand now cache
 | .record token message later utcNow=>
  recordSandQuotaErrorEvidence env token message now later utcNow cache
 | .cached token=>(cachedSandUsageEvidence env token now cache).1

/-- A rejection lasts at least as long as the one that it replaces. -/
def Lasting (now:ℕ) (cache:Cache κ π) : Call → Prop
 | .record token message later utcNow=>explicitQuota message=true →
  ∀ evidence∈lookup (env.accountDigest token) cache,∀ instant∈evidence.explicitUntil,
   now < instant → ∃ next,explicitUntil env message now later utcNow=some next ∧
    instant ≤ next
 | _=>True

/-- Calls one after another, with room for one more account. -/
inductive Run : ℕ → Cache κ π → ℕ → Cache κ π → Prop
 | refl (now:ℕ) (cache:Cache κ π) : Run now cache now cache
 | step {start now later:ℕ} {first cache:Cache κ π} (call:Call) : Run start first now cache →
  now ≤ later → (retain later cache).length < maxAccounts → Lasting env later cache call →
  Run start first later (call.run env later cache)

/-- Up to an instant the account is known to be exhausted. -/
def Held (key:κ) (instant now:ℕ) (cache:Cache κ π) : Prop :=
 now < instant → ∃ evidence∈lookup key cache,∃ last∈evidence.explicitUntil,
  instant ≤ last ∧ evidence.usagePercent=env.full ∧ evidence.hasAvailableUsage=some false

end

section
variable {κ π:Type*} [DecidableEq κ] {env:EvidenceEnv κ π} {key other:κ} {instant now later:ℕ}
 {cache:Cache κ π} {evidence:SandUsageEvidence π}

theorem lookup_filter {keep:κ×SandUsageEvidence π → Bool} (h:lookup key cache=some evidence)
  (hkeep:keep (key,evidence)=true) : lookup key (cache.filter keep)=some evidence:=by
 induction cache with
 | nil=>cases h
 | cons entry cache ih=>
  unfold lookup at h ih ⊢
  by_cases hentry:entry.1=key
  · rw [List.find?_cons_of_pos (by simpa using hentry)] at h
    obtain rfl:=Option.some.inj h
    subst hentry
    rw [List.filter_cons_of_pos hkeep,List.find?_cons_of_pos (by simp)]
    rfl
  · rw [List.find?_cons_of_neg (by simpa using hentry)] at h
    by_cases hkept:keep entry=true
    · rw [List.filter_cons_of_pos hkept,List.find?_cons_of_neg (by simpa using hentry)]
      exact ih h
    · rw [List.filter_cons_of_neg hkept]
      exact ih h

theorem lookup_insert_self : lookup key (insert key evidence cache)=some evidence:=by
 unfold lookup insert
 rw [List.find?_cons_of_pos (by simp)]
 rfl

theorem lookup_remove_ne (hne:key≠other) (h:lookup key cache=some evidence) :
  lookup key (remove other cache)=some evidence :=
 lookup_filter h (decide_eq_true hne)

theorem lookup_insert_ne {newer:SandUsageEvidence π} (hne:key≠other)
  (h:lookup key cache=some evidence) : lookup key (insert other newer cache)=some evidence:=by
 have hrest:=lookup_remove_ne hne h
 unfold lookup insert at *
 rwa [List.find?_cons_of_neg (by simpa using hne.symm)]

theorem makeRoom_small (h:cache.length < maxAccounts) : makeRoom key cache=cache :=
 if_neg fun hfull=>absurd hfull.1 (Nat.not_le.mpr h)

theorem lookup_retain (h:lookup key cache=some evidence) {last:ℕ}
  (hlast:evidence.explicitUntil=some last) (hnow:now<last) : lookup key (retain now cache)=some evidence:=by
 refine lookup_filter h ?_
 unfold isFresh
 rw [hlast]
 exact decide_eq_true hnow

theorem retained_fresh (h:lookup key (retain now cache)=some evidence) {last:ℕ}
  (hlast:evidence.explicitUntil=some last) : now<last:=by
 obtain ⟨entry,hfind,rfl⟩:=Option.map_eq_some_iff.mp h
 have hfresh:=(List.mem_filter.mp (List.mem_of_find?_eq_some hfind)).2
 unfold isFresh at hfresh
 rw [hlast] at hfresh
 exact of_decide_eq_true hfresh

theorem held_step (h:Held env key instant now cache) (htime:now ≤ later)
  (hroom:(retain later cache).length < maxAccounts) {call:Call} (hlasting:Lasting env later cache call) :
  Held env key instant later (call.run env later cache):=by
 intro hlater
 obtain ⟨evidence,hfound,last,hlast,hle,hfull,havailable⟩:=h (htime.trans_lt hlater)
 have hkept:=lookup_retain hfound hlast (hlater.trans_le hle)
 cases call with
 | cached token=>exact ⟨evidence,hkept,last,hlast,hle,hfull,havailable⟩
 | store token sand=>
  have hsame:lookup key (storeSandUsageEvidence env token sand later cache) = some evidence:=by
   unfold storeSandUsageEvidence
   dsimp only
   rw [makeRoom_small hroom]
   cases sand with
   | none=>exact hkept
   | some sand=>
    dsimp only
    by_cases hkey:key=env.accountDigest token
    · rw [← hkey,hkept,if_pos]
      · exact hkept
      · rw [Option.bind_some,hlast]
        exact decide_eq_true (hlater.trans_le hle)
    · split
      · exact hkept
      · split
        · exact lookup_remove_ne hkey hkept
        · exact lookup_insert_ne hkey hkept
  exact ⟨evidence,hsame,last,hlast,hle,hfull,havailable⟩
 | record token message readAt utcNow=>
  change ∃ evidence∈lookup key (recordSandQuotaErrorEvidence env token message later readAt utcNow cache),_
  unfold recordSandQuotaErrorEvidence
  split_ifs with hquota
  · dsimp only
    rw [makeRoom_small hroom]
    by_cases hkey:key=env.accountDigest token
    · subst hkey
      obtain ⟨next,hnext,hlonger⟩:=hlasting hquota evidence hfound last hlast (hlater.trans_le hle)
      exact ⟨_,lookup_insert_self,next,hnext,hle.trans hlonger,rfl,rfl⟩
    · exact ⟨evidence,lookup_insert_ne hkey hkept,last,hlast,hle,hfull,havailable⟩
  · exact ⟨evidence,hfound,last,hlast,hle,hfull,havailable⟩

theorem held_run {end_:ℕ} {final:Cache κ π} (hrun:Run env now cache end_ final)
  (h:Held env key instant now cache) : Held env key instant end_ final:=by
 induction hrun with
 | refl=>exact h
 | step call _ htime hroom hlasting ih=>exact held_step (ih h) htime hroom hlasting

end

def digitEnv : EvidenceEnv Text ℕ where
 accountDigest := id
 jsonF64 _ := none
 dashboardTimestamp _ := none
 full := 100
 parseRfc3339 text := if text = "2".toList then some (5000*second) else none
 lastInstant := 10 ^ 20

def resetMessage : Text := "Sand included limit, nextResetAt 2".toList
def bareMessage : Text := "Sand included limit".toList

end CursorProxy.QuotaEvidence
